import WarehouseMigration.Connector.Setup
import WarehouseMigration.Connector.Source
import WarehouseMigration.Proofs.Session.Calls
import WarehouseMigration.Proofs.Text.Encoding

/-!
# Connections that are set up and then used

The answers about a source are stored as secrets, and the connector of the source reads secrets to make its address.
The two sides meet in the keys.  What is done with the secrets of a scope is the list of its accesses (`Access`), and
under a key stands what was put there last (`held`); a workspace serves a list of accesses if it answers accordingly
(`Serves`), in Base64, which is read back as it was written (`decode_encode`).

Starting from an empty scope, the answers of the operator end up under the keys of the questions
(`exec_saveConnection`).  For Oracle these are the keys of the connector, so that its address holds the answers
(`exec_address_oracle`).  For Snowflake the account is stored under a key that the connector does not read
(`exec_address_snowflake`), and for the other databases there are no questions at all: so a connection can be used just
for Oracle (`connection_usable_iff`).
-/

namespace WarehouseMigration.Connector

open WarehouseMigration.Flow

/-! ### Secrets in Base64 -/

/-- A secret is read as it was put. -/
theorem decode_encode (text : String) : Secret.decode (Secret.encode text) = .ok text := by
  have hbytes : ∀ b ∈ Text.utf8 text, b < 256 := fun b hb => Text.lt_of_mem_utf8 hb
  have hascii : ((Secret.encode text).toList.any fun c => 128 ≤ c.toNat) = false := by
    rw [List.any_eq_false, Secret.encode, String.toList_ofList]
    intro c hc
    have hlt := Text.Base64.toNat_lt_of_mem_encode hbytes hc
    simp only [decide_eq_true_eq]
    omega
  rw [Secret.decode, hascii, Secret.encode, String.toList_ofList, Text.Base64.decode_encode hbytes]
  simp only [Text.fromUtf8_utf8, String.ofList_toList]
  rfl

/-! ### Accesses to a scope -/

inductive Access where
  | looked (key : String)
  | put (key text : String)
deriving DecidableEq

def lookupCall (scope key : String) : Call := ⟨"secrets.get_secret", [.text scope, .text key], [], .null⟩

def putCall (scope key text : String) : Call :=
  ⟨"secrets.put_secret", [], [("scope", .text scope), ("key", .text key), ("string_value", .text text)], .null⟩

/-- The access to a scope that a call is, if it is one. -/
def Access.of? (scope : String) (c : Call) : Option Access :=
  match c.parts, c.named with
  | [.text place, .text key], [] =>
    if c.name = "secrets.get_secret" ∧ place = scope then some (.looked key) else none
  | [], [("scope", .text place), ("key", .text key), ("string_value", .text text)] =>
    if c.name = "secrets.put_secret" ∧ place = scope then some (.put key text) else none
  | _, _ => none

def accesses (scope : String) (s : Session) : List Access := s.seen (Access.of? scope)

def Access.puts? (key : String) : Access → Option String
  | .looked _ => none
  | .put other text => if other = key then some text else none

/-- The secret under a key after some accesses: the one that was put there last. -/
def held (key : String) : List Access → Option String
  | [] => none
  | access :: rest => (held key rest).or (access.puts? key)

private theorem held_append (key : String) (first rest : List Access) :
    held key (first ++ rest) = (held key rest).or (held key first) := by
  induction first with
  | nil => simp [held]
  | cons access first ih => rw [List.cons_append, held, ih, held, Option.or_assoc]

/-- Every secret that is looked up has not been put before, so that an empty scope is what the lookup finds. -/
def Consistent (accesses : List Access) : Prop :=
  ∀ before key after, accesses = before ++ .looked key :: after → held key before = none

def exchange (secret : String × String) : List Access := [.looked secret.1, .put secret.1 secret.2]

variable {secrets : List (String × String)}

private theorem held_exchanges_of_not_mem {key : String} (h : key ∉ secrets.map Prod.fst) :
    held key (secrets.flatMap exchange) = none := by
  induction secrets with
  | nil => rfl
  | cons secret secrets ih =>
    simp only [List.map_cons, List.mem_cons, not_or] at h
    have hne : secret.1 ≠ key := fun heq => h.1 heq.symm
    rw [List.flatMap_cons, held_append, ih h.2]
    simp [exchange, held, Access.puts?, hne]

/-- Secrets that are stored under different keys are all there. -/
private theorem held_exchanges_of_mem {secret : String × String} (hkeys : (secrets.map Prod.fst).Nodup)
    (h : secret ∈ secrets) : held secret.1 (secrets.flatMap exchange) = some secret.2 := by
  induction secrets with
  | nil => cases h
  | cons other secrets ih =>
    rw [List.map_cons, List.nodup_cons] at hkeys
    rw [List.flatMap_cons, held_append]
    rcases List.mem_cons.1 h with rfl | hmem
    · rw [held_exchanges_of_not_mem hkeys.1]
      simp [exchange, held, Access.puts?]
    · rw [ih hkeys.2 hmem, Option.some_or]

/-- A secret that is not there can be looked up and put. -/
private theorem Consistent.exchange {first : List Access} (h : Consistent first) {secret : String × String}
    (hnone : held secret.1 first = none) : Consistent (first ++ exchange secret) := by
  intro before key after hsplit
  rcases List.append_eq_append_iff.1 hsplit with ⟨middle, hbefore, hlast⟩ | ⟨middle, hfirst, hlast⟩
  · -- the lookup is among the new accesses, so it is the first of them
    rcases middle with - | ⟨access, middle⟩
    · cases hlast
      rw [hbefore, List.append_nil]
      exact hnone
    · exfalso
      rcases middle with - | ⟨other, middle⟩ <;> simp [Connector.exchange] at hlast
  · rcases middle with - | ⟨access, middle⟩
    · cases hlast
      rw [List.append_nil] at hfirst
      rw [← hfirst]
      exact hnone
    · obtain ⟨rfl, -⟩ := List.cons_eq_cons.1 hlast
      exact h before key middle hfirst

/-- Secrets that are stored under different keys are each looked up before they are there. -/
private theorem Consistent.exchanges {first : List Access} (h : Consistent first)
    (hkeys : (secrets.map Prod.fst).Nodup) (hnone : ∀ secret ∈ secrets, held secret.1 first = none) :
    Consistent (first ++ secrets.flatMap Connector.exchange) := by
  induction secrets generalizing first with
  | nil => simpa using h
  | cons secret secrets ih =>
    rw [List.map_cons, List.nodup_cons] at hkeys
    obtain ⟨hsecret, hrest⟩ := List.forall_mem_cons.1 hnone
    rw [List.flatMap_cons, ← List.append_assoc]
    refine ih (h.exchange hsecret) hkeys.2 fun other hother => ?_
    have hne : secret.1 ≠ other.1 := fun heq => hkeys.1 (heq ▸ List.mem_map_of_mem hother)
    rw [held_append, hrest other hother]
    simp [Connector.exchange, held, Access.puts?, hne]

/-! ### Setting up -/

/-- A workspace in which a scope is not there yet, and nothing that is looked up in it is found. -/
structure EmptyScope (scope : String) (s : Session) : Prop where
  unscripted : ∀ name ∈ ["secrets.create_scope", "secrets.get_secret", "secrets.put_secret"], s.Unscripted name
  scopes : s.replies.lookup "secrets.list_scopes" = none
  unlisted : ∃ listed items, s.given ⟨"secrets.list_scopes", [], [], .null⟩ = .value listed ∧
    listed.asItems = .ok items ∧ items.any (· == .text scope) = false
  created : ∃ v, s.given ⟨"secrets.create_scope", [.text scope], [], .null⟩ = .value v
  absent : ∀ key, ∃ reason, s.given (lookupCall scope key) = .failure (.remote "ResourceDoesNotExist" reason)
  stored : ∀ key text, ∃ v, s.given (putCall scope key text) = .value v

/-- Some answers of the operator were used up and some accesses made; the workspace answers as before. -/
structure Leads (scope : String) (used : List Reply) (made : List Access) (s s' : Session) : Prop where
  empty : EmptyScope scope s'
  answers : s.answers = used ++ s'.answers
  accesses : accesses scope s' = accesses scope s ++ made

variable {scope : String} {s s' : Session}

private theorem EmptyScope.refl (h : EmptyScope scope s) : Leads scope [] [] s s := ⟨h, rfl, (List.append_nil _).symm⟩

private theorem Leads.trans {used others : List Reply} {made more : List Access} {s₁ s₂ : Session}
    (h : Leads scope used made s s₁) (h' : Leads scope others more s₁ s₂) :
    Leads scope (used ++ others) (made ++ more) s s₂ := by
  refine ⟨h'.empty, ?_, ?_⟩
  · rw [h.answers, h'.answers, List.append_assoc]
  · rw [h'.accesses, h.accesses, List.append_assoc]

variable {rest : List Reply}

/-- What is recorded and what answers are left does not change the workspace. -/
private theorem EmptyScope.leads (h : EmptyScope scope s) (call : Call) (used : List Reply)
    (hanswers : s.answers = used ++ rest) :
    Leads scope used (Access.of? scope call).toList s { s with calls := s.calls ++ [call], answers := rest } := by
  refine ⟨⟨fun name hname => ⟨(h.unscripted name hname).shared, (h.unscripted name hname).replies⟩, h.scopes,
    h.unlisted, h.created, h.absent, h.stored⟩, hanswers, ?_⟩
  simp only [Connector.accesses, Session.seen, List.filterMap_append]
  cases hcall : Access.of? scope call <;> simp [hcall]

/-- A question of the operator is no access. -/
private theorem of?_ask (kind : String) (h : kind ∉ ["secrets.get_secret", "secrets.put_secret"]) (parts : List Value)
    (named : List (String × Value)) : Access.of? scope ⟨kind, parts, named, .null⟩ = none := by
  simp only [List.mem_cons, List.not_mem_nil, or_false, not_or] at h
  simp only [Access.of?, h.1, h.2, false_and, if_false]
  split <;> rfl

private theorem of?_lookupCall (scope key : String) : Access.of? scope (lookupCall scope key) = some (.looked key) := by
  simp [Access.of?, lookupCall]

private theorem of?_putCall (scope key text : String) : Access.of? scope (putCall scope key text) = some
    (.put key text) := by
  simp [Access.of?, putCall]

namespace EmptyScope

private theorem exec_ask (h : EmptyScope scope s) {v : Value} (hanswers : s.answers = .value v :: rest)
    {kind : String} (hkind : kind ∉ ["secrets.get_secret", "secrets.put_secret"]) (parts : List Value)
    (named : List (String × Value)) :
    ∃ s', (ask kind parts named).exec s = (.ok v, s') ∧ Leads scope [.value v] [] s s' := by
  refine ⟨_, Flow.exec_ask hanswers kind parts named, ?_⟩
  have hleads := h.leads ⟨kind, parts, named, .null⟩ [.value v] hanswers
  rwa [of?_ask kind hkind] at hleads

private theorem exec_question (h : EmptyScope scope s) {v : Value} (hanswers : s.answers = .value v :: rest)
    (prompt : String) (proposal : Option Value) :
    ∃ s', (Flow.question prompt proposal).exec s = (.ok v, s') ∧ Leads scope [.value v] [] s s' :=
  h.exec_ask hanswers (show "question" ∉ _ by decide) _ _

private theorem exec_call (h : EmptyScope scope s) {name : String}
    (hname : name ∈ ["secrets.create_scope", "secrets.get_secret", "secrets.put_secret"]) (parts : List Value)
    (named : List (String × Value)) :
    ∃ s', (call name parts named).exec s = ((s.given ⟨name, parts, named, .null⟩).outcome, s') ∧
      Leads scope [] (Access.of? scope ⟨name, parts, named, .null⟩).toList s s' :=
  ⟨_, exec_call_of_unscripted (h.unscripted name hname) parts named, h.leads _ [] rfl⟩

private theorem exec_hasScope (h : EmptyScope scope s) : (hasScope (.text scope)).exec s = (.ok false, s) := by
  obtain ⟨listed, items, hgiven, hitems, hnone⟩ := h.unlisted
  have hconsult : (consult "secrets.list_scopes").exec s = (.ok listed, s) := by
    rw [consult, exec_replyTo_of_unscripted h.scopes, hgiven]
    rfl
  rw [hasScope, exec_bind_of_ok hconsult, hitems, exec_bind_of_ok (exec_ofOutcome _ s), hnone]
  rfl

/-- The scope is created if the operator agrees. -/
private theorem exec_ensureScope (h : EmptyScope scope s) {consent : Value}
    (hconsent : consent.isSet = true) (hanswers : s.answers = .value consent :: rest) :
    ∃ s', (ensureScope (.text scope)).exec s = (.ok (), s') ∧ Leads scope [.value consent] [] s s' := by
  obtain ⟨s₁, hask, hleads⟩ := h.exec_ask hanswers (show "confirm" ∉ _ by decide)
    ["Do you want to create a new one?"] []
  have hconfirm : (confirm "Do you want to create a new one?").exec s = (.ok true, s₁) := by
    rw [confirm, exec_bind_of_ok hask, hconsent]
    rfl
  obtain ⟨s₂, hcall, hleads'⟩ := hleads.empty.exec_call (show "secrets.create_scope" ∈ _ by decide) [.text scope] []
  obtain ⟨v, hv⟩ := hleads.empty.created
  rw [hv] at hcall
  rw [of?_ask _ (by decide)] at hleads'
  refine ⟨s₂, ?_, hleads.trans hleads'⟩
  rw [ensureScope, exec_bind_of_ok h.exec_hasScope, if_neg Bool.false_ne_true, exec_bind_of_ok hconfirm, if_pos rfl]
  exact exec_bind_of_ok hcall

private theorem exec_hasSecret (h : EmptyScope scope s) (key : String) :
    ∃ s', (hasSecret (.text scope) (.text key)).exec s = (.ok false, s') ∧ Leads scope [] [.looked key] s s' := by
  obtain ⟨s', hcall, hleads⟩ := h.exec_call (show "secrets.get_secret" ∈ _ by decide) [.text scope, .text key] []
  obtain ⟨reason, hreason⟩ := h.absent key
  have haccess := of?_lookupCall scope key
  rw [lookupCall] at hreason haccess
  rw [hreason] at hcall
  rw [haccess] at hleads
  refine ⟨s', ?_, hleads⟩
  rw [hasSecret, recover, exec_bind_of_ok (exec_attempt _ s), exec_bind_of_error hcall]
  rfl

private theorem exec_storeSecret (h : EmptyScope scope s) (key text : String) :
    ∃ s', (storeSecret (.text scope) (.text key) (.text text)).exec s = (.ok (), s') ∧
      Leads scope [] [.put key text] s s' := by
  obtain ⟨s', hcall, hleads⟩ := h.exec_call (show "secrets.put_secret" ∈ _ by decide) []
    [("scope", .text scope), ("key", .text key), ("string_value", .text text)]
  obtain ⟨v, hv⟩ := h.stored key text
  have haccess := of?_putCall scope key text
  rw [putCall] at hv haccess
  rw [hv] at hcall
  rw [haccess] at hleads
  exact ⟨s', exec_bind_of_ok hcall, hleads⟩

private theorem exec_storeSecrets (h : EmptyScope scope s) (secrets : List (String × String)) :
    ∃ s', (storeSecrets (.text scope) (secrets.map fun secret => (secret.1, .text secret.2))).exec s = (.ok (), s') ∧
      Leads scope [] (secrets.flatMap exchange) s s' := by
  induction secrets generalizing s with
  | nil => exact ⟨s, rfl, h.refl⟩
  | cons secret secrets ih =>
    obtain ⟨s₁, hlookup, hleads₁⟩ := h.exec_hasSecret secret.1
    obtain ⟨s₂, hput, hleads₂⟩ := hleads₁.empty.exec_storeSecret secret.1 secret.2
    obtain ⟨s₃, hrest, hleads₃⟩ := ih hleads₂.empty
    refine ⟨s₃, ?_, (hleads₁.trans hleads₂).trans hleads₃⟩
    rw [storeSecrets, List.map_cons, List.forM_eq_forM, List.forM_cons]
    exact (exec_bind_of_ok (a := ()) ((exec_bind_of_ok hlookup).trans hput)).trans hrest

private theorem exec_askAll (h : EmptyScope scope s) (questions : List (String × String × Option Value))
    (texts : List String) (hlength : texts.length = questions.length)
    (hanswers : s.answers = texts.map (fun text => .value (.text text)) ++ rest) :
    ∃ s', (questions.mapM fun (key, prompt, proposal) => do
        return (key, ← Flow.question prompt proposal) : Flow (List (String × Value))).exec s =
          (.ok (((questions.map Prod.fst).zip texts).map fun secret => (secret.1, .text secret.2)), s') ∧
      Leads scope (texts.map fun text => .value (.text text)) [] s s' := by
  induction questions generalizing s texts with
  | nil =>
    rw [List.length_nil, List.length_eq_zero_iff] at hlength
    subst hlength
    exact ⟨s, rfl, h.refl⟩
  | cons question questions ih =>
    obtain ⟨key, prompt, proposal⟩ := question
    rcases texts with - | ⟨text, texts⟩
    · simp at hlength
    simp only [List.length_cons, Nat.add_right_cancel_iff] at hlength
    rw [List.map_cons, List.cons_append] at hanswers
    obtain ⟨s₁, hask, hleads⟩ := h.exec_question hanswers prompt proposal
    have hrest : s₁.answers = texts.map (fun text => .value (.text text)) ++ rest := by
      have hused := hleads.answers
      rw [hanswers] at hused
      simpa using hused.symm
    obtain ⟨s₂, hmap, hleads'⟩ := ih hleads.empty texts hlength hrest
    refine ⟨s₂, ?_, hleads.trans hleads'⟩
    rw [List.mapM_cons]
    have hfirst : (do return (key, ← Flow.question prompt proposal) : Flow (String × Value)).exec s =
        (.ok (key, .text text), s₁) := by
      rw [exec_bind_of_ok hask]
      rfl
    refine (exec_bind_of_ok hfirst).trans ((exec_bind_of_ok hmap).trans ?_)
    rfl

end EmptyScope

/-- The secrets that the answers about a source give: one for each question, under its key. -/
def secretsOf (source : String) (texts : List String) : List (String × String) :=
  (((connectionQuestions source).getD []).map Prod.fst).zip texts

/-- A scope is to be made in an empty workspace, the operator agrees, and has a text for each question. -/
structure Interview (source scope : String) (texts : List String) (s : Session) : Prop where
  empty : EmptyScope scope s
  fresh : accesses scope s = []
  length : texts.length = ((connectionQuestions source).getD []).length
  answers : ∃ consent, consent.isSet = true ∧
    s.answers = .value (.text scope) :: .value consent :: texts.map fun text => .value (.text text)

private theorem keys_nodup {source : String} {questions : List (String × String × Option Value)}
    (h : connectionQuestions source = some questions) : (questions.map Prod.fst).Nodup := by
  unfold connectionQuestions at h
  split at h
  · cases h
    decide
  · cases h
    decide
  · cases h

namespace Interview

variable {source : String} {texts : List String}

/-- The scope is made before the first question about the source. -/
private theorem exec_scope (h : Interview source scope texts s) :
    ∃ consent s₁ s₂, s₂.answers = texts.map (fun text => .value (.text text)) ∧
      Leads scope [.value (.text scope), .value consent] [] s s₂ ∧
      (Flow.question "Enter Secret Scope name").exec s = (.ok (.text scope), s₁) ∧
      (ensureScope (.text scope)).exec s₁ = (.ok (), s₂) := by
  obtain ⟨consent, hconsent, hanswers⟩ := h.answers
  obtain ⟨s₁, hask, hleads₁⟩ := h.empty.exec_question hanswers "Enter Secret Scope name" none
  have hanswers₁ : s₁.answers = .value consent :: texts.map fun text => .value (.text text) := by
    have hused := hleads₁.answers
    rw [hanswers] at hused
    simpa using hused.symm
  obtain ⟨s₂, hensure, hleads₂⟩ := hleads₁.empty.exec_ensureScope hconsent hanswers₁
  refine ⟨consent, s₁, s₂, ?_, hleads₁.trans hleads₂, hask, hensure⟩
  have hused := hleads₂.answers
  rw [hanswers₁] at hused
  simpa using hused.symm

/-- The answers are stored under the keys of the questions. -/
theorem exec_saveConnection (h : Interview source scope texts s)
    (hsource : (Value.text source == .text "databricks") = false)
    {questions : List (String × String × Option Value)} (hquestions : connectionQuestions source = some questions) :
    ∃ s', (saveConnection (.text source)).exec s = (.ok (), s') ∧
      accesses scope s' = (secretsOf source texts).flatMap exchange := by
  obtain ⟨consent, s₁, s₂, hanswers, hleads₂, hscope, hensure⟩ := h.exec_scope
  have hlength := h.length
  rw [hquestions] at hlength
  rw [← List.append_nil (texts.map _)] at hanswers
  obtain ⟨s₃, hall, hleads₃⟩ := hleads₂.empty.exec_askAll questions texts hlength hanswers
  obtain ⟨s₄, hstore, hleads₄⟩ := hleads₃.empty.exec_storeSecrets ((questions.map Prod.fst).zip texts)
  refine ⟨s₄, ?_, ?_⟩
  · have hbind : (Value.text source).text?.bind connectionQuestions = some questions := hquestions
    rw [saveConnection, hsource, if_neg Bool.false_ne_true, exec_bind_of_ok hscope, exec_bind_of_ok hensure, hbind]
    exact (exec_bind_of_ok hall).trans hstore
  · rw [((hleads₂.trans hleads₃).trans hleads₄).accesses, h.fresh, secretsOf, hquestions]
    rfl

/-- Without questions the setup fails after the scope was made. -/
private theorem exec_saveConnection_of_unknown (h : Interview source scope texts s)
    (hsource : (Value.text source == .text "databricks") = false) (hunknown : connectionQuestions source = none) :
    ∃ s', (saveConnection (.text source)).exec s =
        (.error (.wrongKind "no questions are known for this source"), s') ∧ accesses scope s' = [] := by
  obtain ⟨consent, s₁, s₂, -, hleads, hscope, hensure⟩ := h.exec_scope
  refine ⟨s₂, ?_, ?_⟩
  · have hbind : (Value.text source).text?.bind connectionQuestions = none := hunknown
    rw [saveConnection, hsource, if_neg Bool.false_ne_true, exec_bind_of_ok hscope, exec_bind_of_ok hensure, hbind]
    rfl
  · rw [hleads.accesses, h.fresh]
    rfl

end Interview

/-! ### Using a connection -/

/-- A workspace that knows the secrets of a scope after some accesses, and gives them in Base64. -/
structure Serves (scope : String) (made : List Access) (t : Session) : Prop where
  unscripted : t.Unscripted "secrets.get_secret"
  found : ∀ key text, held key made = some text →
    t.given (lookupCall scope key) = .value (.object [("value", .text (Secret.encode text))])
  absent : ∀ key, held key made = none → ∃ e, t.given (lookupCall scope key) = .failure e

namespace Serves

variable {made : List Access} {t : Session} {key text : String}

private theorem record (h : Serves scope made t) (call : Call) : Serves scope made
    { t with calls := t.calls ++ [call] } :=
  ⟨⟨h.unscripted.shared, h.unscripted.replies⟩, h.found, h.absent⟩

private theorem exec_lookup (h : Serves scope made t) (key : String) :
    ((Flow.call "secrets.get_secret" [toValue scope, toValue key]).attempt).exec t =
      (.ok (t.given (lookupCall scope key)).outcome, { t with calls := t.calls ++ [lookupCall scope key] }) := by
  rw [exec_attempt, exec_call_of_unscripted h.unscripted]
  rfl

/-- A secret that is there is read as it was stored. -/
private theorem exec_fetch (h : Serves scope made t) (hheld : held key made = some text) :
    ∃ t', (Secret.fetch scope key).exec t = (.ok text, t') ∧ Serves scope made t' := by
  refine ⟨_, ?_, h.record (lookupCall scope key)⟩
  rw [Secret.fetch, exec_bind_of_ok (h.exec_lookup key), h.found key text hheld]
  have hmember : (Value.object [("value", .text (Secret.encode text))]).member "value" =
    .ok (.text (Secret.encode text)) := rfl
  simp only [Reply.outcome]
  rw [hmember, exec_bind_of_ok (exec_ofOutcome _ _)]
  dsimp only
  rw [decode_encode, exec_ofOutcome]

/-- A secret that is not there cannot be read. -/
private theorem exec_fetch_of_absent (h : Serves scope made t) (hheld : held key made = none) :
    ∃ e t', (Secret.fetch scope key).exec t = (.error e, t') := by
  obtain ⟨e, he⟩ := h.absent key hheld
  rw [Secret.fetch, exec_bind_of_ok (h.exec_lookup key), he]
  simp only [Reply.outcome]
  split
  · exact ⟨_, _, rfl⟩
  · exact ⟨_, _, rfl⟩
  · next hok => cases hok

/-- The address is made of what the scope holds. -/
theorem exec_address_oracle (h : Serves scope made t) {user password host port database : String}
    (huser : held "user" made = some user) (hpassword : held "password" made = some password)
    (hhost : held "host" made = some host) (hport : held "port" made = some port)
    (hdatabase : held "database" made = some database) :
    ∃ t', (oracle.address scope).exec t =
      (.ok s!"jdbc:oracle:thin:{user}/{password}@//{host}:{port}/{database}", t') := by
  obtain ⟨t₁, hfetch₁, h₁⟩ := h.exec_fetch huser
  obtain ⟨t₂, hfetch₂, h₂⟩ := h₁.exec_fetch hpassword
  obtain ⟨t₃, hfetch₃, h₃⟩ := h₂.exec_fetch hhost
  obtain ⟨t₄, hfetch₄, h₄⟩ := h₃.exec_fetch hport
  obtain ⟨t₅, hfetch₅, -⟩ := h₄.exec_fetch hdatabase
  refine ⟨t₅, ?_⟩
  rw [address, exec_bind_of_ok hfetch₁, exec_bind_of_ok hfetch₂, exec_bind_of_ok hfetch₃, exec_bind_of_ok hfetch₄,
    exec_bind_of_ok hfetch₅]
  rfl

/-- A Snowflake database cannot be reached without the name of the account under the connector's own key. -/
theorem exec_address_snowflake (h : Serves scope made t) {password : String}
    (hpassword : held "sfPassword" made = some password) (haccount : held "sfAccount" made = none) :
    ∃ e t', (snowflake.address scope).exec t = (.error e, t') := by
  obtain ⟨t₁, hfetch₁, h₁⟩ := h.exec_fetch hpassword
  obtain ⟨e, t₂, hfetch₂⟩ := h₁.exec_fetch_of_absent haccount
  have hattempt : (Secret.fetch scope "sfPassword").attempt.exec t = (.ok (.ok password), t₁) := by
    rw [exec_attempt, hfetch₁]
  refine ⟨e, t₂, ?_⟩
  rw [address]
  dsimp only
  rw [exec_bind_of_ok hattempt]
  exact (exec_bind_of_ok (exec_pure password t₁)).trans (exec_bind_of_error hfetch₂)

end Serves

def served (scope : String) (made : List Access) : Session where
  reaction := fun c =>
    match c.parts with
    | [.text place, .text key] =>
      if c.name = "secrets.get_secret" ∧ place = scope then
        some (match held key made with
          | some text => .value (.object [("value", .text (Secret.encode text))])
          | none => .failure (.remote "NotFound" ""))
      else none
    | _ => none

private theorem served_serves (scope : String) (made : List Access) : Serves scope made (served scope made) where
  unscripted := ⟨rfl, rfl⟩
  found := by
    intro key text h
    simp [Session.given, served, lookupCall, h]
  absent := by
    intro key h
    exact ⟨.remote "NotFound" "", by simp [Session.given, served, lookupCall, h]⟩

def ofSource : String → Connector
  | "snowflake" => snowflake
  | "oracle" => oracle
  | "databricks" => databricks
  | _ => tsql

/-- The keys of what an address must hold: the account or the host, the user, the password and the database. -/
def essentials : String → List String
  | "snowflake" => ["account", "sfUser", "sfPassword", "sfDatabase"]
  | "oracle" => ["host", "user", "password", "database"]
  | _ => []

/-- A connection can be set up and used: the answers are stored, and in every workspace that serves them the connector
of the source makes an address that holds the essential ones. -/
def Usable (source scope : String) (texts : List String) (s : Session) : Prop :=
  ∃ s', (saveConnection (.text source)).exec s = (.ok (), s') ∧
    ∀ t, Serves scope (accesses scope s') t → ∃ url t', ((ofSource source).address scope).exec t = (.ok url, t') ∧
      ∀ secret ∈ secretsOf source texts, secret.1 ∈ essentials source → secret.2.toList <:+: url.toList

private theorem infix_toList_append (before text after : String) : text.toList <:+: (before ++ text ++ after).toList :=
  ⟨before.toList, after.toList, by rw [String.toList_append, String.toList_append]⟩

private theorem infix_oracleAddress (user password host port database : String) :
    ∀ text ∈ [user, password, host, port, database],
      text.toList <:+: s!"jdbc:oracle:thin:{user}/{password}@//{host}:{port}/{database}".toList := by
  intro text htext
  simp only [List.mem_cons, List.not_mem_nil, or_false] at htext
  rcases htext with rfl | rfl | rfl | rfl | rfl
  · simpa only [toString, String.append_assoc] using
      infix_toList_append "jdbc:oracle:thin:" text s!"/{password}@//{host}:{port}/{database}"
  · simpa only [toString, String.append_assoc] using
      infix_toList_append s!"jdbc:oracle:thin:{user}/" text s!"@//{host}:{port}/{database}"
  · simpa only [toString, String.append_assoc] using
      infix_toList_append s!"jdbc:oracle:thin:{user}/{password}@//" text s!":{port}/{database}"
  · simpa only [toString, String.append_assoc] using
      infix_toList_append s!"jdbc:oracle:thin:{user}/{password}@//{host}:" text s!"/{database}"
  · simpa only [toString, String.append_assoc, String.append_empty] using
      infix_toList_append s!"jdbc:oracle:thin:{user}/{password}@//{host}:{port}/" text ""

namespace Interview

variable {source : String} {texts : List String}

private theorem usable_oracle (h : Interview "oracle" scope texts s) : Usable "oracle" scope texts s := by
  obtain ⟨s', hexec, haccesses⟩ := h.exec_saveConnection rfl rfl
  have hlength : texts.length = 5 := h.length
  obtain ⟨user, password, host, port, database, rfl⟩ :
      ∃ user password host port database, texts = [user, password, host, port, database] := by
    rcases texts with - | ⟨user, - | ⟨password, - | ⟨host, - | ⟨port, - | ⟨database, - | ⟨more, texts⟩⟩⟩⟩⟩⟩ <;>
      simp at hlength
    exact ⟨user, password, host, port, database, rfl⟩
  refine ⟨s', hexec, fun t ht => ?_⟩
  rw [haccesses] at ht
  -- the keys differ, so each answer is found again
  have hkeys : ((secretsOf "oracle" [user, password, host, port, database]).map Prod.fst).Nodup := by
    change ["user", "password", "host", "port", "database"].Nodup
    decide
  have hheld : ∀ key text, (key, text) ∈ secretsOf "oracle" [user, password, host, port, database] →
      held key ((secretsOf "oracle" [user, password, host, port, database]).flatMap exchange) = some text := by
    intro key text hmem
    have hsecret := held_exchanges_of_mem hkeys hmem
    exact hsecret
  have hsecrets : secretsOf "oracle" [user, password, host, port, database] =
    [("user", user), ("password", password), ("host", host), ("port", port), ("database", database)] := rfl
  obtain ⟨t', hurl⟩ := ht.exec_address_oracle (hheld "user" user (by simp [hsecrets]))
    (hheld "password" password (by simp [hsecrets])) (hheld "host" host (by simp [hsecrets]))
    (hheld "port" port (by simp [hsecrets])) (hheld "database" database (by simp [hsecrets]))
  have hconnector : ofSource "oracle" = oracle := rfl
  rw [hconnector]
  refine ⟨_, t', hurl, fun secret hsecret _ => infix_oracleAddress user password host port database _ ?_⟩
  rw [hsecrets] at hsecret
  exact List.mem_map_of_mem (f := Prod.snd) hsecret

/-- The account is stored under a key that is not read. -/
private theorem snowflake_fails (h : Interview "snowflake" scope texts s) :
    ∃ s', (saveConnection (.text "snowflake")).exec s = (.ok (), s') ∧
      ∀ t, Serves scope (accesses scope s') t → ∃ e t', (snowflake.address scope).exec t = (.error e, t') := by
  obtain ⟨s', hexec, haccesses⟩ := h.exec_saveConnection rfl rfl
  refine ⟨s', hexec, fun t ht => ?_⟩
  have hlength : texts.length = 8 := h.length
  have hkeys : (secretsOf "snowflake" texts).map Prod.fst =
      ["sfUrl", "account", "sfUser", "sfPassword", "sfDatabase", "sfSchema", "sfWarehouse", "sfRole"] := by
    rw [secretsOf, List.map_fst_zip]
    · rfl
    · rw [hlength]
      decide
  obtain ⟨secret, hsecret, hkey⟩ : ∃ secret ∈ secretsOf "snowflake" texts, secret.1 = "sfPassword" := by
    rw [← List.mem_map, hkeys]
    decide
  have hpassword : held "sfPassword" ((secretsOf "snowflake" texts).flatMap exchange) = some secret.2 := by
    rw [← hkey]
    refine held_exchanges_of_mem ?_ hsecret
    rw [hkeys]
    decide
  have haccount : held "sfAccount" ((secretsOf "snowflake" texts).flatMap exchange) = none := by
    refine held_exchanges_of_not_mem ?_
    rw [hkeys]
    decide
  rw [haccesses] at ht
  exact ht.exec_address_snowflake hpassword haccount

private theorem not_usable_snowflake (h : Interview "snowflake" scope texts s) :
    ¬ Usable "snowflake" scope texts s := by
  obtain ⟨s', hexec, hlost⟩ := h.snowflake_fails
  rintro ⟨s₁, hstored, huse⟩
  rw [hexec] at hstored
  obtain ⟨-, rfl⟩ := Prod.mk.inj hstored
  -- the workspace that serves what was stored gives an address and gives none
  have hserves := served_serves scope (accesses scope s')
  obtain ⟨e, t, hnone⟩ := hlost _ hserves
  obtain ⟨url, t', hsome, -⟩ := huse _ hserves
  have hconnector : ofSource "snowflake" = snowflake := rfl
  rw [hconnector, hnone] at hsome
  cases hsome

private theorem not_usable_of_unknown (h : Interview source scope texts s)
    (hsource : (Value.text source == .text "databricks") = false) (hunknown : connectionQuestions source = none) :
    ¬ Usable source scope texts s := by
  obtain ⟨s', hexec, -⟩ := h.exec_saveConnection_of_unknown hsource hunknown
  rintro ⟨s₁, hstored, -⟩
  rw [hexec] at hstored
  cases hstored

/-- Nothing is looked up after it was put, so that all lookups of a setup are answered as in an empty scope. -/
private theorem consistent (h : Interview source scope texts s)
    (hsource : (Value.text source == .text "databricks") = false) :
    ∃ o s', (saveConnection (.text source)).exec s = (o, s') ∧ Consistent (accesses scope s') ∧
      (connectionQuestions source = none → o = .error (.wrongKind "no questions are known for this source")) := by
  have hnil : Consistent [] := by
    intro before key after hsplit
    simp at hsplit
  cases hquestions : connectionQuestions source with
  | none =>
    obtain ⟨s', hexec, haccesses⟩ := h.exec_saveConnection_of_unknown hsource hquestions
    refine ⟨_, s', hexec, ?_, fun _ => rfl⟩
    rw [haccesses]
    exact hnil
  | some questions =>
    obtain ⟨s', hexec, haccesses⟩ := h.exec_saveConnection hsource hquestions
    refine ⟨_, s', hexec, ?_, fun hnone => by simp at hnone⟩
    rw [haccesses, ← List.nil_append ((secretsOf source texts).flatMap exchange)]
    refine hnil.exchanges ?_ fun _ _ => rfl
    have hkeys := keys_nodup hquestions
    have hlength := h.length
    rw [hquestions] at hlength
    rw [secretsOf, hquestions, List.map_fst_zip]
    · exact hkeys
    · rw [List.length_map]
      exact Nat.le_of_eq hlength.symm

end Interview

/-- Of the databases that can be set up, Oracle is the only one whose connection can be used.  For Snowflake the setup
completes, but no address can be made of what it stored; for the two others the setup itself fails. -/
theorem connection_usable_iff {source : String} (hsource : source ∈ sourceTypes) (hother : source ≠ "databricks")
    {texts : List String} (h : Interview source scope texts s) :
    (Usable source scope texts s ↔ source = "oracle") ∧
    ∃ o s', (saveConnection (.text source)).exec s = (o, s') ∧ Consistent (accesses scope s') ∧
      (source = "snowflake" → o = .ok () ∧
        ∀ t, Serves scope (accesses scope s') t → ∃ e t', ((ofSource source).address scope).exec t = (.error e, t')) ∧
      (source ∈ ["mssql", "synapse"] → o = .error (.wrongKind "no questions are known for this source")) := by
  have hbeq : (Value.text source == .text "databricks") = false := by
    change (source == "databricks") = false
    exact beq_eq_false_iff_ne.2 hother
  obtain ⟨o, s', hexec, hconsistent, hunknown⟩ := h.consistent hbeq
  simp only [sourceTypes, List.mem_cons, List.not_mem_nil, or_false] at hsource
  rcases hsource with rfl | rfl | rfl | rfl | rfl
  · obtain ⟨s₁, hstored, hlost⟩ := h.snowflake_fails
    rw [hexec] at hstored
    obtain ⟨rfl, rfl⟩ := Prod.mk.inj hstored
    exact ⟨⟨fun huse => absurd huse h.not_usable_snowflake, fun heq => absurd heq (by decide)⟩, _, s', hexec,
      hconsistent, fun _ => ⟨rfl, hlost⟩, fun hmem => absurd hmem (by decide)⟩
  · exact ⟨⟨fun _ => rfl, fun _ => h.usable_oracle⟩, o, s', hexec, hconsistent, fun heq => absurd heq (by decide),
      fun hmem => absurd hmem (by decide)⟩
  · exact absurd rfl hother
  · exact ⟨⟨fun huse => absurd huse (h.not_usable_of_unknown rfl rfl), fun heq => absurd heq (by decide)⟩, o, s', hexec,
      hconsistent, fun heq => absurd heq (by decide), fun _ => hunknown rfl⟩
  · exact ⟨⟨fun huse => absurd huse (h.not_usable_of_unknown rfl rfl), fun heq => absurd heq (by decide)⟩, o, s', hexec,
      hconsistent, fun heq => absurd heq (by decide), fun _ => hunknown rfl⟩

def newScope (scope : String) (texts : List String) : Session where
  answers := .value (.text scope) :: .value (.bool true) :: texts.map fun text => .value (.text text)
  reaction := fun c =>
    if c.name = "secrets.list_scopes" then some (.value (.list []))
    else if c.name = "secrets.get_secret" then some (.failure (.remote "ResourceDoesNotExist" ""))
    else none

private theorem newScope_interview (source scope : String) {texts : List String}
    (hlength : texts.length = ((connectionQuestions source).getD []).length) :
    Interview source scope texts (newScope scope texts) where
  empty := {
    unscripted := fun _ _ => ⟨rfl, rfl⟩
    scopes := rfl
    unlisted := ⟨.list [], [], rfl, rfl, rfl⟩
    created := ⟨.null, rfl⟩
    absent := fun _ => ⟨"", rfl⟩
    stored := fun _ _ => ⟨.null, rfl⟩ }
  fresh := rfl
  length := hlength
  answers := ⟨.bool true, rfl, rfl⟩

/-- The values that were typed in reach the address. -/
theorem connection_usable_scott :
    "oracle" ∈ sourceTypes ∧ Usable "oracle" "recon" ["scott", "tiger", "db", "1521", "orcl"]
      (newScope "recon" ["scott", "tiger", "db", "1521", "orcl"]) :=
  ⟨by decide, ((connection_usable_iff (by decide) (by decide) (newScope_interview "oracle" "recon" rfl)).1).2 rfl⟩

theorem connection_not_usable_others :
    ¬ Usable "mssql" "new" [] (newScope "new" []) ∧
    ¬ Usable "snowflake" "new" ["url", "acme", "user", "secret", "sales", "public", "wh", " "]
      (newScope "new" ["url", "acme", "user", "secret", "sales", "public", "wh", " "]) :=
  ⟨(newScope_interview "mssql" "new" rfl).not_usable_of_unknown rfl rfl,
    (newScope_interview "snowflake" "new" rfl).not_usable_snowflake⟩

end WarehouseMigration.Connector
