import WarehouseMigration.Proofs.Identifier.Spelling

/-!
# The ANSI spelling of an ANSI spelling

Whatever a name looks like, its ANSI spelling is empty or between backticks, and in lower case (`Settled`).  A name of
this form is its own ANSI spelling in every database, so the spelling is found once and for all (`ansiName_ansiName`).
-/

namespace WarehouseMigration

open Text (doubled halved IsLower)

namespace Text

private theorem mem_of_mem_halved {mark c : Char} {cs : List Char} (h : c ∈ halved mark cs) : c ∈ cs := by
  fun_induction halved mark cs with
  | case1 => exact h
  | case2 => exact h
  | case3 d e rest hd ih =>
    rcases List.mem_cons.1 h with h | h
    · simp [h, hd.1]
    · simp [ih h]
  | case4 d e rest hd ih =>
    rcases List.mem_cons.1 h with h | h
    · simp [h]
    · exact List.mem_cons_of_mem d (ih h)

private theorem halved_ne_nil {mark : Char} {cs : List Char} (h : cs ≠ []) : halved mark cs ≠ [] := by
  fun_cases halved mark cs with
  | case1 => exact absurd rfl h
  | case2 => simp
  | case3 => simp
  | case4 => simp

/-- Nothing is trimmed from a text with other characters than white space at its ends. -/
theorem trim_eq_self {cs : List Char} (hhead : ∀ c, cs.head? = some c → isBlank c = false)
    (hlast : ∀ c, cs.getLast? = some c → isBlank c = false) : trim cs = cs := by
  have hstart : trimStart cs = cs := by
    cases cs with
    | nil => rfl
    | cons c cs => simp [trimStart, hhead c rfl]
  rw [trim, hstart, trimEnd]
  rcases List.eq_nil_or_concat cs with rfl | ⟨xs, c, rfl⟩
  · rfl
  · simp [hlast c (by simp)]

end Text

namespace Delimiters

variable {a z c : Char} {cs : List Char}

private theorem mem_of_mem_unwrap {d : Delimiters} (h : c ∈ d.unwrap cs) : c ∈ cs := by
  have hstart : ∀ start, c ∈ Text.dropStart start cs → c ∈ cs := by
    intro start hc
    rw [Text.dropStart] at hc
    split at hc
    · exact List.mem_of_mem_drop hc
    · exact hc
  rw [unwrap, Text.dropTail] at h
  split at h
  · exact hstart _ (List.mem_of_mem_take h)
  · exact hstart _ h

private theorem mem_wrap : c ∈ wrap ⟨[a], [z]⟩ cs ↔ c = a ∨ c ∈ cs ∨ c = z := by
  simp [wrap]

private theorem mem_exchange {d : Delimiters} (h : c ∈ d.exchange ⟨[a], [z]⟩ cs) : c ∈ cs ∨ c = a ∨ c = z := by
  rw [exchange] at h
  split at h
  · exact absurd h List.not_mem_nil
  · split at h
    · exact .inl h
    · split at h
      · rcases mem_wrap.1 h with h | h | h
        · exact .inr (.inl h)
        · exact .inl (mem_of_mem_unwrap h)
        · exact .inr (.inr h)
      · rcases mem_wrap.1 h with h | h | h
        · exact .inr (.inl h)
        · exact .inl h
        · exact .inr (.inr h)

private theorem surround_wrap : surround ⟨[a], [z]⟩ (wrap ⟨[a], [z]⟩ cs) = true := surround_cons_append cs

private theorem surround_exchange (hne : cs ≠ []) (d : Delimiters) : surround ⟨[a], [z]⟩
    (d.exchange ⟨[a], [z]⟩ cs) = true := by
  rw [exchange, if_neg (by simpa using hne)]
  split
  · assumption
  · split <;> exact surround_wrap

private theorem exchange_of_surround {wanted : Delimiters} (h : wanted.surround cs = true) (d : Delimiters) :
    d.exchange wanted cs = cs := by
  cases cs with
  | nil => rfl
  | cons c cs => simp [exchange, h]

end Delimiters

namespace Identifier

open Delimiters (quote ansi_eq)

variable {a z c : Char} {cs : List Char}

private theorem ansiChars_nil (d : Delimiters) : ansiChars d [] = [] := by
  simp [ansiChars, Delimiters.exchange]

private theorem ansiChars_of_surround (h : Delimiters.ansi.surround cs = true) (d : Delimiters) :
    ansiChars d cs = cs := by
  simp only [ansiChars, Delimiters.exchange_of_surround h, ite_true]

/-- The ANSI spelling is the name between backticks as it is, or it consists of characters of it between backticks. -/
private theorem ansiChars_cases (a z : Char) (cs : List Char) :
    ansiChars ⟨[a], [z]⟩ cs = Delimiters.exchange ⟨[a], [z]⟩ .ansi cs ∨
      ∃ xs : List Char, (∀ c ∈ xs, c ∈ Delimiters.exchange ⟨[a], [z]⟩ .ansi cs) ∧
        ansiChars ⟨[a], [z]⟩ cs = '\x60' :: xs ++ ['\x60'] := by
  rw [ansiChars]
  generalize hquoted : Delimiters.exchange ⟨[a], [z]⟩ .ansi cs = quoted
  by_cases hsame : quoted = cs
  · exact .inl (if_pos hsame)
  have hcs : cs ≠ [] := by
    rintro rfl
    exact hsame hquoted.symm
  have hne : quoted ≠ [] := by
    rintro rfl
    have hsurround := Delimiters.surround_exchange (a := '\x60') (z := '\x60') hcs ⟨[a], [z]⟩
    rw [← ansi_eq, hquoted] at hsurround
    cases hsurround
  have hmem : ∀ c ∈ doubled '\x60' (Text.inner (halved z quoted)), c ∈ quoted := fun c hc =>
    Text.mem_of_mem_halved (List.mem_of_mem_tail (List.dropLast_subset _ (Text.mem_doubled.1 hc)))
  simp only [if_neg hsame]
  rw [Delimiters.unescape_eq_halved, ansi_eq, Delimiters.escape_eq_quote (Text.halved_ne_nil hne), quote]
  split
  case isTrue => exact .inr ⟨_, hmem, rfl⟩
  case isFalse hmarks =>
    have hz : '\x60' ≠ z := by
      rintro rfl
      exact hmarks rfl
    rw [Delimiters.unescape_eq_halved, Text.halved_between hz]
    exact .inr ⟨_, fun c hc => hmem c (Text.mem_of_mem_halved hc), rfl⟩

private theorem surround_ansiChars (hne : cs ≠ []) : Delimiters.ansi.surround (ansiChars ⟨[a], [z]⟩ cs) = true := by
  rcases ansiChars_cases a z cs with h | ⟨xs, -, h⟩
  · rw [h]
    exact Delimiters.surround_exchange hne _
  · rw [h]
    exact Delimiters.surround_cons_append xs

private theorem mem_ansiChars (hc : c ∈ ansiChars ⟨[a], [z]⟩ cs) : c ∈ cs ∨ c = '\x60' := by
  have hexchange : c ∈ Delimiters.exchange ⟨[a], [z]⟩ .ansi cs → c ∈ cs ∨ c = '\x60' := by
    intro h
    rcases Delimiters.mem_exchange h with h | h | h
    · exact .inl h
    · exact .inr h
    · exact .inr h
  rcases ansiChars_cases a z cs with h | ⟨xs, hmem, h⟩
  · exact hexchange (h ▸ hc)
  · rw [h] at hc
    simp only [List.cons_append, List.mem_cons, List.mem_append, List.not_mem_nil, or_false] at hc
    rcases hc with hc | hc | hc
    · exact .inr hc
    · exact hexchange (hmem c hc)
    · exact .inr hc

/-! ### Settled names -/

/-- A name that is empty or between backticks, and in lower case. -/
structure Settled (name : String) : Prop where
  backticked : name ≠ "" → Delimiters.ansi.surround name.toList = true
  lower : ∀ c ∈ name.toList, IsLower c

private theorem settled_normalize (a z : Char) (name : String) : Settled (normalize ⟨[a], [z]⟩ name).ansi := by
  constructor
  · rw [normalize, String.toList_ofList]
    intro hne
    apply surround_ansiChars
    rintro hnil
    rw [hnil, ansiChars_nil] at hne
    exact hne rfl
  · rw [normalize, String.toList_ofList]
    intro c hc
    rcases mem_ansiChars hc with hc | rfl
    · exact Text.isLower_of_mem_lowerFrom hc
    · decide

private theorem normalize_ansi_ne_empty (a z : Char) (name : String) (h : Text.trim name.toList ≠ []) :
    (normalize ⟨[a], [z]⟩ name).ansi ≠ "" := by
  intro hempty
  have hsurround := surround_ansiChars (a := a) (z := z) (Text.lowerChars_ne_nil h)
  rw [normalize, ← String.toList_inj, String.toList_ofList] at hempty
  rw [hempty] at hsurround
  cases hsurround

private theorem Settled.normalize_ansi {name : String} (h : Settled name) (d : Delimiters) :
    (normalize d name).ansi = name := by
  by_cases hempty : name = ""
  · subst hempty
    exact congrArg String.ofList (ansiChars_nil d)
  have hsurround := h.backticked hempty
  obtain ⟨hhead, hlast⟩ := Delimiters.surround_iff.1 hsurround
  have htrim : Text.trim name.toList = name.toList := by
    apply Text.trim_eq_self
    · intro c hc
      rw [hhead] at hc
      cases hc
      decide
    · intro c hc
      rw [hlast] at hc
      cases hc
      decide
  rw [Connector.normalize_ansi_of_plain htrim h.lower, ansiChars_of_surround hsurround, String.ofList_toList]

end Identifier

namespace Connector

open Identifier

def ansiName (connector : Connector) (name : String) : String := (connector.normalize name).ansi

/-- The spelling that a database gives is settled. -/
private theorem settled_ansiName {connector : Connector} (hm : connector ≠ memory) (name : String) :
    Settled (connector.ansiName name) := by
  cases connector with
  | memory => exact absurd rfl hm
  | databricks => exact settled_normalize '\x60' '\x60' name
  | snowflake => exact settled_normalize '"' '"' name
  | oracle => exact settled_normalize '"' '"' name
  | tsql => exact settled_normalize '[' ']' _

private theorem ansiName_of_settled {name : String} (h : Settled name) (connector : Connector) :
    connector.ansiName name = name := by
  by_cases hm : connector = memory
  · subst hm
    rfl
  rw [ansiName, normalize_ansi hm, h.normalize_ansi]
  -- double quotes would have to stand where the backticks are
  intro _
  rw [← Bool.not_eq_true, Delimiters.both, Delimiters.surround_iff]
  rintro ⟨hquote, -⟩
  have hne : name ≠ "" := by
    rintro rfl
    cases hquote
  rw [(Delimiters.surround_iff.1 (h.backticked hne)).1] at hquote
  cases hquote

variable (connector : Connector)

/-- The ANSI spelling is found once and for all. -/
theorem ansiName_ansiName (name : String) : connector.ansiName (connector.ansiName name) = connector.ansiName name := by
  by_cases hm : connector = memory
  · subst hm
    rfl
  · exact ansiName_of_settled (settled_ansiName hm name) connector

/-- The spelling of a name in lower case is in lower case. -/
theorem lower_ansiName {name : String} (h : Text.lower name = name) :
    Text.lower (connector.ansiName name) = connector.ansiName name := by
  by_cases hm : connector = memory
  · subst hm
    exact h
  · exact Text.lower_eq_self_iff.2 (settled_ansiName hm name).lower

/-- A name that is not blank has a spelling. -/
theorem ansiName_ne_empty {name : String} (h : Text.strip name ≠ "") : connector.ansiName name ≠ "" := by
  have htrim : Text.trim name.toList ≠ [] := by
    intro hnil
    rw [Text.strip, hnil] at h
    exact h rfl
  cases connector with
  | memory =>
    rintro rfl
    exact htrim rfl
  | databricks => exact normalize_ansi_ne_empty '\x60' '\x60' name htrim
  | snowflake => exact normalize_ansi_ne_empty '"' '"' name htrim
  | oracle => exact normalize_ansi_ne_empty '"' '"' name htrim
  | tsql =>
    refine normalize_ansi_ne_empty '[' ']' _ ?_
    rw [String.toList_ofList, bracketQuoted]
    split
    · show Text.trim ('[' :: _ ++ [']']) ≠ []
      rw [Text.trim_cons_append (by decide) (by decide)]
      simp
    · exact htrim

end Connector

end WarehouseMigration
