import WarehouseMigration.Proofs.Identifier.Delimited

/-!
# The spellings of one column

A column may be written bare, between the marks of its database, or between backticks.  Read back, the three
spellings of a name should be one identifier.  The one between backticks always is; the other two are read with one
halving of closing marks too many, so all three agree exactly when no two closing marks meet in the name as it stands
between backticks (`ansi_spellings_agree_iff`).
-/

namespace WarehouseMigration

open Text (doubled halved IsLower)

namespace Connector

open Delimiters (quote)

def quoted (a z : Char) (name : String) : String := String.ofList (quote a z name.toList)

def backticked (name : String) : String := quoted '\x60' '\x60' name

/-- Whether a name is read as one that is delimited already. -/
def marked (connector : Connector) (name : List Char) : Bool :=
  connector.delimiters.surround name || Delimiters.ansi.surround name ||
    (connector == tsql && (Delimiters.both '"').surround name)

variable {connector : Connector} {a z : Char} {s : String}

/-- The marks of every database are neither letters nor white space. -/
private theorem mark_plain (hd : connector.delimiters = ⟨[a], [z]⟩) :
    (IsLower a ∧ Text.isBlank a = false) ∧ IsLower z ∧ Text.isBlank z = false := by
  cases connector <;> cases hd <;> decide

/-- White space and letter case play no part in names that have neither. -/
theorem normalize_ansi_of_plain {d : Delimiters} (ht : Text.trim s.toList = s.toList)
    (hl : ∀ c ∈ s.toList, IsLower c) :
    (Identifier.normalize d s).ansi = String.ofList (Identifier.ansiChars d s.toList) := by
  simp only [Identifier.normalize, ht, Text.lowerChars_eq_self_iff.2 hl]

/-- Between marks of a database there is nothing to trim or to lower in a lower-case name. -/
private theorem normalize_ansi_quoted {d : Delimiters} (ha : IsLower a ∧ Text.isBlank a = false)
    (hz : IsLower z ∧ Text.isBlank z = false) (hl : ∀ c ∈ s.toList, IsLower c) :
    (Identifier.normalize d (quoted a z s)).ansi = String.ofList (Identifier.ansiChars d (quote a z s.toList)) := by
  rw [normalize_ansi_of_plain]
  · rw [quoted, String.toList_ofList]
  · rw [quoted, String.toList_ofList]
    exact Text.trim_cons_append ha.2 hz.2 _
  · intro c hc
    rw [quoted, String.toList_ofList, quote] at hc
    simp only [List.cons_append, List.mem_cons, List.mem_append, Text.mem_doubled, List.not_mem_nil, or_false] at hc
    rcases hc with rfl | hc | rfl
    · exact ha.1
    · exact hl c hc
    · exact hz.1

/-- The ANSI spelling that a connector gives is that of its delimiters, double quotes around a name apart. -/
theorem normalize_ansi (hm : connector ≠ memory)
    (hq : connector = tsql → (Delimiters.both '"').surround s.toList = false) :
    (connector.normalize s).ansi = (Identifier.normalize connector.delimiters s).ansi := by
  cases connector with
  | databricks => rfl
  | snowflake => rfl
  | oracle => rfl
  | tsql => simp [normalize, bracketQuoted, hq rfl, String.ofList_toList]
  | memory => exact absurd rfl hm

/-- A name that begins with another mark is not between double quotes. -/
private theorem not_quoted_of_ne {b : Char} (h : b ≠ '"') (c : Char) :
    (Delimiters.both '"').surround (quoted b c s).toList = false := by
  rw [quoted, String.toList_ofList]
  exact Delimiters.surround_cons_of_ne h _

/-- Between backticks a name is read as it was written. -/
private theorem normalize_backticked (hm : connector ≠ memory) (hl : ∀ c ∈ s.toList, IsLower c) :
    (connector.normalize (backticked s)).ansi = backticked s := by
  have hmark : IsLower '\x60' ∧ Text.isBlank '\x60' = false := by decide
  rw [backticked, normalize_ansi hm (fun _ => not_quoted_of_ne (by decide) _), normalize_ansi_quoted hmark hmark hl,
    quote, Identifier.ansiChars_ansi]
  rfl

/-- Without its outer characters, a halved name between backticks is the name itself exactly when no two backticks
meet: any halving makes it too short. -/
private theorem inner_halved_eq_iff {cs : List Char} (hne : cs ≠ []) :
    Text.inner (halved '\x60' ('\x60' :: cs ++ ['\x60'])) = cs ↔ ¬ ['\x60', '\x60'] <:+: '\x60' :: cs ++ ['\x60'] := by
  constructor
  · intro h
    rw [← Text.length_halved_eq_iff]
    have h1 := congrArg List.length h
    have h2 := List.length_pos_iff.2 hne
    simp only [Text.inner, List.length_dropLast, List.length_tail] at h1
    simp only [List.length_append, List.length_cons, List.length_nil]
    simp only [List.cons_append] at h1 ⊢
    omega
  · intro h
    rw [Text.halved_eq_self_iff.2 h, Delimiters.inner_cons_append]

private theorem quote_inj {cs ds : List Char} : quote a z cs = quote a z ds ↔ cs = ds := by
  simp [quote, Text.doubled_injective.eq_iff]

/-- A bare name is read as it was written exactly when no two closing marks meet in it between backticks. -/
private theorem normalize_bare_iff (hm : connector ≠ memory) (hd : connector.delimiters = ⟨[a], [z]⟩) (hne : s ≠ "")
    (hl : ∀ c ∈ s.toList, IsLower c) (ht : Text.trim s.toList = s.toList) (hs : connector.marked s.toList = false) :
    (connector.normalize s).ansi = backticked s ↔ ¬ [z, z] <:+: '\x60' :: s.toList ++ ['\x60'] := by
  simp only [marked, hd, Bool.or_eq_false_iff, Bool.and_eq_false_iff] at hs
  obtain ⟨⟨h1, h2⟩, h3⟩ := hs
  have hnil : s.toList ≠ [] := by simpa using hne
  rw [normalize_ansi hm (fun h => by simpa [h] using h3), normalize_ansi_of_plain ht hl, hd,
    Identifier.ansiChars_bare hnil h2 h1, backticked, quoted, String.ofList_inj]
  by_cases hz : z = '\x60'
  · subst hz
    rw [if_pos rfl, quote_inj, inner_halved_eq_iff hnil]
  · simp only [hz, ite_false]
    rw [quote_inj, Text.halved_halved_eq_self_iff, Text.not_pair_infix_between_iff (fun h => hz h.symm)]

/-- A name between the marks of its database is read as it was written if no two closing marks meet in it. -/
private theorem normalize_quoted_of_not_infix (hm : connector ≠ memory) (hd : connector.delimiters = ⟨[a], [z]⟩)
    (hl : ∀ c ∈ s.toList, IsLower c) (h : ¬ [z, z] <:+: '\x60' :: s.toList ++ ['\x60']) :
    (connector.normalize (quoted a z s)).ansi = backticked s := by
  by_cases hz : z = '\x60'
  · have ha : a = '\x60' := by cases connector <;> cases hd <;> simp_all
    subst ha hz
    exact normalize_backticked hm hl
  · have ha : a ≠ '\x60' := by cases connector <;> cases hd <;> simp_all
    have hq : connector = tsql → a ≠ '"' := by
      rintro rfl
      cases hd
      decide
    obtain ⟨hpa, hpz⟩ := mark_plain hd
    rw [Text.not_pair_infix_between_iff (fun h => hz h.symm), ← Text.halved_eq_self_iff] at h
    rw [normalize_ansi hm (fun ht => not_quoted_of_ne (hq ht) _), normalize_ansi_quoted hpa hpz hl, hd,
      Identifier.ansiChars_quote ha hz, h]
    rfl

/-- All spellings of a column are one identifier exactly when no two closing marks meet in the name as it stands
between backticks. -/
theorem ansi_spellings_agree_iff (hm : connector ≠ memory) (hd : connector.delimiters = ⟨[a], [z]⟩) (hne : s ≠ "")
    (hl : Text.lower s = s) (ht : Text.strip s = s) (hs : connector.marked s.toList = false) :
    ((connector.normalize s).ansi = backticked s ∧
      (connector.normalize (quoted a z s)).ansi = backticked s ∧
      (connector.normalize (backticked s)).ansi = backticked s) ↔
    ¬ [z, z] <:+: '\x60' :: s.toList ++ ['\x60'] := by
  rw [Text.lower_eq_self_iff] at hl
  rw [Text.strip_eq_self_iff] at ht
  have hbare := normalize_bare_iff hm hd hne hl ht hs
  constructor
  · rintro ⟨h, -, -⟩
    exact hbare.1 h
  · intro h
    exact ⟨hbare.2 h, normalize_quoted_of_not_infix hm hd hl h, normalize_backticked hm hl⟩

/-- A bracket alone and a backtick in a name do no harm: all its spellings agree. -/
theorem ansi_spellings_agree_bracket :
    tsql.marked "a]b\x60[c".toList = false ∧ ¬ [']', ']'] <:+: '\x60' :: "a]b\x60[c".toList ++ ['\x60'] ∧
    (tsql.normalize "a]b\x60[c").ansi = backticked "a]b\x60[c" ∧
      (tsql.normalize (quoted '[' ']' "a]b\x60[c")).ansi = backticked "a]b\x60[c" ∧
      (tsql.normalize (backticked "a]b\x60[c")).ansi = backticked "a]b\x60[c" :=
  have h : ¬ [']', ']'] <:+: '\x60' :: "a]b\x60[c".toList ++ ['\x60'] := by decide
  ⟨by decide, h, (ansi_spellings_agree_iff (by decide) rfl (by decide) (by decide) (by decide) (by decide)).2 h⟩

/-- With two closing brackets in a row, neither the bare nor the quoted spelling is read as the name that was
written. -/
theorem ansi_spellings_differ_brackets :
    tsql.delimiters = ⟨['['], [']']⟩ ∧ Text.lower "a]]b" = "a]]b" ∧ Text.strip "a]]b" = "a]]b" ∧
    tsql.marked "a]]b".toList = false ∧
    (tsql.normalize "a]]b").ansi = "\x60a]b\x60" ∧ (tsql.normalize (quoted '[' ']' "a]]b")).ansi = "\x60a]b\x60" ∧
    backticked "a]]b" = "\x60a]]b\x60" ∧ "\x60a]b\x60" ≠ backticked "a]]b" := by
  decide

end Connector

/-! ### Names without backticks

A name in lower case without backticks stands between two backticks as it is (`ansiOf_of_not_mem`), and taken out of
them it is only trimmed (`bare_of_not_mem`).
-/

theorem Text.trim_sublist (cs : List Char) : (trim cs).Sublist cs := by
  have hstart : (trimStart cs).Sublist cs := List.dropWhile_sublist _
  have hend : (trimEnd (trimStart cs)).Sublist (trimStart cs) := by
    simpa [trimEnd] using (List.dropWhile_sublist isBlank (l := (trimStart cs).reverse)).reverse
  exact hend.trans hstart

/-- A trimmed text does not end with white space. -/
theorem Text.not_isBlank_of_getLast? {cs : List Char} {c : Char} (ht : trim cs = cs) (h : cs.getLast? = some c) :
    isBlank c = false := by
  rw [← ht, trim, trimEnd, List.getLast?_reverse] at h
  have hhead := List.head?_dropWhile_not isBlank (trimStart cs).reverse
  rw [h] at hhead
  exact hhead

namespace Identifier

variable {cs : List Char} {s : String}

private theorem ansiChars_of_not_mem (hne : cs ≠ []) (h : '\x60' ∉ cs) : ansiChars .ansi cs = '\x60' :: cs ++
    ['\x60'] := by
  have hsurround : Delimiters.ansi.surround cs = false := by
    rw [← Bool.not_eq_true, Delimiters.ansi_eq, Delimiters.surround_iff]
    rintro ⟨hhead, -⟩
    exact h (List.mem_of_head? hhead)
  -- the backticks that are put around the name meet none in it
  have hhalved : halved '\x60' ('\x60' :: cs ++ ['\x60']) = '\x60' :: cs ++ ['\x60'] := by
    rw [List.cons_append, Text.halved_cons_of_head_ne, Text.halved_append_of_not_mem h]
    · rfl
    · intro d hd
      obtain ⟨c, rest, rfl⟩ := List.exists_cons_of_ne_nil hne
      cases hd
      rintro rfl
      exact h List.mem_cons_self
  rw [Delimiters.ansi_eq, ansiChars_bare hne hsurround hsurround, if_pos rfl, hhalved, Delimiters.inner_cons_append,
    Delimiters.quote, Text.doubled_of_not_mem h]

/-- A plain name is put between backticks. -/
theorem ansiOf_of_not_mem (hne : s ≠ "") (hl : ∀ c ∈ s.toList, IsLower c) (ht : Text.trim s.toList = s.toList)
    (h : '\x60' ∉ s.toList) : ansiOf s = Connector.backticked s := by
  rw [ansiOf, Connector.normalize_ansi_of_plain ht hl, ansiChars_of_not_mem (by simpa using hne) h,
      Connector.backticked,
    Connector.quoted, Delimiters.quote, Text.doubled_of_not_mem h]

theorem bare_of_not_mem (hl : ∀ c ∈ s.toList, IsLower c) (h : '\x60' ∉ s.toList) : bare s = Text.strip s := by
  have hsub := (Text.trim_sublist s.toList).subset
  have hlower : Text.lowerChars (Text.trim s.toList) = Text.trim s.toList :=
    Text.lowerChars_eq_self_iff.2 fun c hc => hl c (hsub hc)
  have hmem : '\x60' ∉ Text.trim s.toList := fun hc => h (hsub hc)
  simp only [bare, ansiOf, normalize, hlower, String.toList_ofList, Text.strip]
  by_cases hnil : Text.trim s.toList = []
  · rw [hnil]
    rfl
  · rw [ansiChars_of_not_mem hnil hmem, Delimiters.inner_cons_append, Delimiters.ansi_eq, Delimiters.unescape_eq_halved,
      Text.halved_of_not_mem hmem]

end Identifier

end WarehouseMigration
