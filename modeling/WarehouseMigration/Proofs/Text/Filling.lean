import Mathlib.Data.Nat.Digits.Defs
import WarehouseMigration.Proofs.Text.Doubling
import WarehouseMigration.Proofs.Value.Reading
import WarehouseMigration.Text.Template

/-!
# Filling in templates

A template is filled in step by step: a character is kept, two equal braces become one, and a field becomes its text.
`Fills` says what the steps make of a template, and a template is filled in with exactly that (`fill_eq_ok_iff`).

Two kinds of pieces are written so that they are filled in as meant: a text in which every brace is doubled is filled in
with the text (`fills_escaped_iff`), and a field that names an entry of the table by its number is filled in with that
entry, if the number is not negative and not too large (`fills_entry_iff`).  A text with a brace is never filled in with
itself (`Fills.not_isBrace`).
-/

namespace WarehouseMigration.Text.Template

variable {t : Table} {c : Char} {cs rest out key : List Char}

/-! ### Steps -/

variable {reference : List Char}

private theorem eq_append_of_splitReference {hidden : Bool} {read : List Char} {stop : Char}
    (h : splitReference hidden read cs = .ok (reference, stop, rest)) :
    ∃ more, reference = read.reverse ++ more ∧ cs = more ++ stop :: rest := by
  induction cs generalizing hidden read with
  | nil => cases h
  | cons c cs ih =>
    have hmore : ∀ hidden, splitReference hidden (c :: read) cs = .ok (reference, stop, rest) →
        ∃ more, reference = read.reverse ++ more ∧ c :: cs = more ++ stop :: rest := by
      intro hidden h
      obtain ⟨more, hreference, hcs⟩ := ih h
      exact ⟨c :: more, by simpa using hreference, by rw [hcs]; rfl⟩
    rw [splitReference] at h
    split at h
    · exact hmore _ h
    split at h
    · cases h
    split at h
    · exact hmore _ h
    split at h
    · cases h
      exact ⟨[], by simp, rfl⟩
    · exact hmore _ h

private theorem length_of_splitLayout {depth : Nat} {read layout : List Char}
    (h : splitLayout depth read cs = .ok (layout, rest)) : rest.length < cs.length := by
  induction cs generalizing depth read with
  | nil => cases h
  | cons c cs ih =>
    rw [List.length_cons]
    rw [splitLayout] at h
    split at h
    · exact Nat.lt_succ_of_lt (ih h)
    split at h
    · split at h
      · cases h
        exact Nat.lt_succ_self _
      · exact Nat.lt_succ_of_lt (ih h)
    · exact Nat.lt_succ_of_lt (ih h)

variable {field : Field}

private theorem of_readLayout {conversion : Option Char} (h : readLayout reference conversion cs = .ok (field, rest)) :
    field.reference = reference ∧ rest.length < cs.length := by
  obtain ⟨⟨layout, rest'⟩, hsplit, hok⟩ := Outcome.bind_eq_ok_iff.1 h
  cases hok
  exact ⟨rfl, length_of_splitLayout hsplit⟩

/-- A field begins with its reference and leaves a shorter text. -/
private theorem of_readField (h : readField cs = .ok (field, rest)) :
    field.reference <+: cs ∧ rest.length < cs.length := by
  obtain ⟨⟨reference, stop, rest'⟩, hsplit, hok⟩ := Outcome.bind_eq_ok_iff.1 h
  obtain ⟨more, hreference, rfl⟩ := eq_append_of_splitReference hsplit
  obtain rfl : reference = more := by simpa using hreference
  have hlength : rest'.length < (reference ++ stop :: rest').length := by simp; omega
  suffices hfield : field.reference = reference ∧ rest.length ≤ rest'.length from
    ⟨hfield.1 ▸ List.prefix_append _ _, hfield.2.trans_lt hlength⟩
  dsimp only at hok
  split at hok
  · exact ⟨(of_readLayout hok).1, (of_readLayout hok).2.le⟩
  split at hok
  · split at hok
    · cases hok
    · cases hok
      exact ⟨rfl, by simp only [List.length_cons]; omega⟩
    · obtain ⟨hfield, hrest⟩ := of_readLayout hok
      exact ⟨hfield, by simp only [List.length_cons]; omega⟩
    · cases hok
    · cases hok
  · cases hok
    exact ⟨rfl, le_rfl⟩

/-- What a template is filled in with. -/
inductive Fills (t : Table) : List Char → List Char → Prop where
  | nil : Fills t [] []
  | keep {c : Char} {cs out : List Char} (hc : isBrace c = false) (h : Fills t cs out) : Fills t (c :: cs) (c :: out)
  | halve {c : Char} {cs out : List Char} (hc : isBrace c = true) (h : Fills t cs out) :
      Fills t (c :: c :: cs) (c :: out)
  | field {cs rest out : List Char} {field : Field} {text : String} (hcs : cs.head? ≠ some '{')
      (hfield : readField cs = .ok (field, rest)) (htext : t.text field = .ok text) (h : Fills t rest out) :
      Fills t ('{' :: cs) (text.toList ++ out)

private theorem fillFrom_eq_ok_iff {fuel : Nat} (hfuel : cs.length < fuel) :
    fillFrom t fuel cs = .ok out ↔ Fills t cs out := by
  constructor
  · intro h
    induction fuel generalizing cs out with
    | zero => exact absurd hfuel (Nat.not_lt_zero _)
    | succ fuel ih =>
      cases cs with
      | nil =>
        cases h
        exact .nil
      | cons c cs =>
        rw [List.length_cons, Nat.add_lt_add_iff_right] at hfuel
        rw [fillFrom] at h
        split at h
        case isTrue hc =>
          obtain ⟨out, hout, hok⟩ := Outcome.bind_eq_ok_iff.1 h
          cases hok
          exact .keep (by simpa using hc) (ih hfuel hout)
        case isFalse hc =>
          have hbrace : isBrace c = true := by simpa using hc
          split at h
          case isTrue hhead =>
            obtain ⟨cs, rfl⟩ := List.head?_eq_some_iff.1 hhead
            obtain ⟨out, hout, hok⟩ := Outcome.bind_eq_ok_iff.1 h
            cases hok
            exact .halve hbrace (ih (Nat.lt_of_succ_lt hfuel) hout)
          case isFalse hhead =>
            split at h
            case isTrue => cases h
            case isFalse hopen =>
              obtain rfl : c = '{' := by simp_all [isBrace]
              obtain ⟨⟨field, rest⟩, hfield, h⟩ := Outcome.bind_eq_ok_iff.1 h
              obtain ⟨text, htext, h⟩ := Outcome.bind_eq_ok_iff.1 h
              obtain ⟨out, hout, hok⟩ := Outcome.bind_eq_ok_iff.1 h
              cases hok
              exact .field hhead hfield htext (ih ((of_readField hfield).2.trans hfuel) hout)
  · intro h
    induction h generalizing fuel with
    | nil => cases fuel <;> rfl
    | keep hc _ ih =>
      obtain ⟨fuel, rfl⟩ := Nat.exists_eq_add_one_of_ne_zero (Nat.ne_zero_of_lt hfuel)
      rw [fillFrom, if_pos (by simp [hc]), ih (by simpa using hfuel)]
      rfl
    | halve hc _ ih =>
      obtain ⟨fuel, rfl⟩ := Nat.exists_eq_add_one_of_ne_zero (Nat.ne_zero_of_lt hfuel)
      simp only [List.length_cons] at hfuel
      rw [fillFrom, if_neg (by simp [hc]), if_pos List.head?_cons, List.tail_cons, ih (by omega)]
      rfl
    | @field cs rest out field text hcs hfield htext _ ih =>
      obtain ⟨fuel, rfl⟩ := Nat.exists_eq_add_one_of_ne_zero (Nat.ne_zero_of_lt hfuel)
      simp only [List.length_cons] at hfuel
      have hrest := (of_readField hfield).2
      have hsome : cs ≠ [] := List.ne_nil_of_length_pos (by omega)
      rw [fillFrom, if_neg (by decide), if_neg hcs, if_neg (by simpa using hsome), hfield]
      change (t.text field >>= _) = _
      rw [htext]
      change (fillFrom t fuel rest >>= _) = _
      rw [ih (by omega)]
      rfl

/-- When a template is filled, and how. -/
theorem fill_eq_ok_iff : fill t cs = .ok out ↔ Fills t cs out := fillFrom_eq_ok_iff (Nat.lt_succ_self _)

/-! ### Escaped texts -/

def escaped (cs : List Char) : List Char := doubled '}' (doubled '{' cs)

theorem escaped_cons (c : Char) (cs : List Char) :
    escaped (c :: cs) = (if isBrace c then [c, c] else [c]) ++ escaped cs := by
  unfold escaped isBrace
  by_cases hopen : c = '{'
  · subst hopen
    simp [doubled_cons]
  · by_cases hclose : c = '}'
    · subst hclose
      simp [doubled_cons]
    · simp [doubled_cons, hopen, hclose]

theorem escaped_of_forall (h : ∀ c ∈ cs, isBrace c = false) : escaped cs = cs := by
  have hopen : '{' ∉ cs := fun hmem => absurd (h _ hmem) (by decide)
  have hclose : '}' ∉ cs := fun hmem => absurd (h _ hmem) (by decide)
  rw [escaped, doubled_of_not_mem hopen, doubled_of_not_mem hclose]

private theorem fills_keep_iff (hc : isBrace c = false) :
    Fills t (c :: cs) out ↔ ∃ out', out = c :: out' ∧ Fills t cs out' := by
  constructor
  · intro h
    cases h with
    | keep _ h => exact ⟨_, rfl, h⟩
    | halve hbrace => exact absurd hc (by simp [hbrace])
    | field => exact absurd hc (by decide)
  · rintro ⟨out', rfl, h⟩
    exact .keep hc h

private theorem fills_halve_iff (hc : isBrace c = true) :
    Fills t (c :: c :: cs) out ↔ ∃ out', out = c :: out' ∧ Fills t cs out' := by
  constructor
  · intro h
    cases h with
    | keep hkeep => exact absurd hc (by simp [hkeep])
    | halve _ h => exact ⟨_, rfl, h⟩
    | field hcs => exact absurd rfl hcs
  · rintro ⟨out', rfl, h⟩
    exact .halve hc h

private theorem fills_escaped_char_iff :
    Fills t ((if isBrace c then [c, c] else [c]) ++ cs) out ↔ ∃ out', out = c :: out' ∧ Fills t cs out' := by
  split
  case isTrue hc => exact fills_halve_iff hc
  case isFalse hc => exact fills_keep_iff (by simpa using hc)

/-- An escaped text is filled in as it was. -/
theorem fills_escaped_iff {text : List Char} :
    Fills t (escaped text ++ rest) out ↔ ∃ out', out = text ++ out' ∧ Fills t rest out' := by
  induction text generalizing out with
  | nil => simp [escaped]
  | cons c text ih =>
    rw [escaped_cons, List.append_assoc, fills_escaped_char_iff]
    simp only [ih]
    constructor
    · rintro ⟨_, rfl, out', rfl, h⟩
      exact ⟨out', rfl, h⟩
    · rintro ⟨out', rfl, h⟩
      exact ⟨_, rfl, out', rfl, h⟩

/-! ### Entries by number -/

private theorem digitValue?_of_isDigit (h : c.isDigit = true) : digitValue? c = some (c.toNat - 48) := by
  have hlt : c.toNat < 128 := (Char.isDigit_iff_toNat.1 h).2.trans_lt (by decide)
  rw [digitValue?, if_pos hlt, if_pos h]

/-- Further digits do not make a number smaller. -/
private theorem le_ofDigitChars (cs : List Char) (n : Nat) : n ≤ Nat.ofDigitChars 10 cs n := by
  induction cs generalizing n with
  | nil => simp
  | cons c cs ih =>
    rw [Nat.ofDigitChars_cons]
    exact (by omega : n ≤ 10 * n + (c.toNat - '0'.toNat)).trans (ih _)

variable {n : Nat}

/-- Digits spell a number unless it is too large. -/
private theorem indexFrom_of_digits (hcs : ∀ c ∈ cs, c.isDigit = true) (hn : n < indexBound) {index : Option Nat} :
    indexFrom n cs = .ok index ↔ index = some (Nat.ofDigitChars 10 cs n) ∧ Nat.ofDigitChars 10 cs n < indexBound := by
  induction cs generalizing n with
  | nil =>
    simp only [indexFrom, Nat.ofDigitChars_nil, hn, and_true]
    exact ⟨by rintro ⟨⟩; rfl, by rintro rfl; rfl⟩
  | cons c cs ih =>
    obtain ⟨hc, hrest⟩ := List.forall_mem_cons.1 hcs
    rw [indexFrom, digitValue?_of_isDigit hc, Nat.ofDigitChars_cons]
    dsimp only
    split
    case isTrue hlt => exact ih hrest hlt
    case isFalse hge =>
      refine iff_of_false (by rintro ⟨⟩) ?_
      rintro ⟨-, hlt⟩
      exact hge ((le_ofDigitChars cs _).trans_lt hlt)

/-- A key spells a number if it is the text of one that is not negative and not too large. -/
private theorem index?_intText (line : Int) :
    index? (Value.intText line).toList = .ok (some n) ↔ line = n ∧ n < indexBound := by
  by_cases hneg : line < 0
  · -- a sign is no digit
    refine iff_of_false ?_ (by omega)
    rw [Value.intText, if_pos hneg, String.toList_append]
    rintro ⟨⟩
  · obtain ⟨m, rfl⟩ := Int.eq_ofNat_of_zero_le (Int.not_lt.1 hneg)
    have hdigits : ∀ c ∈ Nat.toDigits 10 m, c.isDigit = true :=
      fun c hc => Nat.isDigit_of_mem_toDigits (by decide) (by decide) hc
    have hne : ¬ (Nat.toDigits 10 m).isEmpty = true := by simp
    rw [Value.intText, if_neg hneg, String.toList_ofList, Int.natAbs_natCast, Decimal.digits, index?, if_neg hne,
      indexFrom_of_digits hdigits (by decide), Nat.ofDigitChars_ten_toDigits]
    simp only [Option.some.injEq, Nat.cast_inj]
    constructor
    · rintro ⟨rfl, h⟩
      exact ⟨rfl, h⟩
    · rintro ⟨rfl, h⟩
      exact ⟨rfl, h⟩

/-- Whether a character can be part of the name of a table: a small letter or a low line. -/
def isLetter (c : Char) : Bool := (97 ≤ c.toNat && c.toNat ≤ 122) || c = '_'

/-- The name of a table has letters only. -/
structure IsName (name : List Char) : Prop where
  inhabited : name ≠ []
  letters : ∀ c ∈ name, isLetter c = true

variable {d : Char}

private theorem ne_of_isLetter (hc : isLetter c = true) (hd : isLetter d = false) : c ≠ d :=
  fun h => by simp [h, hd] at hc

private theorem digitValue?_of_isLetter (h : isLetter c = true) : digitValue? c = none := by
  rcases (by simpa [isLetter] using h : (97 ≤ c.toNat ∧ c.toNat ≤ 122) ∨ c = '_') with hrange | rfl
  · have hdigit : ¬ c.isDigit = true := by
      intro hdigit
      have hle : c.toNat ≤ 57 := (Char.isDigit_iff_toNat.1 hdigit).2
      omega
    rw [digitValue?, if_pos (by omega), if_neg hdigit]
  · rfl

def entryField (name key : List Char) : Field := ⟨name ++ '[' :: key ++ [']'], none, []⟩

private theorem splitReference_name {name : List Char} (hname : ∀ c ∈ name, isLetter c = true) (read : List Char) :
    splitReference false read (name ++ cs) = splitReference false (name.reverse ++ read) cs := by
  induction name generalizing read with
  | nil => rfl
  | cons c name ih =>
    obtain ⟨hc, hrest⟩ := List.forall_mem_cons.1 hname
    have hne : ∀ d, isLetter d = false → c ≠ d := fun d hd => ne_of_isLetter hc hd
    have hstop : ¬ (c = '}' || c = ':' || c = '!') = true := by
      simp [hne '}' (by decide), hne ':' (by decide), hne '!' (by decide)]
    rw [List.cons_append, splitReference, if_neg Bool.false_ne_true, if_neg (hne '{' (by decide)),
      if_neg (hne '[' (by decide)), if_neg hstop, ih hrest]
    simp

private theorem splitReference_hidden (hkey : ']' ∉ key) (read : List Char) :
    splitReference true read (key ++ ']' :: cs) = splitReference false (']' :: key.reverse ++ read) cs := by
  induction key generalizing read with
  | nil => rfl
  | cons c key ih =>
    have hc : c ≠ ']' := fun h => hkey (by simp [h])
    rw [List.cons_append, splitReference, if_pos rfl, bne_iff_ne.2 hc, ih fun h => hkey (by simp [h])]
    simp

private theorem readField_entry {name : List Char} (hname : IsName name) (hkey : ']' ∉ key) :
    readField (name ++ '[' :: key ++ "]\x7d".toList ++ rest) = .ok (entryField name key, rest) := by
  have hsplit : splitReference false [] (name ++ '[' :: key ++ "]\x7d".toList ++ rest) =
      .ok (name ++ '[' :: key ++ [']'], '}', rest) := by
    have hhidden : splitReference false name.reverse ('[' :: (key ++ ']' :: '}' :: rest)) =
        splitReference true ('[' :: name.reverse) (key ++ ']' :: '}' :: rest) := rfl
    have hstop : splitReference false (']' :: key.reverse ++ '[' :: name.reverse) ('}' :: rest) =
        .ok ((']' :: key.reverse ++ '[' :: name.reverse).reverse, '}', rest) := rfl
    have hcs : name ++ '[' :: key ++ "]\x7d".toList ++ rest = name ++ '[' :: (key ++ ']' :: '}' :: rest) := by simp
    rw [hcs, splitReference_name hname.letters, List.append_nil, hhidden, splitReference_hidden hkey, hstop]
    simp
  rw [readField, hsplit]
  rfl

private theorem takeWhile_name {name : List Char} (hname : ∀ c ∈ name, isLetter c = true) :
    (name ++ '[' :: cs).takeWhile isNamePart = name := by
  have hpart : ∀ c ∈ name, isNamePart c = true := by
    intro c hc
    simp [isNamePart, ne_of_isLetter (hname c hc) (by decide : isLetter '.' = false),
      ne_of_isLetter (hname c hc) (by decide : isLetter '[' = false)]
  rw [List.takeWhile_append_of_pos hpart, List.takeWhile_cons_of_neg (by decide), List.append_nil]

private theorem index?_name {name : List Char} (hname : IsName name) : index? name = .ok none := by
  obtain ⟨c, rest, rfl⟩ := List.exists_cons_of_ne_nil hname.inhabited
  rw [index?, if_neg (by simp), indexFrom, digitValue?_of_isLetter (hname.letters c List.mem_cons_self)]
  rfl

private theorem refer_name (hname : IsName t.name.toList) : t.refer
    (t.name.toList ++ '[' :: cs) = t.follow ('[' :: cs) := by
  rw [Table.refer]
  simp only [takeWhile_name hname.letters, index?_name hname]
  change (if _ then _ else _) = _
  rw [if_neg (by simpa using hname.inhabited)]
  change (if _ then _ else _) = _
  rw [if_neg (by simp)]
  simp

private theorem follow_eq_ok_iff {parts : List Char} (hparts : parts ≠ []) {referent : Referent} :
    t.follow parts = .ok referent ↔
      ∃ n v, nextAccess parts = .ok (.index n, []) ∧ t.entries.lookup (n : Int) = some v ∧ referent = .number v := by
  rw [Table.follow, if_neg (by simpa using hparts), Outcome.bind_eq_ok_iff]
  constructor
  · rintro ⟨⟨access, rest⟩, haccess, h⟩
    cases access with
    | member => cases h
    | key => cases h
    | index n =>
      dsimp only at h
      split at h
      · cases h
      case h_2 v hlookup =>
        split at h
        case isTrue hrest =>
          cases h
          exact ⟨n, v, by rw [haccess, List.isEmpty_iff.1 hrest], hlookup, rfl⟩
        case isFalse =>
          -- a number has no parts
          obtain ⟨⟨access, _⟩, -, h⟩ := Outcome.bind_eq_ok_iff.1 h
          cases access <;> cases h
  · rintro ⟨n, v, haccess, hlookup, rfl⟩
    refine ⟨_, haccess, ?_⟩
    dsimp only
    rw [hlookup]
    rfl

private theorem nextAccess_key_iff (hkey : ']' ∉ key) :
    nextAccess ('[' :: key ++ [']']) = .ok (.index n, []) ↔ index? key = .ok (some n) := by
  have htake : (key ++ [']']).takeWhile (· != ']') = key := by
    have hall : ∀ c ∈ key, (c != ']') = true := fun c hc => bne_iff_ne.2 (ne_of_mem_of_not_mem hc hkey)
    rw [List.takeWhile_append_of_pos hall]
    simp
  have hdrop : (key ++ [']']).drop key.length = [']'] := by simp
  rw [List.cons_append, nextAccess]
  simp only [htake, hdrop]
  rw [Outcome.bind_eq_ok_iff]
  constructor
  · rintro ⟨index, hindex, h⟩
    cases index with
    | none =>
      dsimp only at h
      split at h <;> cases h
    | some m =>
      cases h
      exact hindex
  · intro hindex
    exact ⟨some n, hindex, rfl⟩

/-- The field of a key has a text if the key spells a number and the table has an entry for it. -/
private theorem text_entry_iff (hname : IsName t.name.toList) (hkey : ']' ∉ key) {text : String} :
    t.text (entryField t.name.toList key) = .ok text ↔
      ∃ n v, index? key = .ok (some n) ∧ t.entries.lookup (n : Int) = some v ∧ text = Value.intText v := by
  have hrefer : t.refer (entryField t.name.toList key).reference = t.follow ('[' :: key ++ [']']) := by
    rw [entryField, List.append_assoc]
    exact refer_name hname
  rw [Table.text, Outcome.bind_eq_ok_iff, hrefer]
  constructor
  · rintro ⟨referent, hfollow, htext⟩
    obtain ⟨n, v, hn, hv, rfl⟩ := (follow_eq_ok_iff (by simp)).1 hfollow
    cases htext
    exact ⟨n, v, (nextAccess_key_iff hkey).1 hn, hv, rfl⟩
  · rintro ⟨n, v, hn, hv, rfl⟩
    exact ⟨.number v, (follow_eq_ok_iff (by simp)).2 ⟨n, v, (nextAccess_key_iff hkey).2 hn, hv, rfl⟩, rfl⟩

/-- The text of a whole number has digits, and perhaps a sign. -/
theorem of_mem_intText {n : Int} (h : c ∈ (Value.intText n).toList) : c = '-' ∨ c.isDigit = true := by
  have hdigits : ∀ c ∈ Decimal.digits n.natAbs, c.isDigit = true :=
    fun c hc => Nat.isDigit_of_mem_toDigits (by decide) (by decide) hc
  rw [Value.intText] at h
  split at h
  · rw [String.toList_append] at h
    rcases List.mem_append.1 h with h | h
    · exact .inl (by simpa using h)
    · exact .inr (hdigits c (by simpa using h))
  · exact .inr (hdigits c (by simpa using h))

private theorem intText_ne_nil (n : Int) : (Value.intText n).toList ≠ [] := by
  rw [Value.intText]
  split
  · simp
  · simp [Decimal.digits]

private theorem fills_field_iff (hcs : cs.head? ≠ some '{') :
    Fills t ('{' :: cs) out ↔ ∃ field rest text out', readField cs = .ok (field, rest) ∧ t.text field = .ok text ∧
      out = text.toList ++ out' ∧ Fills t rest out' := by
  constructor
  · intro h
    cases h with
    | keep hc => cases hc
    | halve => exact absurd rfl hcs
    | field _ hfield htext h => exact ⟨_, _, _, _, hfield, htext, rfl, h⟩
  · rintro ⟨field, rest, text, out', hfield, htext, rfl, h⟩
    exact .field hcs hfield htext h

/-- The field of a number is filled in with its entry, if the number is not negative and not too large. -/
theorem fills_entry_iff (hname : IsName t.name.toList) {line : Int} :
    Fills t ('{' :: (t.name.toList ++ '[' :: (Value.intText line).toList ++ "]\x7d".toList ++ rest)) out ↔
      (0 ≤ line ∧ line < indexBound) ∧
      ∃ v out', t.entries.lookup line = some v ∧ out = (Value.intText v).toList ++ out' ∧ Fills t rest out' := by
  have hkey : ']' ∉ (Value.intText line).toList := fun h => by simpa using of_mem_intText h
  have hhead : (t.name.toList ++ '[' :: (Value.intText line).toList ++ "]\x7d".toList ++ rest).head? ≠ some '{' := by
    obtain ⟨c, more, hc⟩ := List.exists_cons_of_ne_nil hname.inhabited
    have hletter : isLetter c = true := hname.letters c (by simp [hc])
    simpa [hc] using ne_of_isLetter hletter (by decide : isLetter '{' = false)
  rw [fills_field_iff hhead]
  simp only [readField_entry hname hkey, Except.ok.injEq, Prod.mk.injEq]
  constructor
  · rintro ⟨field, _, text, out', ⟨rfl, rfl⟩, htext, rfl, h⟩
    obtain ⟨n, v, hn, hv, rfl⟩ := (text_entry_iff hname hkey).1 htext
    obtain ⟨rfl, hlt⟩ := (index?_intText line).1 hn
    exact ⟨⟨by omega, by omega⟩, v, out', hv, rfl, h⟩
  · rintro ⟨⟨hle, hlt⟩, v, out', hv, rfl, h⟩
    obtain ⟨n, rfl⟩ := Int.eq_ofNat_of_zero_le hle
    have hindex : index? (Value.intText n).toList = .ok (some n) := (index?_intText n).2 ⟨rfl, by omega⟩
    exact ⟨_, _, _, out', ⟨rfl, rfl⟩, (text_entry_iff hname hkey).2 ⟨n, v, hindex, hv, rfl⟩, rfl, h⟩

/-! ### Texts with braces -/

private theorem isPrefix_of_refer {referent : Referent} (h : t.refer reference = .ok referent) :
    t.name.toList <+: reference := by
  obtain ⟨index, -, h⟩ := Outcome.bind_eq_ok_iff.1 h
  split at h
  · cases h
  · split at h
    · cases h
    case isFalse hname =>
      have hname : String.ofList (reference.takeWhile isNamePart) = t.name := by simpa using hname
      rw [← hname, String.toList_ofList]
      exact List.takeWhile_prefix _

private theorem isPrefix_intercalate (sep first : List Char) (others : List (List Char)) :
    first <+: sep.intercalate (first :: others) := by
  cases others with
  | nil => simp
  | cons second others =>
    rw [List.intercalate_cons_cons, List.append_assoc]
    exact List.prefix_append _ _

/-- The text of a field begins with a number, or with a brace and then not with a letter. -/
private theorem start_of_text {text : String} (h : t.text field = .ok text) :
    (∃ d more, text.toList = d :: more ∧ (d = '-' ∨ d.isDigit = true)) ∨
    (∃ d more, text.toList = '{' :: d :: more ∧ (d = '}' ∨ d = '-' ∨ d.isDigit = true)) ∧
      t.name.toList <+: field.reference := by
  obtain ⟨referent, hrefer, h⟩ := Outcome.bind_eq_ok_iff.1 h
  have hnumber : ∀ (n : Int) (more : List Char),
      ∃ d more', (Value.intText n).toList ++ more = d :: more' ∧ (d = '-' ∨ d.isDigit = true) := by
    intro n more
    obtain ⟨d, ds, hd⟩ := List.exists_cons_of_ne_nil (intText_ne_nil n)
    exact ⟨d, ds ++ more, by rw [hd]; rfl, of_mem_intText (n := n) (by simp [hd])⟩
  obtain rfl : t.textOf referent = text := by
    split at h <;> cases h
    rfl
  cases referent with
  | number n => exact .inl (by simpa [Table.textOf] using hnumber n [])
  | table =>
    refine .inr ⟨?_, isPrefix_of_refer hrefer⟩
    have hshown : (t.textOf .table).toList = '{' :: (", ".toList.intercalate (t.entries.map fun e =>
        (Value.intText e.1).toList ++ ": ".toList ++ (Value.intText e.2).toList) ++ ['}']) := by
      simp [Table.textOf, Table.shown, String.toList_intercalate, Function.comp_def]
    rw [hshown]
    cases t.entries with
    | nil => exact ⟨'}', [], rfl, .inl rfl⟩
    | cons entry entries =>
      obtain ⟨more, hmore⟩ := isPrefix_intercalate ", ".toList
        ((Value.intText entry.1).toList ++ ": ".toList ++ (Value.intText entry.2).toList)
        (entries.map fun e => (Value.intText e.1).toList ++ ": ".toList ++ (Value.intText e.2).toList)
      obtain ⟨d, ds, hds, hd⟩ := hnumber entry.1 (": ".toList ++ (Value.intText entry.2).toList ++ more ++ ['}'])
      refine ⟨d, ds, ?_, .inr hd⟩
      rw [List.map_cons, ← hmore, ← hds]
      simp only [List.append_assoc]

def lead (brace : Char) (cs : List Char) : Nat := (cs.takeWhile (· == brace)).length

private theorem lead_cons_self (brace : Char) (cs : List Char) : lead brace (brace :: cs) = lead brace cs + 1 := by
  simp [lead]

variable {brace : Char}

private theorem lead_cons_of_ne (h : c ≠ brace) : lead brace (c :: cs) = 0 := by
  simp [lead, h]

/-- What follows a character that is another one does not matter. -/
private theorem lead_append_of_ne (h : c ≠ brace) (text more : List Char) :
    lead brace (text ++ c :: more) = lead brace text := by
  induction text with
  | nil => simp [lead, h]
  | cons d text ih =>
    by_cases hd : d = brace
    · subst hd
      rw [List.cons_append, lead_cons_self, lead_cons_self, ih]
    · rw [List.cons_append, lead_cons_of_ne hd, lead_cons_of_ne hd]

theorem ne_of_number (hbrace : isBrace brace = true) (hd : d = '-' ∨ d.isDigit = true) : d ≠ brace := by
  rintro rfl
  have hd' : d = '{' ∨ d = '}' := by simpa [isBrace] using hbrace
  rcases hd' with rfl | rfl <;> simp at hd

/-- Of the braces at the start of a template half are left; a field may begin with one more. -/
private theorem Fills.lead_le (h : Fills t cs out) (hbrace : isBrace brace = true) :
    2 * lead brace out ≤ lead brace cs + 1 := by
  induction h with
  | nil => simp [lead]
  | @keep c cs out hc _ _ =>
    have hne : c ≠ brace := fun h => by simp [h, hbrace] at hc
    simp [lead_cons_of_ne hne]
  | @halve c cs out _ _ ih =>
    by_cases hc : c = brace
    · subst hc
      simp only [lead_cons_self]
      omega
    · simp [lead_cons_of_ne hc]
  | @field cs rest out field text _ _ htext _ _ =>
    rcases start_of_text htext with ⟨d, more, htext, hd⟩ | ⟨⟨d, more, htext, hd⟩, -⟩
    · rw [htext, List.cons_append, lead_cons_of_ne (ne_of_number hbrace hd)]
      omega
    · by_cases hopen : '{' = brace
      · subst hopen
        have hne : d ≠ '{' := by
          rcases hd with rfl | hd
          · decide
          · exact ne_of_number hbrace hd
        rw [htext, List.cons_append, List.cons_append, lead_cons_self, lead_cons_self, lead_cons_of_ne hne]
        omega
      · rw [htext, List.cons_append, lead_cons_of_ne hopen]
        omega

private theorem not_isLetter_of_number (hd : d = '}' ∨ d = '-' ∨ d.isDigit = true) : ¬ isLetter d = true := by
  intro hletter
  rcases hd with rfl | rfl | hd
  · exact absurd hletter (by decide)
  · exact absurd hletter (by decide)
  · have hvalue := digitValue?_of_isDigit hd
    rw [digitValue?_of_isLetter hletter] at hvalue
    cases hvalue

/-- A single brace and the character after it are not filled in with themselves: a field whose text begins with a brace
goes on with a letter, and its text does not. -/
private theorem Fills.false_of_single (hname : IsName t.name.toList) (hc : isBrace c = true) (hd : d ≠ c)
    (h : Fills t (c :: d :: cs) (c :: d :: out)) : False := by
  generalize htemplate : c :: d :: cs = template at h
  generalize hfilled : c :: d :: out = filled at h
  cases h with
  | nil => cases htemplate
  | keep hkeep =>
    obtain ⟨rfl, -⟩ := List.cons.inj htemplate
    simp [hc] at hkeep
  | halve =>
    obtain ⟨rfl, htail⟩ := List.cons.inj htemplate
    exact hd (List.cons.inj htail).1
  | @field _ rest out' field text _ hfield htext _ =>
    obtain ⟨rfl, rfl⟩ := List.cons.inj htemplate
    rcases start_of_text htext with ⟨e, more, htext, he⟩ | ⟨⟨e, more, htext, he⟩, hreference⟩
    · rw [htext] at hfilled
      exact ne_of_number hc he (List.cons.inj hfilled).1.symm
    · rw [htext] at hfilled
      obtain rfl : d = e := (List.cons.inj (List.cons.inj hfilled).2).1
      -- the field begins with the name of the table, so with a letter
      obtain ⟨e, name, hname'⟩ := List.exists_cons_of_ne_nil hname.inhabited
      obtain ⟨more, hmore⟩ := hreference.trans (of_readField hfield).1
      rw [hname'] at hmore
      obtain rfl : e = d := (List.cons.inj hmore).1
      exact not_isLetter_of_number he (hname.letters e (by simp [hname']))

theorem Fills.not_isBrace (hname : IsName t.name.toList) {text : List Char} (hc : isBrace c = false)
    (h : Fills t (text ++ c :: rest) (text ++ c :: out)) : ∀ d ∈ text, isBrace d = false := by
  induction text with
  | nil => simp
  | cons d text ih =>
    have hd : isBrace d = false := by
      by_contra hbrace
      rw [Bool.not_eq_false] at hbrace
      have hne : c ≠ d := fun e => by simp [e, hbrace] at hc
      -- half of the first braces would be all of them, so there is only one
      have hlead := h.lead_le hbrace
      rw [lead_append_of_ne hne, lead_append_of_ne hne, lead_cons_self] at hlead
      have hzero : lead d text = 0 := by omega
      obtain ⟨e, more, more', hcs, hout, hed⟩ : ∃ e more more',
          text ++ c :: rest = e :: more ∧ text ++ c :: out = e :: more' ∧ e ≠ d := by
        cases text with
        | nil => exact ⟨c, rest, out, rfl, rfl, hne⟩
        | cons e text =>
          refine ⟨e, _, _, rfl, rfl, ?_⟩
          rintro rfl
          simp [lead_cons_self] at hzero
      rw [List.cons_append, List.cons_append, hcs, hout] at h
      exact h.false_of_single hname hbrace hed
    have hrest : Fills t (text ++ c :: rest) (text ++ c :: out) := by
      obtain ⟨out', heq, h⟩ := (fills_keep_iff hd).1 h
      obtain rfl := (List.cons.inj heq).2
      exact h
    exact List.forall_mem_cons.2 ⟨hd, ih hrest⟩

end WarehouseMigration.Text.Template
