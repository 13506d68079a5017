import Mathlib.Tactic.SplitIfs
import WarehouseMigration.Proofs.Text.Encoding
import WarehouseMigration.Value.Json

/-!
# Texts in JSON

A text that is written as JSON is read back as it was, whatever its characters are (`readText_renderText`), and so is a
map of texts (`parse_render_texts`).
-/

namespace WarehouseMigration

namespace Text

/-! ### Units and their digits -/

private theorem isHighUnit_toNat (c : Char) : isHighUnit c.toNat = false := by
  have hvalid := toNat_char c
  simp only [isHighUnit, Bool.and_eq_false_iff, decide_eq_false_iff_not]
  omega

private theorem hexDigits_succ {width : Nat} (h : 0 < width) (n : Nat) :
    hexDigits (width + 1) n = hexDigits width (n / 16) ++ [(n % 16).digitChar] := by
  rw [hexDigits, hexDigits, Nat.toDigits_eq_if (by decide)]
  split
  case isTrue hn =>
    obtain ⟨w, rfl⟩ := Nat.exists_eq_succ_of_ne_zero (Nat.pos_iff_ne_zero.1 h)
    have hzero : n / 16 = 0 := by omega
    have hmod : n % 16 = n := by omega
    rw [hzero, hmod, Nat.toDigits_of_lt_base (by decide), show Nat.digitChar 0 = '0' from rfl]
    simp [List.replicate_succ']
  case isFalse hn => simp

private theorem hexDigits_one {n : Nat} (h : n < 16) : hexDigits 1 n = [n.digitChar] := by
  rw [hexDigits, Nat.toDigits_of_lt_base h]
  rfl

end Text

namespace Json

private theorem hexValue?_digitChar {n : Nat} (h : n < 16) : hexValue? n.digitChar = some n := by
  revert n
  decide

/-- Four digits are read back as the number of which they are written. -/
private theorem readUnit_hexDigits {n : Nat} (h : n < 65536) (rest : List Char) :
    readUnit (Text.hexDigits 4 n ++ rest) = some (n, rest) := by
  rw [Text.hexDigits_succ (by decide), Text.hexDigits_succ (by decide), Text.hexDigits_succ (by decide),
    Text.hexDigits_one (by omega)]
  have hdigits := fun k => hexValue?_digitChar (Nat.mod_lt k (show 16 > 0 by decide))
  have htop := hexValue?_digitChar (n := n / 16 / 16 / 16) (by omega)
  simp only [List.cons_append, List.nil_append, readUnit, hdigits, htop, Option.bind_eq_bind,
    Option.bind_some, Option.pure_def, Option.some.injEq, Prod.mk.injEq, and_true]
  omega

/-! ### Characters -/

/-- The forms in which a character is written: itself, a sign that stands for it, the unit that it is, or the pair of
units that it makes. -/
inductive Written (c : Char) : List Char → Prop
  | itself (hquote : c ≠ '"') (hescape : c ≠ '\\') (hcode : 32 ≤ c.toNat) : Written c [c]
  | sign (e : Char) (hsign : e ≠ 'u') (hplain : plainEscape? e = some c) : Written c ['\\', e]
  | unit (hcode : c.toNat < 65536) : Written c (unitEscape c.toNat)
  | pair (high low : Nat) (hhigh : Text.isHighUnit high = true) (hlow : Text.isLowUnit low = true)
      (hpaired : Text.paired high low = c) : Written c (unitEscape high ++ unitEscape low)

/-- Every character is written in one of these forms. -/
private theorem written_escapedChar (c : Char) : Written c (escapedChar c) := by
  have hcontrol : ∀ n, c.toNat = n → c = Char.ofNat n := fun n hn => by rw [← hn, Char.ofNat_toNat]
  simp only [escapedChar, Bool.or_eq_true, Bool.and_eq_true, decide_eq_true_eq]
  split_ifs with hsign hplain hnewline hreturn htab hback hfeed hunit
  · rcases hsign with rfl | rfl
    all_goals exact .sign _ (by decide) rfl
  · exact .itself (fun h => hsign (.inl h)) (fun h => hsign (.inr h)) hplain.1
  · exact .sign 'n' (by decide) (by rw [hnewline]; rfl)
  · exact .sign 'r' (by decide) (by rw [hreturn]; rfl)
  · exact .sign 't' (by decide) (by rw [htab]; rfl)
  · exact .sign 'b' (by decide) (by rw [hcontrol 8 hback]; rfl)
  · exact .sign 'f' (by decide) (by rw [hcontrol 12 hfeed]; rfl)
  · exact .unit hunit
  · have hvalid := Text.toNat_char c
    refine .pair _ _ ?_ ?_ ?_
    · simp only [Text.isHighUnit, Bool.and_eq_true, decide_eq_true_eq]
      omega
    · simp only [Text.isLowUnit, Bool.and_eq_true, decide_eq_true_eq]
      omega
    · rw [Text.paired, show 0x10000 + 0x400 * (0xD800 + (c.toNat - 65536) / 1024 - 0xD800) +
        (0xDC00 + (c.toNat - 65536) % 1024 - 0xDC00) = c.toNat by omega, Char.ofNat_toNat]

/-! ### Reading what was written -/

variable {acc rest : List Char} {fuel : Nat}

private theorem unitEscape_append (n : Nat) : unitEscape n ++ rest = '\\' :: 'u' :: (Text.hexDigits 4 n ++ rest) := rfl

private theorem readText_pair {high low : Nat} (hhigh : Text.isHighUnit high = true)
    (hlow : Text.isLowUnit low = true) : readText acc (fuel + 1) (unitEscape high ++ unitEscape low ++ rest) =
      readText (Text.paired high low :: acc) fuel rest := by
  have hhigh' : high < 65536 := by
    simp only [Text.isHighUnit, Bool.and_eq_true, decide_eq_true_eq] at hhigh
    omega
  have hlow' : low < 65536 := by
    simp only [Text.isLowUnit, Bool.and_eq_true, decide_eq_true_eq] at hlow
    omega
  rw [List.append_assoc, unitEscape_append, unitEscape_append, readText, readUnit_hexDigits hhigh']
  simp only [Option.bind_eq_bind, Option.bind_some, hhigh, readUnit_hexDigits hlow', hlow, if_true]

/-- A character is read as it was written, whatever follows it. -/
private theorem readText_escapedChar (c : Char) :
    readText acc (fuel + 1) (escapedChar c ++ rest) = readText (c :: acc) fuel rest := by
  have hwritten := written_escapedChar c
  generalize escapedChar c = form at hwritten
  cases hwritten with
  | itself hquote hescape hcode =>
    rw [List.singleton_append, readText]
    split
    all_goals simp_all
    omega
  | sign e hsign hplain =>
    rw [List.cons_append, List.singleton_append, readText, hplain]
    · rfl
    · exact hsign
  | unit hcode =>
    rw [unitEscape_append, readText, readUnit_hexDigits hcode]
    simp only [Option.bind_eq_bind, Option.bind_some, Text.isHighUnit_toNat, Text.charOf?_toNat _ (Nat.zero_le _)]
  | pair high low hhigh hlow hpaired => rw [readText_pair hhigh hlow, hpaired]

private theorem readText_flatMap {cs tail : List Char} (h : cs.length ≤ fuel) :
    readText acc (fuel + 1) (cs.flatMap escapedChar ++ '"' :: tail) =
        some (String.ofList (acc.reverse ++ cs), tail) := by
  induction cs generalizing acc fuel with
  | nil => simp [readText]
  | cons c cs ih =>
    obtain ⟨fuel, rfl⟩ := Nat.exists_eq_succ_of_ne_zero (show fuel ≠ 0 by simp at h; omega)
    rw [List.flatMap_cons, List.append_assoc, readText_escapedChar, ih (by simpa using h)]
    simp

private theorem length_le_flatMap (cs : List Char) : cs.length ≤ (cs.flatMap escapedChar).length := by
  induction cs with
  | nil => exact Nat.zero_le _
  | cons c cs ih =>
    have hpos : 0 < (escapedChar c).length := by
      have hwritten := written_escapedChar c
      generalize escapedChar c = form at hwritten ⊢
      cases hwritten <;> simp [unitEscape]
    rw [List.flatMap_cons, List.length_append, List.length_cons]
    omega

/-- A text is read back as it was, whatever follows it. -/
theorem readText_renderText (s : String) (tail : List Char) :
    ∃ cs, (renderText s).toList ++ tail = '"' :: cs ∧ readText [] (cs.length + 1) cs = some (s, tail) := by
  refine ⟨s.toList.flatMap escapedChar ++ '"' :: tail, by simp [renderText], ?_⟩
  rw [readText_flatMap, List.reverse_nil, List.nil_append, String.ofList_toList]
  exact Nat.le_trans (length_le_flatMap _) (by simp)

/-! ### Maps of texts -/

private theorem readValue_renderText (text : String) (tail : List Char) :
    readValue (fuel + 1) (skipGap (' ' :: ((renderText text).toList ++ tail))) =
      some (.text text, tail) := by
  obtain ⟨cs, hcs, hread⟩ := readText_renderText text tail
  rw [hcs, show skipGap (' ' :: '"' :: cs) = '"' :: cs from rfl, readValue, hread]
  rfl

section Entries

variable {entries : List (String × Value)} {key text : String} {cs tail : List Char}

/-- An entry before a comma is read, and the next ones after it. -/
private theorem readEntries_comma
    (h : skipGap cs = (renderText key).toList ++ ':' :: ' ' :: ((renderText text).toList ++ ',' :: tail)) :
    readEntries entries (fuel + 2) cs =
      readEntries (Sequence.put key (.text text) entries) (fuel + 1) tail := by
  obtain ⟨keyChars, hkey, hread⟩ := readText_renderText key (':' :: ' ' :: ((renderText text).toList ++ ',' :: tail))
  rw [readEntries, h, hkey]
  simp only [hread, Option.bind_eq_bind, Option.bind_some]
  rw [show ∀ rest, skipGap (':' :: rest) = ':' :: rest from fun _ => rfl]
  simp only [readValue_renderText, Option.bind_some]
  rfl

private theorem readEntries_brace
    (h : skipGap cs = (renderText key).toList ++ ':' :: ' ' :: ((renderText text).toList ++ '}' :: tail)) :
    readEntries entries (fuel + 2) cs =
      some (.map (Sequence.put key (.text text) entries), tail) := by
  obtain ⟨keyChars, hkey, hread⟩ := readText_renderText key (':' :: ' ' :: ((renderText text).toList ++ '}' :: tail))
  rw [readEntries, h, hkey]
  simp only [hread, Option.bind_eq_bind, Option.bind_some]
  rw [show ∀ rest, skipGap (':' :: rest) = ':' :: rest from fun _ => rfl]
  simp only [readValue_renderText, Option.bind_some]
  rfl

end Entries

def texts (entries : List (String × String)) : List (String × Value) := entries.map fun e => (e.1, .text e.2)

/-- The entries that are read from a written map of texts, behind those that were read before. -/
def putTexts (before : List (String × Value)) (entries : List (String × String)) : List (String × Value) :=
  entries.foldl (fun table e => Sequence.put e.1 (.text e.2) table) before

private theorem render_text (s : String) : render (.text s) = renderText s := rfl

private theorem render_map (entries : List (String × Value)) :
    render (.map entries) = "\x7b" ++ renderEntries entries ++ "\x7d" := rfl

/-- The entries begin with the quote of the first key. -/
private theorem renderEntries_eq_cons {entries : List (String × String)} (hne : entries ≠ []) (tail : List Char) :
    ∃ rest, (renderEntries (texts entries)).toList ++ tail = '"' :: rest := by
  match entries, hne with
  | [(key, text)], _ => simp [texts, renderEntries, renderText]
  | (key, text) :: e :: entries, _ => simp [texts, renderEntries, renderText]

private theorem length_le_renderEntries (entries : List (String × String)) :
    entries.length ≤ (renderEntries (texts entries)).toList.length := by
  induction entries with
  | nil => exact Nat.zero_le _
  | cons e entries ih =>
    cases entries with
    | nil => simp [texts, renderEntries, renderText]
    | cons e' entries =>
      simp only [texts, List.map_cons, renderEntries, renderText, String.toList_append, List.length_append,
        List.length_cons] at ih ⊢
      have hcomma : ", ".toList.length = 2 := rfl
      omega

private theorem readEntries_texts {entries : List (String × String)} (hne : entries ≠ [])
    {before : List (String × Value)} {cs tail : List Char} (hfuel : entries.length < fuel)
    (h : skipGap cs = (renderEntries (texts entries)).toList ++ '}' :: tail) :
    readEntries before fuel cs = some (.map (putTexts before entries), tail) := by
  induction entries generalizing before fuel cs with
  | nil => exact absurd rfl hne
  | cons e entries ih =>
    obtain ⟨key, text⟩ := e
    obtain ⟨fuel, rfl⟩ : ∃ k, fuel = k + 2 := ⟨fuel - 2, by simp at hfuel; omega⟩
    cases entries with
    | nil =>
      refine readEntries_brace ?_
      simpa [texts, renderEntries, render_text] using h
    | cons e' entries =>
      have hnext : skipGap (' ' :: ((renderEntries (texts (e' :: entries))).toList ++ '}' :: tail)) =
          (renderEntries (texts (e' :: entries))).toList ++ '}' :: tail := by
        obtain ⟨rest, hrest⟩ := renderEntries_eq_cons (show e' :: entries ≠ [] by simp) ('}' :: tail)
        rw [hrest]
        rfl
      have hentry : skipGap cs = (renderText key).toList ++ ':' :: ' ' :: ((renderText text).toList ++
          ',' :: ' ' :: ((renderEntries (texts (e' :: entries))).toList ++ '}' :: tail)) := by
        simpa [texts, renderEntries, render_text] using h
      rw [readEntries_comma hentry, ih (by simp) (by simpa using hfuel) hnext]
      rfl

/-- A written map of texts is read back; a line may end behind it. -/
theorem parse_render_texts {entries : List (String × String)} (hne : entries ≠ []) :
    parse (render (.map (texts entries)) ++ "\n") = some (.map (putTexts [] entries)) := by
  have hchars : (render (.map (texts entries)) ++ "\n").toList =
      '{' :: ((renderEntries (texts entries)).toList ++ '}' :: ['\n']) := by
    simp [render_map]
  obtain ⟨rest, hrest⟩ := renderEntries_eq_cons hne ['}', '\n']
  have hfuel : entries.length < (renderEntries (texts entries)).toList.length + 3 := by
    have := length_le_renderEntries entries
    omega
  have hread : readEntries [] ((renderEntries (texts entries)).toList.length + 3) ('"' :: rest) =
      some (.map (putTexts [] entries), ['\n']) := readEntries_texts hne hfuel hrest.symm
  have hvalue : readValue ((renderEntries (texts entries)).toList.length + 4) ('{' :: '"' :: rest) =
      some (.map (putTexts [] entries), ['\n']) := by
    rw [readValue, show skipGap ('"' :: rest) = '"' :: rest from rfl]
    exact hread
  have hlength : (render (.map (texts entries)) ++ "\n").toList.length + 1 =
      (renderEntries (texts entries)).toList.length + 4 := by
    rw [hchars]
    simp
  have hgap : skipGap (render (.map (texts entries)) ++ "\n").toList = '{' :: '"' :: rest := by
    rw [hchars, hrest]
    rfl
  simp only [parse, hlength, hgap, hvalue, Option.bind_eq_bind, Option.bind_some]
  rfl

end Json

end WarehouseMigration
