import WarehouseMigration.Text.Blank
import WarehouseMigration.Text.Search

/-!
# Splitting at a character

A text is split at a character into pieces without it.  The key facts: the pieces of joined texts are these texts
(`splitFrom_intercalate`), the first piece is what stands before the first separator (`head?_splitFrom`), and what is
read off the pieces does not depend on white space around the text if it does not depend on white space around a piece
(`map_splitFrom_trim`).
-/

namespace WarehouseMigration.Text

variable {sep : Char} {cs : List Char}

theorem splitFrom_sep (piece rest : List Char) :
    splitFrom [sep] 0 piece (sep :: rest) = piece.reverse :: splitFrom [sep] 0 [] rest := by
  rw [splitFrom, if_pos (by simp)]
  rfl

variable {c : Char}

theorem splitFrom_cons (h : c ≠ sep) (piece rest : List Char) :
    splitFrom [sep] 0 piece (c :: rest) = splitFrom [sep] 0 (c :: piece) rest := by
  rw [splitFrom, if_neg (by simpa using h.symm)]

private theorem splitFrom_append (h : sep ∉ cs) (piece rest : List Char) :
    splitFrom [sep] 0 piece (cs ++ rest) = splitFrom [sep] 0 (cs.reverse ++ piece) rest := by
  induction cs generalizing piece with
  | nil => rfl
  | cons c cs ih =>
    obtain ⟨hc, hcs⟩ : sep ≠ c ∧ sep ∉ cs := by simpa using h
    rw [List.cons_append, splitFrom_cons hc.symm, ih hcs]
    simp

theorem splitFrom_of_not_mem (h : sep ∉ cs) (piece : List Char) : splitFrom [sep] 0 piece cs =
    [piece.reverse ++ cs] := by
  rw [← List.append_nil cs, splitFrom_append h]
  simp [splitFrom]

/-- Pieces without the separator come back from the joined text. -/
theorem splitFrom_intercalate {pieces : List (List Char)} (hne : pieces ≠ []) (h : ∀ piece ∈ pieces, sep ∉ piece) :
    splitFrom [sep] 0 [] ([sep].intercalate pieces) = pieces := by
  induction pieces with
  | nil => exact absurd rfl hne
  | cons piece pieces ih =>
    have hpiece := h piece List.mem_cons_self
    cases pieces with
    | nil => simp [splitFrom_of_not_mem hpiece]
    | cons next pieces =>
      rw [List.intercalate_cons_cons, List.append_assoc, splitFrom_append hpiece, List.singleton_append, splitFrom_sep,
        ih (by simp) fun p hp => h p (List.mem_cons_of_mem _ hp)]
      simp

theorem not_mem_intercalate {sep : List Char} (hsep : c ∉ sep) {pieces : List (List Char)}
    (h : ∀ piece ∈ pieces, c ∉ piece) : c ∉ sep.intercalate pieces := by
  induction pieces with
  | nil => exact List.not_mem_nil
  | cons piece pieces ih =>
    obtain ⟨hpiece, hpieces⟩ := List.forall_mem_cons.1 h
    cases pieces with
    | nil => simpa using hpiece
    | cons next pieces =>
      rw [List.intercalate_cons_cons, List.mem_append, List.mem_append, not_or, not_or]
      exact ⟨⟨hpiece, hsep⟩, ih hpieces⟩

/-- Names without separators are split as they were joined. -/
theorem split_intercalate (s : String) (hs : s.toList = [sep]) {names : List String} (hne : names ≠ [])
    (h : ∀ name ∈ names, sep ∉ name.toList) : split (s.intercalate names) s = names := by
  rw [split, String.toList_intercalate, hs, splitFrom_intercalate (by simpa using hne) (by simpa using h), List.map_map]
  simp

/-- The first piece goes up to the first separator. -/
theorem head?_splitFrom (piece cs : List Char) :
    (splitFrom [sep] 0 piece cs).head? = some (piece.reverse ++ cs.takeWhile (· ≠ sep)) := by
  induction cs generalizing piece with
  | nil => simp [splitFrom]
  | cons c cs ih =>
    by_cases hc : c = sep
    · subst hc
      simp [splitFrom_sep]
    · rw [splitFrom_cons hc, ih]
      simp [hc]

/-- The last piece goes from the last separator on. -/
theorem getLast?_splitFrom_append {last : List Char} (h : sep ∉ last) (piece front : List Char) :
    (splitFrom [sep] 0 piece (front ++ sep :: last)).getLast? = some last := by
  induction front generalizing piece with
  | nil => simp [splitFrom_sep, splitFrom_of_not_mem h]
  | cons c front ih =>
    rw [List.cons_append]
    by_cases hc : c = sep
    · subst hc
      rw [splitFrom_sep, List.getLast?_cons, ih]
      rfl
    · rw [splitFrom_cons hc, ih]

/-! ### White space -/

theorem trim_blank_cons (h : isBlank c = true) (cs : List Char) : trim (c :: cs) = trim cs := by
  rw [trim, trimStart, List.dropWhile_cons_of_pos h]
  rfl

theorem trimEnd_append (cs rest : List Char) :
    trimEnd (cs ++ rest) = if trimEnd rest = [] then trimEnd cs else cs ++ trimEnd rest := by
  simp only [trimEnd, List.reverse_append, List.dropWhile_append, List.isEmpty_iff, List.reverse_eq_nil_iff]
  split <;> simp

theorem trim_append_blank (h : isBlank c = true) (cs : List Char) : trim (cs ++ [c]) = trim cs := by
  have hend : trimEnd [c] = [] := by simp [trimEnd, h]
  have hstart : trimStart [c] = [] := by simp [trimStart, h]
  simp only [trim, trimStart] at hstart ⊢
  rw [List.dropWhile_append]
  split
  case isTrue hnil => rw [hstart, List.isEmpty_iff.1 hnil]
  case isFalse => rw [trimEnd_append, if_pos hend]

section Map

variable {α : Type} {f : List Char → α}

/-- A blank character at the start of the first piece. -/
private theorem map_splitFrom_concat (hf : ∀ cs, f (c :: cs) = f cs) (piece cs : List Char) :
    (splitFrom [sep] 0 (piece ++ [c]) cs).map f = (splitFrom [sep] 0 piece cs).map f := by
  induction cs generalizing piece with
  | nil => simp [splitFrom, hf]
  | cons d cs ih =>
    by_cases hd : d = sep
    · subst hd
      simp [splitFrom_sep, hf]
    · rw [splitFrom_cons hd, splitFrom_cons hd, ← List.cons_append, ih]

/-- A blank character at the end of the last piece. -/
private theorem map_splitFrom_append (hc : c ≠ sep) (hf : ∀ cs, f (cs ++ [c]) = f cs) (piece cs : List Char) :
    (splitFrom [sep] 0 piece (cs ++ [c])).map f = (splitFrom [sep] 0 piece cs).map f := by
  induction cs generalizing piece with
  | nil => simp [splitFrom_cons hc, splitFrom, hf]
  | cons d cs ih =>
    rw [List.cons_append]
    by_cases hd : d = sep
    · subst hd
      rw [splitFrom_sep, splitFrom_sep, List.map_cons, List.map_cons, ih]
    · rw [splitFrom_cons hd, splitFrom_cons hd, ih]

/-- Blanks around a list do not matter if they do not matter around its items. -/
theorem map_splitFrom_trim (hsep : isBlank sep = false) (hstart : ∀ c cs, isBlank c = true → f (c :: cs) = f cs)
    (hend : ∀ c cs, isBlank c = true → f (cs ++ [c]) = f cs) (cs : List Char) :
    (splitFrom [sep] 0 [] (trim cs)).map f = (splitFrom [sep] 0 [] cs).map f := by
  have hne : ∀ c, isBlank c = true → c ≠ sep := by
    rintro c hc rfl
    rw [hsep] at hc
    cases hc
  have htrimEnd : ∀ cs, (splitFrom [sep] 0 [] (trimEnd cs)).map f = (splitFrom [sep] 0 [] cs).map f := by
    intro cs
    induction h : cs.reverse generalizing cs with
    | nil => rw [List.reverse_eq_nil_iff.1 h]; rfl
    | cons c rest ih =>
      obtain rfl := List.reverse_eq_cons_iff.1 h
      by_cases hc : isBlank c = true
      · rw [trimEnd_append, if_pos (by simp [trimEnd, hc]), ih rest.reverse (by simp),
          map_splitFrom_append (hne c hc) fun cs => hend c cs hc]
      · rw [trimEnd_append, if_neg (by simp [trimEnd, hc])]
        simp [trimEnd, hc]
  rw [trim, htrimEnd]
  induction cs with
  | nil => rfl
  | cons c cs ih =>
    by_cases hc : isBlank c = true
    · rw [trimStart, List.dropWhile_cons_of_pos hc, splitFrom_cons (hne c hc)]
      exact ih.trans (map_splitFrom_concat (fun cs => hstart c cs hc) [] cs).symm
    · rw [trimStart, List.dropWhile_cons_of_neg hc]

end Map

end WarehouseMigration.Text
