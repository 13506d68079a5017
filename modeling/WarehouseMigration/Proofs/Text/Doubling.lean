import WarehouseMigration.Text.Search

/-!
# Doubled marks

Inside a delimited name a closing mark is written twice.  `doubled` writes every mark twice and `halved` reads every
pair of marks as one, from left to right; replacing a mark by two, and two by one, are these functions.

The key facts: halving undoes doubling (`halved_doubled`), it changes nothing exactly when no two marks stand
together (`halved_eq_self_iff`), and it commutes with the doubling of another mark (`halved_doubled_of_ne`).
-/

namespace WarehouseMigration.Text

/-- A text with every mark written twice. -/
def doubled (mark : Char) (cs : List Char) : List Char := cs.flatMap fun c => if c = mark then [c, c] else [c]

/-- A text with every pair of marks, taken from left to right, read as one mark. -/
def halved (mark : Char) : List Char → List Char
  | [] => []
  | [c] => [c]
  | c :: d :: rest => if c = mark ∧ d = mark then mark :: halved mark rest else c :: halved mark (d :: rest)

variable {mark other : Char} {cs : List Char}

@[simp] theorem doubled_nil : doubled mark [] = [] := rfl

theorem doubled_cons (c : Char) : doubled mark (c :: cs) = (if c = mark then [c, c] else [c]) ++ doubled mark cs := by
  simp [doubled]

@[simp] theorem doubled_cons_self : doubled mark (mark :: cs) = mark :: mark :: doubled mark cs := by
  simp [doubled]

variable {c : Char}

theorem doubled_cons_of_ne (h : c ≠ mark) : doubled mark (c :: cs) = c :: doubled mark cs := by
  simp [doubled, h]

@[simp] theorem mem_doubled : c ∈ doubled mark cs ↔ c ∈ cs := by
  simp only [doubled, List.mem_flatMap]
  constructor
  · rintro ⟨d, hd, hc⟩
    split at hc <;> simp at hc <;> simpa [hc] using hd
  · intro h
    refine ⟨c, h, ?_⟩
    split <;> simp

/-- A text without marks is left as it is. -/
theorem doubled_of_not_mem (h : mark ∉ cs) : doubled mark cs = cs := by
  induction cs with
  | nil => rfl
  | cons c cs ih =>
    have hc : c ≠ mark := fun e => h (by simp [e])
    rw [doubled_cons_of_ne hc, ih (fun hm => h (by simp [hm]))]

@[simp] theorem halved_nil : halved mark [] = [] := rfl

@[simp] theorem halved_pair : halved mark (mark :: mark :: cs) = mark :: halved mark cs := by
  simp [halved]

theorem halved_cons_of_ne (h : c ≠ mark) : halved mark (c :: cs) = c :: halved mark cs := by
  cases cs with
  | nil => rfl
  | cons d cs => simp [halved, h]

/-- A mark that is not followed by another one stays. -/
theorem halved_cons_of_head_ne (c : Char) (h : ∀ d, cs.head? = some d → d ≠ mark) :
    halved mark (c :: cs) = c :: halved mark cs := by
  cases cs with
  | nil => rfl
  | cons d cs => simp [halved, h d rfl]

/-- What stands before the first mark is left as it is. -/
theorem halved_append_of_not_mem (h : mark ∉ cs) (rest : List Char) :
    halved mark (cs ++ rest) = cs ++ halved mark rest := by
  induction cs with
  | nil => rfl
  | cons c cs ih =>
    have hc : c ≠ mark := fun e => h (by simp [e])
    rw [List.cons_append, halved_cons_of_ne hc, ih (fun hm => h (by simp [hm]))]
    rfl

theorem halved_of_not_mem (h : mark ∉ cs) : halved mark cs = cs := by
  simpa using halved_append_of_not_mem h []

/-- Halving undoes doubling. -/
@[simp] theorem halved_doubled : halved mark (doubled mark cs) = cs := by
  induction cs with
  | nil => rfl
  | cons c cs ih =>
    by_cases h : c = mark
    · subst h
      rw [doubled_cons_self, halved_pair, ih]
    · rw [doubled_cons_of_ne h, halved_cons_of_ne h, ih]

/-- Texts are told apart after doubling. -/
theorem doubled_injective : Function.Injective (doubled mark) := by
  intro xs ys h
  simpa using congrArg (halved mark) h

private theorem halved_append_of_ne (h : c ≠ mark) (rest : List Char) :
    halved mark (cs ++ c :: rest) = halved mark cs ++ c :: halved mark rest := by
  fun_induction halved mark cs with
  | case1 => simpa using halved_cons_of_ne h
  | case2 d =>
    rw [List.singleton_append, halved_cons_of_head_ne d (by simpa using h), halved_cons_of_ne h]
    rfl
  | case3 d e rest' hd ih => simp [hd.1, hd.2, ih]
  | case4 d e rest' hd ih =>
    rw [List.cons_append, List.cons_append, halved, if_neg hd, ← List.cons_append, ih]
    rfl

theorem halved_between (h : c ≠ mark) : halved mark (c :: cs ++ [c]) = c :: halved mark cs ++ [c] := by
  rw [List.cons_append, halved_cons_of_ne h, halved_append_of_ne h]
  rfl

/-- Marks of another kind do not matter. -/
theorem halved_doubled_of_ne (h : other ≠ mark) : halved mark (doubled other cs) = doubled other (halved mark cs) := by
  fun_induction halved mark cs with
  | case1 => rfl
  | case2 c =>
    by_cases hc : c = other
    · subst hc
      simp [halved, h]
    · simp [doubled_cons_of_ne hc, halved]
  | case3 c d rest hc ih =>
    obtain ⟨rfl, rfl⟩ := hc
    rw [doubled_cons_of_ne h.symm, doubled_cons_of_ne h.symm, halved_pair, ih, doubled_cons_of_ne h.symm]
  | case4 c d rest hc ih =>
    by_cases hco : c = other
    · subst hco
      rw [doubled_cons_self, halved_cons_of_ne h, halved_cons_of_ne h, ih, doubled_cons_self]
    · rw [doubled_cons_of_ne hco, doubled_cons_of_ne hco]
      by_cases hcm : c = mark
      · -- the next character is no mark, and its doubling begins with it
        have hd : d ≠ mark := fun hd => hc ⟨hcm, hd⟩
        rw [halved_cons_of_head_ne, ih]
        intro e he
        rw [doubled_cons] at he
        split at he <;> simp at he <;> simpa [← he] using hd
      · rw [halved_cons_of_ne hcm, ih]

private theorem length_halved_le (mark : Char) (cs : List Char) : (halved mark cs).length ≤ cs.length := by
  fun_induction halved mark cs with
  | case1 => simp
  | case2 => simp
  | case3 c d rest _ ih => simp only [List.length_cons]; omega
  | case4 c d rest _ ih => simp only [List.length_cons] at ih ⊢; omega

/-- Halving shortens a text exactly when two marks stand together in it. -/
theorem length_halved_eq_iff : (halved mark cs).length = cs.length ↔ ¬ [mark, mark] <:+: cs := by
  fun_induction halved mark cs with
  | case1 => simp
  | case2 c =>
    simp only [List.length_cons, List.length_nil, true_iff]
    intro h
    simpa using h.length_le
  | case3 c d rest hc ih =>
    have := length_halved_le mark rest
    obtain ⟨rfl, rfl⟩ := hc
    simp only [List.length_cons]
    exact iff_of_false (by omega) (fun h => h ⟨[], rest, by simp⟩)
  | case4 c d rest hc ih =>
    rw [List.length_cons, List.length_cons (a := c), Nat.add_right_cancel_iff, ih, List.infix_cons_iff (a := c)]
    have : ¬ [mark, mark] <+: c :: d :: rest := by
      simp only [List.cons_prefix_cons, List.nil_prefix, and_true]
      rintro ⟨h1, h2⟩
      exact hc ⟨h1.symm, h2.symm⟩
    simp only [this, false_or]

/-- Halving changes nothing exactly when no two marks stand together. -/
theorem halved_eq_self_iff : halved mark cs = cs ↔ ¬ [mark, mark] <:+: cs := by
  constructor
  · intro h
    exact length_halved_eq_iff.1 (congrArg List.length h)
  · intro h
    fun_induction halved mark cs with
    | case1 => rfl
    | case2 => rfl
    | case3 c d rest hc ih => exact absurd ⟨[], rest, by simp [hc.1, hc.2]⟩ h
    | case4 c d rest _ ih => rw [ih (fun hi => h (List.infix_cons hi))]

/-- Halving twice changes nothing exactly when halving once does. -/
theorem halved_halved_eq_self_iff : halved mark (halved mark cs) = cs ↔ ¬ [mark, mark] <:+: cs := by
  constructor
  · intro h
    have h1 := length_halved_le mark (halved mark cs)
    have h2 := length_halved_le mark cs
    rw [h] at h1
    exact length_halved_eq_iff.1 (by omega)
  · intro h
    rw [halved_eq_self_iff.2 h, halved_eq_self_iff.2 h]

/-- No two marks meet in a text between other characters exactly when none meet in the text. -/
theorem not_pair_infix_between_iff (h : c ≠ mark) : ¬ [mark, mark] <:+: c :: cs ++ [c] ↔ ¬ [mark, mark] <:+: cs := by
  rw [← halved_eq_self_iff, ← halved_eq_self_iff, halved_between h]
  simp

/-! ### Replacing -/

theorem replaceFrom_single (new : List Char) :
    replaceFrom [mark] new 0 cs = cs.flatMap fun c => if c = mark then new else [c] := by
  induction cs with
  | nil => rfl
  | cons c cs ih =>
    simp only [replaceFrom, List.isPrefixOf, Bool.and_true, beq_iff_eq, List.length_singleton, Nat.sub_self,
      List.flatMap_cons, ih]
    by_cases h : mark = c
    · simp [h]
    · simp [h, Ne.symm h]

/-- Doubling is a replacement. -/
theorem replaceChars_double : replaceChars [mark] [mark, mark] cs = doubled mark cs := by
  simp only [replaceChars, List.isEmpty_cons, Bool.false_eq_true, ite_false, replaceFrom_single, doubled]
  congr 1
  funext c
  split <;> simp_all

/-- Halving is a replacement, too. -/
theorem replaceChars_halve : replaceChars [mark, mark] [mark] cs = halved mark cs := by
  simp only [replaceChars, List.isEmpty_cons, Bool.false_eq_true, ite_false]
  fun_induction halved mark cs with
  | case1 => rfl
  | case2 c => simp [replaceFrom, List.isPrefixOf]
  | case3 c d rest hc ih =>
    obtain ⟨rfl, rfl⟩ := hc
    simp [replaceFrom, List.isPrefixOf, ih]
  | case4 c d rest hc ih =>
    have : List.isPrefixOf [mark, mark] (c :: d :: rest) = false := by
      simp only [List.isPrefixOf, Bool.and_true, Bool.and_eq_false_iff, beq_eq_false_iff_ne]
      by_cases h : mark = c
      · right
        intro h'
        exact hc ⟨h.symm, h'.symm⟩
      · exact Or.inl h
    rw [replaceFrom, this, ih]
    simp

end WarehouseMigration.Text
