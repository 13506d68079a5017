import WarehouseMigration.Text.Search

/-!
# Removing the occurrences of a text

Replacing a text by nothing removes all of its occurrences, from left to right.  The key facts: an occurrence at the
start is removed like the others (`replaceFrom_append_self`), a text without occurrences stays as it is
(`replaceFrom_of_not_infix`), and any other gets shorter (`length_replaceFrom_lt`).
-/

namespace WarehouseMigration.Text

variable {old cs : List Char}

/-- A text occurs where it is a part. -/
theorem occursIn_iff : occursIn old cs = true ↔ old <:+: cs := by
  induction cs with
  | nil => simp [occursIn]
  | cons c cs ih => rw [occursIn, Bool.or_eq_true, List.isPrefixOf_iff_prefix, ih, List.infix_cons_iff]

private theorem replaceFrom_skip (old new : List Char) (k : Nat) (cs : List Char) :
    replaceFrom old new k cs = replaceFrom old new 0 (cs.drop k) := by
  induction k generalizing cs with
  | zero => rfl
  | succ k ih =>
    cases cs with
    | nil => rfl
    | cons c cs => exact ih cs

theorem replaceFrom_append_self (hne : old ≠ []) (new cs : List Char) :
    replaceFrom old new 0 (old ++ cs) = new ++ replaceFrom old new 0 cs := by
  obtain ⟨c, rest, rfl⟩ := List.exists_cons_of_ne_nil hne
  have hstart : (c :: rest).isPrefixOf (c :: (rest ++ cs)) = true :=
    List.isPrefixOf_iff_prefix.2 (List.prefix_append (c :: rest) cs)
  rw [List.cons_append, replaceFrom, if_pos hstart, replaceFrom_skip]
  simp

/-- What does not occur is not replaced. -/
theorem replaceFrom_of_not_infix (h : ¬ old <:+: cs) (new : List Char) : replaceFrom old new 0 cs = cs := by
  induction cs with
  | nil => rfl
  | cons c cs ih =>
    rw [List.infix_cons_iff, not_or] at h
    have hstart : ¬ old.isPrefixOf (c :: cs) = true := fun hp => h.1 (List.isPrefixOf_iff_prefix.1 hp)
    rw [replaceFrom, if_neg hstart, ih h.2]

/-- Nothing but characters of the text is left. -/
theorem replaceFrom_sublist (old : List Char) (k : Nat) (cs : List Char) :
    (replaceFrom old [] k cs).Sublist cs := by
  induction cs generalizing k with
  | nil => exact List.Sublist.refl _
  | cons c cs ih =>
    cases k with
    | succ k => exact (ih k).cons c
    | zero =>
      rw [replaceFrom]
      split
      · exact (ih _).cons c
      · exact (ih 0).cons_cons c

/-- Removing what occurs makes a text shorter. -/
theorem length_replaceFrom_lt (h : old <:+: cs) (hne : old ≠ []) :
    (replaceFrom old [] 0 cs).length < cs.length := by
  induction cs with
  | nil => exact absurd (List.infix_nil.1 h) hne
  | cons c cs ih =>
    rw [replaceFrom]
    split
    case isTrue =>
      have hle := (replaceFrom_sublist old (old.length - 1) cs).length_le
      simp only [List.nil_append, List.length_cons]
      omega
    case isFalse hstart =>
      have hrest : old <:+: cs := by
        rcases List.infix_cons_iff.1 h with hp | hi
        · exact absurd (List.isPrefixOf_iff_prefix.2 hp) hstart
        · exact hi
      simpa using ih hrest

end WarehouseMigration.Text
