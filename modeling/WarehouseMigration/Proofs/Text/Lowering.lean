import WarehouseMigration.Text.Blank
import WarehouseMigration.Text.LetterCase

/-!
# Lower case is taken once

The lower-case form of a text is made with regard to the neighbours of each character.  Still, a text is its own
lower-case form exactly when every character of it is (`lowerChars_eq_self_iff`): no image is empty, so a text that
keeps its length keeps every character.  Hence a text made of the characters of a lower-case text, and of others that
have no case, is in lower case again.

Every character of a lower-case form is in lower case (`isLower_of_mem_lowerFrom`), so taking lower case again changes
nothing (`lower_lower`).  This is a fact about the table of case mappings: no image of a range lies in a range
(`avoids_lowerRanges`), and none is the one character with a longer form (`proper_lowerRanges`).
-/

namespace WarehouseMigration.Text

/-- A character that is its own lower-case form wherever it stands. -/
def IsLower (c : Char) : Prop := c ≠ 'Σ' ∧ lowerChar c = [c]

instance (c : Char) : Decidable (IsLower c) := inferInstanceAs (Decidable (_ ∧ _))

/-- The form that `lowerFrom` gives to one character between `before` and `rest`. -/
private def lowerAt (before rest : List Char) (c : Char) : List Char :=
  if c = 'Σ' then if meetsCased before && !meetsCased rest then ['ς'] else ['σ'] else lowerChar c

private theorem lowerFrom_cons (before rest : List Char) (c : Char) :
    lowerFrom before (c :: rest) = lowerAt before rest c ++ lowerFrom (c :: before) rest := rfl

theorem lowerChar_ne_nil (c : Char) : lowerChar c ≠ [] := by
  unfold lowerChar LetterCase.expanded
  split
  · simp
  · split
    · rename_i image h
      simp only [LetterCase.lowerExpansions, List.lookup_cons, List.lookup_nil] at h
      split at h
      · simp only [Option.some.injEq] at h
        simp [← h]
      · simp at h
    · simp

private theorem lowerAt_ne_nil (before rest : List Char) (c : Char) : lowerAt before rest c ≠ [] := by
  unfold lowerAt
  split
  · split <;> simp
  · exact lowerChar_ne_nil c

private theorem lowerAt_eq_singleton_iff (before rest : List Char) (c : Char) :
    lowerAt before rest c = [c] ↔ IsLower c := by
  unfold lowerAt IsLower
  by_cases h : c = 'Σ'
  · subst h
    simp only [ite_true, ne_eq, not_true_eq_false, false_and, iff_false]
    split <;> decide
  · simp [h]

/-- Taking lower case never shortens a text. -/
private theorem length_le_lowerFrom (before cs : List Char) : cs.length ≤ (lowerFrom before cs).length := by
  induction cs generalizing before with
  | nil => simp [lowerFrom]
  | cons c cs ih =>
    rw [lowerFrom_cons, List.length_append, List.length_cons]
    have h1 := List.length_pos_iff.2 (lowerAt_ne_nil before cs c)
    have h2 := ih (c :: before)
    omega

private theorem lowerFrom_eq_self_iff (before : List Char) {cs : List Char} :
    lowerFrom before cs = cs ↔ ∀ c ∈ cs, IsLower c := by
  induction cs generalizing before with
  | nil => simp [lowerFrom]
  | cons c cs ih =>
    rw [lowerFrom_cons, List.forall_mem_cons, ← ih (c :: before), ← lowerAt_eq_singleton_iff before cs]
    constructor
    · intro h
      -- the image of `c` is one character long, since the rest does not get shorter
      have hlen := congrArg List.length h
      have h1 := List.length_pos_iff.2 (lowerAt_ne_nil before cs c)
      have h2 := length_le_lowerFrom (c :: before) cs
      rw [List.length_append, List.length_cons] at hlen
      obtain ⟨x, hx⟩ := List.length_eq_one_iff.1 (show (lowerAt before cs c).length = 1 by omega)
      rw [hx, List.singleton_append, List.cons.injEq] at h
      rw [hx, h.1]
      exact ⟨rfl, h.2⟩
    · rintro ⟨h1, h2⟩
      rw [h1, h2, List.singleton_append]

/-- A text is its own lower-case form exactly when each of its characters is. -/
theorem lowerChars_eq_self_iff {cs : List Char} : lowerChars cs = cs ↔ ∀ c ∈ cs, IsLower c :=
  lowerFrom_eq_self_iff []

/-- A text is in lower case if all its characters are. -/
theorem lower_eq_self_iff {s : String} : lower s = s ↔ ∀ c ∈ s.toList, IsLower c := by
  rw [← lowerChars_eq_self_iff, lower, ← String.toList_inj, String.toList_ofList]

theorem strip_eq_self_iff {s : String} : strip s = s ↔ trim s.toList = s.toList := by
  rw [strip, ← String.toList_inj, String.toList_ofList]

/-- Nothing is trimmed from a text that begins and ends with other characters than white space. -/
theorem trim_cons_append {a z : Char} (ha : isBlank a = false) (hz : isBlank z = false) (cs : List Char) :
    trim (a :: cs ++ [z]) = a :: cs ++ [z] := by
  have h1 : trimStart (a :: cs ++ [z]) = a :: cs ++ [z] := by simp [trimStart, ha]
  rw [trim, h1]
  simp [trimEnd, hz]

/-! ### Lower case is taken once -/

namespace LetterCase

/-- A range `(first, last, step, shift)` of the code points `first, first + step, …, last`. -/
abbrev Range := Nat × Nat × Nat × Int

namespace Range

variable (r q : Range)

def holds (n : Nat) : Bool := r.1 ≤ n && n ≤ r.2.1 && (n - r.1) % r.2.2.1 == 0

def low : Nat := (r.1 + r.2.2.2).toNat

def high : Nat := (r.2.1 + r.2.2.2).toNat

/-- The images of a range are characters, and the one with a longer form is not among them. -/
def Proper : Prop :=
  0 < r.1 + r.2.2.2 ∧ (r.high < 0xD800 ∨ 0xDFFF < r.low ∧ r.high < 0x110000) ∧ (r.high < 304 ∨ 304 < r.low)

instance : Decidable r.Proper := inferInstanceAs (Decidable (_ ∧ _))

/-- The images of `r` lie before `q`, behind it or in its gaps.  The table is checked pair by pair, so this is spelt
with the comparisons that evaluate at once. -/
def avoids : Bool :=
  Nat.blt r.high q.1 || Nat.blt q.2.1 r.low ||
    Nat.beq q.2.2.1 2 && (Nat.beq r.2.2.1 2 || Nat.beq r.1 r.2.1) && Nat.beq ((r.low + q.1) % 2) 1

variable {r q} {n : Nat}

/-- A code point that is mapped goes between the first and the last image. -/
theorem image_bounds (h : r.holds n = true) (hr : r.Proper) :
    r.low ≤ (n + r.2.2.2).toNat ∧ (n + r.2.2.2).toNat ≤ r.high := by
  simp only [holds, Bool.and_eq_true, decide_eq_true_eq] at h
  have hpos := hr.1
  simp only [low, high]
  omega

private theorem not_holds_of_avoids (h : r.avoids q = true) (hn : r.holds n = true) (hr : r.Proper) :
    q.holds (n + r.2.2.2).toNat = false := by
  have hbounds := image_bounds hn hr
  simp only [avoids, Bool.or_eq_true, Bool.and_eq_true, Nat.blt_eq, Nat.beq_eq] at h
  rw [← Bool.not_eq_true]
  intro hq
  simp only [holds, Bool.and_eq_true, decide_eq_true_eq, beq_iff_eq] at hn hq
  rcases h with (h | h) | ⟨⟨hstep, hgaps⟩, hodd⟩
  · omega
  · omega
  · -- the images have the parity of the first one, the code points of `q` the other one
    have hpos := hr.1
    simp only [low] at hodd
    rw [hstep] at hq
    rcases hgaps with hgaps | hgaps
    · rw [hgaps] at hn
      omega
    · omega

end Range

theorem proper_lowerRanges : ∀ r ∈ lowerRanges, Range.Proper r := by
  decide +kernel

/-- No lower-case form has a lower-case form of its own. -/
theorem avoids_lowerRanges {r q : Range} (hr : r ∈ lowerRanges) (hq : q ∈ lowerRanges) : r.avoids q = true := by
  have h : (lowerRanges.all fun r => lowerRanges.all fun q => Range.avoids r q) = true := by decide +kernel
  exact List.all_eq_true.1 (List.all_eq_true.1 h r hr) q hq

/-- A code point stays, since no range holds it, or it is moved by a range that does. -/
theorem shifted_cases (ranges : List Range) (n : Nat) :
    ((∀ r ∈ ranges, r.holds n = false) ∧ shifted ranges n = n) ∨
      ∃ r ∈ ranges, r.holds n = true ∧ shifted ranges n = (n + r.2.2.2).toNat := by
  unfold shifted
  split
  case h_1 first last step shift hfind =>
    have hholds := List.find?_some hfind
    exact .inr ⟨_, List.mem_of_find?_eq_some hfind, hholds, rfl⟩
  case h_2 hfind =>
    refine .inl ⟨fun r hr => ?_, rfl⟩
    rw [← Bool.not_eq_true]
    exact List.find?_eq_none.1 hfind r hr

end LetterCase

open LetterCase

private theorem isLower_of_not_holds {c : Char} (h : ∀ r ∈ lowerRanges, Range.holds r c.toNat = false)
    (hlong : c.toNat ≠ 304) : IsLower c := by
  refine ⟨?_, ?_⟩
  · rintro rfl
    have hsigma := h (931, 939, 1, 32) (by decide)
    revert hsigma
    decide
  · rw [lowerChar]
    split
    case isTrue hascii =>
      have hcapital := h (65, 90, 1, 32) List.mem_cons_self
      refine congrArg (fun d => [d]) (dif_neg ?_)
      rintro ⟨hfirst, hlast⟩
      rw [ge_iff_le, UInt32.le_iff_toNat_le] at hfirst
      rw [UInt32.le_iff_toNat_le] at hlast
      have hholds : Range.holds (65, 90, 1, 32) c.toNat = true := by
        simp only [Range.holds, Nat.mod_one, beq_self_eq_true, Bool.and_true, Bool.and_eq_true, decide_eq_true_eq]
        exact ⟨hfirst, hlast⟩
      rw [hcapital] at hholds
      cases hholds
    case isFalse =>
      have hlookup : lowerExpansions.lookup c.toNat = none := by
        rw [lowerExpansions, List.lookup_cons, beq_eq_false_iff_ne.2 hlong]
        rfl
      rcases shifted_cases lowerRanges c.toNat with ⟨-, heq⟩ | ⟨r, hr, hholds, -⟩
      · simp only [expanded, hlookup, heq, Char.ofNat_toNat]
      · rw [h r hr] at hholds
        cases hholds

private theorem isLower_image {r : Range} (hr : r ∈ lowerRanges) {n : Nat} (hn : r.holds n = true) :
    IsLower (Char.ofNat (n + r.2.2.2).toNat) := by
  have hproper := proper_lowerRanges r hr
  obtain ⟨hlow, hhigh⟩ := Range.image_bounds hn hproper
  have hvalid := hproper.2.1
  have hlong := hproper.2.2
  have hcode : (Char.ofNat (n + r.2.2.2).toNat).toNat = (n + r.2.2.2).toNat := by
    rw [Char.ofNat, dif_pos (by unfold Nat.isValidChar; omega)]
    rfl
  refine isLower_of_not_holds (fun q hq => ?_) (by omega)
  rw [hcode]
  exact Range.not_holds_of_avoids (avoids_lowerRanges hr hq) hn hproper

private theorem isLower_of_mem_lowerChar {c d : Char} (hd : d ∈ lowerChar c) : IsLower d := by
  rw [lowerChar] at hd
  split at hd
  case isTrue hascii =>
    have hlower : ∀ n < 128, IsLower (Char.ofNat n).toLower := by decide
    rw [List.mem_singleton.1 hd, ← Char.ofNat_toNat c]
    exact hlower c.toNat hascii
  case isFalse =>
    rw [expanded] at hd
    split at hd
    case h_1 image hlookup =>
      simp only [lowerExpansions, List.lookup_cons, List.lookup_nil] at hlookup
      split at hlookup
      · cases hlookup
        simp only [List.map_cons, List.map_nil, List.mem_cons, List.not_mem_nil, or_false] at hd
        rcases hd with rfl | rfl
        all_goals decide
      · cases hlookup
    case h_2 hlookup =>
      rw [List.mem_singleton.1 hd]
      rcases shifted_cases lowerRanges c.toNat with ⟨hnone, heq⟩ | ⟨r, hr, hholds, heq⟩
      · rw [heq, Char.ofNat_toNat]
        refine isLower_of_not_holds hnone fun hlong => ?_
        rw [hlong] at hlookup
        cases hlookup
      · rw [heq]
        exact isLower_image hr hholds

/-- Every character of a lower-case form is in lower case. -/
theorem isLower_of_mem_lowerFrom {before cs : List Char} {d : Char} (hd : d ∈ lowerFrom before cs) : IsLower d := by
  induction cs generalizing before with
  | nil => exact absurd hd List.not_mem_nil
  | cons c cs ih =>
    rcases List.mem_append.1 hd with hd | hd
    · -- a capital sigma becomes one of the two small ones
      split at hd
      · split at hd
        all_goals
          rw [List.mem_singleton.1 hd]
          decide
      · exact isLower_of_mem_lowerChar hd
    · exact ih hd

private theorem lowerChars_lowerChars (cs : List Char) : lowerChars (lowerChars cs) = lowerChars cs :=
  lowerChars_eq_self_iff.2 fun _ => isLower_of_mem_lowerFrom

theorem lowerChars_ne_nil {cs : List Char} (h : cs ≠ []) : lowerChars cs ≠ [] := by
  have hlength := length_le_lowerFrom [] cs
  rw [← lowerChars] at hlength
  intro hnil
  rw [hnil] at hlength
  exact h (List.length_eq_zero_iff.1 (Nat.le_zero.1 hlength))

theorem lower_ne_empty {s : String} (h : s ≠ "") : lower s ≠ "" := by
  rw [ne_eq, ← String.toList_inj] at h ⊢
  rw [lower, String.toList_ofList]
  exact lowerChars_ne_nil h

/-- Taking lower case again changes nothing. -/
theorem lower_lower (s : String) : lower (lower s) = lower s := by
  rw [lower, lower, String.toList_ofList, lowerChars_lowerChars]

end WarehouseMigration.Text
