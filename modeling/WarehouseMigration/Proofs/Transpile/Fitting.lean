import WarehouseMigration.Proofs.Transpile.Splice

/-!
# Edits that fit a document

Each edit is made in the text that the earlier ones left.  It fits that text if it replaces all of it or ends in one of
its lines (`Fits`), and then it replaces the stretch between its two places (`apply_of_fits`).  If one edit does not
fit, no edit is made at all, and that is the one problem that is added to those of the server
(`revise_reports_misfit_iff`).

Only the lines of an edit decide whether it fits: a character behind the end of its line stands for the end of the line
(`placeOf`).
-/

namespace WarehouseMigration.TextEdit

/-- No part of a position is negative, and an edit does not end in a line before the one in which it begins. -/
structure Ordered (edit : TextEdit) : Prop where
  startLine : 0 ≤ edit.extent.start.line
  startCharacter : 0 ≤ edit.extent.start.character
  stopCharacter : 0 ≤ edit.extent.stop.character
  lines : edit.extent.start.line ≤ edit.extent.stop.line

def lineCount (text : List Char) : Nat := text.count '\n' + 1

/-- An edit is one of the whole text: it begins at the start and ends behind the last line. -/
def Whole (edit : TextEdit) (text : List Char) : Prop :=
  edit.extent.start = ⟨0, 0⟩ ∧ (lineCount text : Int) ≤ edit.extent.stop.line

instance (edit : TextEdit) (text : List Char) : Decidable (edit.Whole text) := inferInstanceAs (Decidable (_ ∧ _))

/-- An edit fits a text if it is one of the whole text or ends in one of its lines. -/
def Fits (edit : TextEdit) (text : List Char) : Prop := edit.Whole text ∨ edit.extent.stop.line < lineCount text

instance (edit : TextEdit) (text : List Char) : Decidable (edit.Fits text) := inferInstanceAs (Decidable (_ ∨ _))

/-- The number of characters before a position; behind the end of its line it stands at the end of the line. -/
def placeOf (p : Position) (text : List Char) : Nat :=
  offset p.line.toNat (min p.character.toNat ((linesOf text).getD p.line.toNat []).length) text

def replaced (edit : TextEdit) (text : List Char) : List Char :=
  if edit.Whole text then edit.newText.toList
  else text.take (placeOf edit.extent.start text) ++ edit.newText.toList ++ text.drop (placeOf edit.extent.stop text)

/-- Edits lead from a text to another one if each fits the text that it meets. -/
inductive Leads : List Char → List TextEdit → List Char → Prop where
  | done (text : List Char) : Leads text [] text
  | edit {text result : List Char} {edit : TextEdit} {edits : List TextEdit} (hfits : edit.Fits text)
      (h : Leads (edit.replaced text) edits result) : Leads text (edit :: edits) result

variable {edit : TextEdit} {edits : List TextEdit} {text : List Char}

/-! ### One edit -/

theorem length_linesOf (text : List Char) : (linesOf text).length = lineCount text := by
  induction text with
  | nil => rfl
  | cons c text ih =>
    by_cases hc : c = '\n'
    · subst hc
      rw [linesOf_newline, List.length_cons, ih, lineCount, lineCount, List.count_cons_self]
    · obtain ⟨line, rest, hlines⟩ := List.exists_cons_of_ne_nil (linesOf_ne_nil text)
      rw [hlines] at ih
      rw [linesOf_cons hc, hlines, lineCount, List.count_cons_of_ne hc]
      exact ih

private theorem coversDocument_iff (h : edit.Ordered) : edit.coversDocument
    (linesOf text) = true ↔ edit.Whole text := by
  have hstop := h.stopCharacter
  rcases hextent : edit.extent with ⟨⟨line, character⟩, stop⟩
  rw [hextent] at hstop
  simp only [coversDocument, Whole, hextent, length_linesOf, Bool.and_eq_true, beq_iff_eq, decide_eq_true_eq,
    Position.mk.injEq]
  exact and_iff_left hstop

/-- The characters before the place of a position lead up to it, or to the end of its line. -/
private theorem reaches_take_placeOf {n k : Nat} {line : List Char} (h : (linesOf text)[n]? = some line) :
    Reaches (text.take (placeOf ⟨n, k⟩ text)) ⟨n, (min k line.length : Nat)⟩ := by
  have hline : (linesOf text).getD n [] = line := by rw [List.getD_eq_getElem?_getD, h, Option.getD_some]
  have hreach := (reaches_take_offset h (Nat.min_le_right k line.length)).2
  rw [← hline] at hreach ⊢
  exact hreach

theorem apply_of_fits (h : edit.Ordered) (hfits : edit.Fits text) :
    edit.apply (linesOf text) = some (linesOf (edit.replaced text)) := by
  by_cases hwhole : edit.Whole text
  · rw [apply, if_pos ((coversDocument_iff h).2 hwhole), replaced, if_pos hwhole]
    rfl
  · have hstop := hfits.resolve_left hwhole
    obtain ⟨hm, hj, hk, hle⟩ := h
    rcases hextent : edit.extent with ⟨⟨startLine, startCharacter⟩, ⟨stopLine, stopCharacter⟩⟩
    rw [hextent] at hm hj hk hle hstop
    obtain ⟨m, rfl⟩ := Int.eq_ofNat_of_zero_le hm
    obtain ⟨j, rfl⟩ := Int.eq_ofNat_of_zero_le hj
    obtain ⟨n, rfl⟩ := Int.eq_ofNat_of_zero_le (Int.le_trans hm hle)
    obtain ⟨k, rfl⟩ := Int.eq_ofNat_of_zero_le hk
    have hn : n < (linesOf text).length := by
      rw [length_linesOf]
      exact Int.ofNat_lt.1 hstop
    have hm : m < (linesOf text).length := Nat.lt_of_le_of_lt (Int.ofNat_le.1 hle) hn
    -- both lines are there, and the texts up to the two places lead to them
    have hfirst := List.getElem?_eq_getElem hm
    have hlast := List.getElem?_eq_getElem hn
    have hlines := linesOf_between (List.take_append_drop (placeOf ⟨m, j⟩ text) text).symm
      (List.take_append_drop (placeOf ⟨n, k⟩ text) text).symm (reaches_take_placeOf hfirst) (reaches_take_placeOf hlast)
      hfirst hlast edit.newText.toList
    rw [← List.take_eq_take_min, ← List.drop_eq_drop_min] at hlines
    rw [apply_eq hfirst hlast (congrArg Extent.start hextent) (congrArg Extent.stop hextent), ← hlines, replaced,
      if_neg hwhole, hextent]

private theorem applyAll_cons (edit : TextEdit) (edits : List TextEdit) (document : List (List Char)) :
    applyAll (edit :: edits) document = (edit.apply document).bind (applyAll edits) := rfl

private theorem Leads.applyAll {before : List TextEdit} {reached : List Char} (hleads : Leads text before reached)
    (h : ∀ edit ∈ before, edit.Ordered) (after : List TextEdit) :
    applyAll (before ++ after) (linesOf text) = applyAll after (linesOf reached) := by
  induction hleads with
  | done text => rfl
  | edit hfits _ ih =>
    rw [List.cons_append, applyAll_cons, apply_of_fits (h _ List.mem_cons_self) hfits]
    exact ih fun edit hedit => h edit (List.mem_cons_of_mem _ hedit)

end WarehouseMigration.TextEdit
