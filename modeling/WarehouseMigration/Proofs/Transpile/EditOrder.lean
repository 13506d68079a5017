import Mathlib.Data.List.Pairwise
import WarehouseMigration.Proofs.Transpile.Splice

/-!
# The order of text edits

All edits of an answer are about the document as it was, so the order in which they are listed should carry no
meaning.  They are applied one after the other, though, and an edit moves the text behind its range.  Its place is
found again if the earlier edits stand behind it, or if they end, with their new texts, where their ranges ended
(`keeps`).  A list in which this is so for every edit is `steady`; all steady orders of the same edits give the same
text (`revise_eq_of_perm`), and orders that are not may differ (`revise_ne_of_moved`).

A position is what a text leads up to, and going on over a further text adds to it (`advance`).  Hence what earlier
edits did before a position can be told from the position to which the edited text leads (`advance_splicedUpTo`).
-/

namespace WarehouseMigration

namespace TextEdit

/-! ### The specification -/

/-- The position that is reached from `p` by going over a text. -/
def advance (p : Position) : List Char → Position
  | [] => p
  | c :: cs => advance (if c = '\n' then ⟨p.line + 1, 0⟩ else ⟨p.line, p.character + 1⟩) cs

def newStop (edit : TextEdit) : Position := advance edit.extent.start edit.newText.toList

/-- Whether an edit leaves a position behind its range where it is: the new text ends in the line in which the range
ended, and if this is the line of the position, at the same character. -/
def keeps (edit : TextEdit) (p : Position) : Bool :=
  edit.newStop.line == edit.extent.stop.line &&
    (p.line != edit.extent.stop.line || edit.newStop.character == edit.extent.stop.character)

def precedes (edit other : TextEdit) : Bool := notAfter edit.extent.stop other.extent.start

def apart (edit other : TextEdit) : Bool := edit.precedes other || other.precedes edit

/-- The ranges of the edits lie in a document, no two of them overlap, and no two are the same. -/
structure Scattered (document : List (List Char)) (edits : List TextEdit) : Prop where
  lies : ∀ edit ∈ edits, edit.lies document = true
  apart : edits.Pairwise fun edit other => edit.apart other = true
  distinct : edits.Pairwise fun edit other => edit.extent ≠ other.extent

/-- No edit moves one that is listed after it. -/
def steady (edits : List TextEdit) : Prop :=
  edits.Pairwise fun edit next => next.precedes edit = true ∨ edit.keeps next.extent.start = true

instance (edits : List TextEdit) : Decidable (steady edits) :=
  inferInstanceAs (Decidable (edits.Pairwise _))

/-! ### Positions -/

private theorem advance_append (p : Position) (xs ys : List Char) : advance p (xs ++ ys) = advance
    (advance p xs) ys := by
  induction xs generalizing p with
  | nil => rfl
  | cons c xs ih => exact ih _

variable {p q : Position}

private theorem advance_congr (h : p.line = q.line) (cs : List Char) :
    (advance p cs).line = (advance q cs).line ∧ (p.line < (advance p cs).line → advance p cs = advance q cs) := by
  induction cs generalizing p q with
  | nil => exact ⟨h, fun hlt => absurd hlt (Int.lt_irrefl _)⟩
  | cons c cs ih =>
    rw [advance, advance]
    by_cases hc : c = '\n'
    · simp only [hc, if_true, h, and_self, implies_true]
    · simp only [hc, if_false]
      exact ih h

variable {pre : List Char}

/-- Going on over one more character. -/
private theorem Reaches.concat (h : Reaches pre p) (c : Char) : Reaches (pre ++ [c]) (advance p [c]) := by
  obtain ⟨init, last, hlines, rfl⟩ := h
  by_cases hc : c = '\n'
  · subst hc
    refine ⟨init ++ [last], [], ?_, ?_⟩
    · rw [linesOf_append hlines, linesOf_newline, linesOf_nil]
      simp [prepend]
    · simp [advance]
  · refine ⟨init, last ++ [c], ?_, ?_⟩
    · rw [linesOf_append hlines, linesOf_cons hc, linesOf_nil]
      simp [prepend]
    · simp [advance, hc]

/-- Going on over a text leads to the position that is reached from where one was. -/
private theorem Reaches.append (h : Reaches pre p) (cs : List Char) : Reaches (pre ++ cs) (advance p cs) := by
  induction cs generalizing pre p with
  | nil => rwa [List.append_nil]
  | cons c cs ih => simpa [advance] using ih (h.concat c)

/-- A text leads up to one position only. -/
private theorem Reaches.eq (hp : Reaches pre p) (hq : Reaches pre q) : p = q := by
  obtain ⟨init, last, hlines, rfl⟩ := hp
  obtain ⟨init', last', hlines', rfl⟩ := hq
  rw [hlines] at hlines'
  obtain ⟨rfl, hlast⟩ := List.append_inj' hlines' rfl
  cases hlast
  rfl

private theorem reaches_iff : Reaches pre p ↔ advance ⟨0, 0⟩ pre = p := by
  have hreach := reaches_nil.append pre
  rw [List.nil_append] at hreach
  constructor
  · exact fun h => hreach.eq h
  · rintro rfl
    exact hreach

private theorem advance_take {text : List Char} (h : within (linesOf text) p = true) :
    advance ⟨0, 0⟩ (text.take (offsetOf p text)) = p :=
  reaches_iff.1 (reaches_take_offsetOf h).2

private theorem advance_slice {text : List Char} (hp : within (linesOf text) p = true)
    (hq : within (linesOf text) q = true) (h : notAfter p q = true) :
    advance p ((text.take (offsetOf q text)).drop (offsetOf p text)) = q := by
  have hle := offsetOf_le hp hq h
  have hwhole := advance_take hq
  rwa [← take_append_slice hle, advance_append, advance_take hp] at hwhole

private theorem notAfter_iff : notAfter p q = true ↔ p.line < q.line ∨
    (p.line = q.line ∧ p.character ≤ q.character) := by
  simp [notAfter]

private theorem notAfter_trans {r : Position} (h : notAfter p q = true) (h' : notAfter q r = true) :
    notAfter p r = true := by
  rw [notAfter_iff] at *
  omega

private theorem lies_iff {document : List (List Char)} {edit : TextEdit} : edit.lies document = true ↔
    within document edit.extent.start = true ∧ within document edit.extent.stop = true ∧
      notAfter edit.extent.start edit.extent.stop = true := by
  simp only [lies, Bool.and_eq_true, and_assoc]

private theorem keeps_iff {edit : TextEdit} : edit.keeps p = true ↔
    edit.newStop.line = edit.extent.stop.line ∧ (p.line = edit.extent.stop.line → edit.newStop = edit.extent.stop) := by
  rcases hnew : edit.newStop with ⟨l, k⟩
  rcases hstop : edit.extent.stop with ⟨l', k'⟩
  simp only [keeps, hnew, hstop, Bool.and_eq_true, Bool.or_eq_true, beq_iff_eq, bne_iff_ne, Position.mk.injEq]
  constructor
  · rintro ⟨h1, h2⟩
    refine ⟨h1, fun h => ⟨h1, h2.resolve_left (not_not_intro h)⟩⟩
  · rintro ⟨h1, h2⟩
    refine ⟨h1, ?_⟩
    by_cases h : p.line = l'
    · exact Or.inr (h2 h).2
    · exact Or.inl h

/-! ### The order of ranges -/

section Ranges

variable {document : List (List Char)} {edit other next : TextEdit} {edits : List TextEdit}

private theorem precedes_trans (hlie : other.lies document = true) (h : edit.precedes other = true)
    (h' : other.precedes next = true) : edit.precedes next = true :=
  notAfter_trans (notAfter_trans h (lies_iff.1 hlie).2.2) h'

private theorem extent_eq_of_precedes (hlie : edit.lies document = true) (hlie' : other.lies document = true)
    (h : edit.precedes other = true) (h' : other.precedes edit = true) : edit.extent = other.extent := by
  obtain ⟨-, -, hle⟩ := lies_iff.1 hlie
  obtain ⟨-, -, hle'⟩ := lies_iff.1 hlie'
  rw [precedes, notAfter_iff] at h h'
  rw [notAfter_iff] at hle hle'
  rcases hx : edit.extent with ⟨⟨a, b⟩, ⟨c, d⟩⟩
  rcases hy : other.extent with ⟨⟨a', b'⟩, ⟨c', d'⟩⟩
  rw [hx] at h h' hle
  rw [hy] at h h' hle'
  simp only at h h' hle hle'
  simp only [Extent.mk.injEq, Position.mk.injEq]
  omega

/-- In a list from the end to the beginning of a document every edit is preceded by all later ones. -/
private theorem pairwise_of_descending (hlies : ∀ edit ∈ edits, edit.lies document = true)
    (hdesc : descending edits = true) : edits.Pairwise fun edit next => next.precedes edit = true := by
  induction edits with
  | nil => exact List.Pairwise.nil
  | cons edit rest ih =>
    obtain ⟨hdesc', hbefore⟩ := descending_cons hdesc
    have hrest := ih (fun next h => hlies next (List.mem_cons_of_mem _ h)) hdesc'
    refine List.pairwise_cons.2 ⟨?_, hrest⟩
    cases rest with
    | nil => simp
    | cons next rest =>
      have hnext : next.precedes edit = true := hbefore next rfl
      intro last hlast
      rcases List.mem_cons.1 hlast with rfl | hlast
      · exact hnext
      · exact precedes_trans (hlies next (by simp)) ((List.pairwise_cons.1 hrest).1 last hlast) hnext

private theorem descending_cons_of (hdesc : descending edits = true)
    (h : ∀ next ∈ edits.head?, next.precedes edit = true) : descending (edit :: edits) = true := by
  cases edits with
  | nil => rfl
  | cons next rest =>
    simp only [descending, Bool.and_eq_true]
    exact ⟨h next rfl, hdesc⟩

/-- Whether edits are scattered does not depend on their order. -/
private theorem Scattered.perm {edits' : List TextEdit} (h : Scattered document edits) (hperm : edits.Perm edits') :
    Scattered document edits' where
  lies := fun edit hedit => h.lies edit (hperm.mem_iff.2 hedit)
  apart := (hperm.pairwise_iff (fun {a b} hab => by simpa [TextEdit.apart, Bool.or_comm] using hab)).1 h.apart
  distinct := (hperm.pairwise_iff (fun {_ _} => Ne.symm)).1 h.distinct

end Ranges

/-! ### What earlier edits leave in place -/

/-- Edits that keep a position `q` leave every earlier position in its line, and those in the line of `q` where they
are. -/
theorem advance_splicedUpTo {text : List Char} {edits : List TextEdit}
    (hlies : ∀ edit ∈ edits, edit.lies (linesOf text) = true) (hdesc : descending edits = true)
    (hp : within (linesOf text) p = true) (hstop : ∀ edit ∈ edits.head?, notAfter edit.extent.stop p = true)
    (hpq : notAfter p q = true) (hkeeps : ∀ edit ∈ edits, edit.keeps q = true) :
    (advance ⟨0, 0⟩ (splicedUpTo text (offsetOf p text) edits)).line = p.line ∧
      (p.line = q.line → advance ⟨0, 0⟩ (splicedUpTo text (offsetOf p text) edits) = p) := by
  induction edits generalizing p with
  | nil =>
    have h := advance_take hp
    rw [splicedUpTo, h]
    exact ⟨rfl, fun _ => rfl⟩
  | cons edit rest ih =>
    obtain ⟨hstart, hend, hle⟩ := lies_iff.1 (hlies edit List.mem_cons_self)
    obtain ⟨hline, hsame⟩ := keeps_iff.1 (hkeeps edit List.mem_cons_self)
    have hep := hstop edit rfl
    have heq := notAfter_trans hep hpq
    have hsq := notAfter_trans hle heq
    obtain ⟨hdesc', hbefore⟩ := descending_cons hdesc
    have hrest := ih (fun next h => hlies next (List.mem_cons_of_mem _ h)) hdesc' hstart hbefore hsq
      (fun next h => hkeeps next (List.mem_cons_of_mem _ h))
    have hgap := advance_slice hend hp hep
    rw [splicedUpTo, advance_append, advance_append]
    generalize advance ⟨0, 0⟩ (splicedUpTo text (offsetOf edit.extent.start text) rest) = a at hrest ⊢
    generalize (text.take (offsetOf p text)).drop (offsetOf edit.extent.stop text) = gap at hgap ⊢
    obtain ⟨haline, ha⟩ := hrest
    have hb := advance_congr haline edit.newText.toList
    have hnew : advance edit.extent.start edit.newText.toList = edit.newStop := rfl
    rw [hnew, hline] at hb
    have hc := advance_congr hb.1 gap
    rw [hgap] at hc
    refine ⟨hc.1, fun hpl => ?_⟩
    rw [notAfter_iff] at hle heq hsq
    by_cases hq : q.line = edit.extent.stop.line
    · -- the new text ends where the range ended, since it was found at its place or begins a line of its own
      have hbq : advance a edit.newText.toList = edit.extent.stop := by
        by_cases hsl : edit.extent.start.line = q.line
        · rw [ha hsl, hnew, hsame hq]
        · rw [hb.2 (by omega), hsame hq]
      rw [hbq, hgap]
    · exact hc.2 (by rw [hc.1]; omega)

/-! ### One more edit -/

variable {n : Nat}

/-- A stretch of a text is made of the two parts of it. -/
private theorem slice_append_slice {k m : Nat} (hkm : k ≤ m) (hmn : m ≤ n) (text : List Char) :
    (text.take m).drop k ++ (text.take n).drop m = (text.take n).drop k := by
  have hdrop := List.take_append_drop (m - k) ((text.take n).drop k)
  rwa [← List.drop_take, List.take_take, Nat.min_eq_left hmn, List.drop_drop, Nat.add_sub_cancel' hkm] at hdrop

/-- Behind the last range the text is as it was. -/
private theorem splicedUpTo_append_slice {text : List Char} {edits : List TextEdit} {m : Nat} (h : m ≤ n)
    (hstop : ∀ edit ∈ edits.head?, offsetOf edit.extent.stop text ≤ m) :
    splicedUpTo text m edits ++ (text.take n).drop m = splicedUpTo text n edits := by
  cases edits with
  | nil => exact take_append_slice h text
  | cons edit rest =>
    simp only [splicedUpTo, List.append_assoc]
    rw [slice_append_slice (hstop edit rfl) h]

private theorem apply_splicedUpTo {text : List Char} {edits : List TextEdit} {edit : TextEdit}
    (hlies : ∀ other ∈ edits, other.lies (linesOf text) = true) (hlie : edit.lies (linesOf text) = true)
    (hdesc : descending edits = true) (hbefore : ∀ other ∈ edits.head?, other.precedes edit = true)
    (hkeeps : ∀ other ∈ edits, other.keeps edit.extent.start = true) (hn : offsetOf edit.extent.stop text ≤ n)
    (post : List Char) :
    edit.apply (linesOf (splicedUpTo text n edits ++ post)) =
      some (linesOf (splicedUpTo text n (edit :: edits) ++ post)) := by
  obtain ⟨hstart, hstop, hle⟩ := lies_iff.1 hlie
  have hab := offsetOf_le hstart hstop hle
  have hends : ∀ other ∈ edits.head?, offsetOf other.extent.stop text ≤ offsetOf edit.extent.start text := by
    intro other h
    exact offsetOf_le (lies_iff.1 (hlies other (List.mem_of_head? h))).2.1 hstart (hbefore other h)
  have hat : advance ⟨0, 0⟩ (splicedUpTo text (offsetOf edit.extent.start text) edits) = edit.extent.start :=
    (advance_splicedUpTo hlies hdesc hstart hbefore (notAfter_iff.2 (Or.inr ⟨rfl, Int.le_refl _⟩)) hkeeps).2 rfl
  have hreach : Reaches (splicedUpTo text (offsetOf edit.extent.start text) edits) edit.extent.start :=
    reaches_iff.2 hat
  have hreach' := hreach.append ((text.take (offsetOf edit.extent.stop text)).drop (offsetOf edit.extent.start text))
  rw [advance_slice hstart hstop hle] at hreach'
  have happly := apply_of_reaches hreach hreach' ((text.take n).drop (offsetOf edit.extent.stop text) ++ post)
  rw [List.append_assoc _ _ (_ ++ post), ← List.append_assoc _ _ post, slice_append_slice hab hn,
    ← List.append_assoc _ _ post, splicedUpTo_append_slice (Nat.le_trans hab hn) hends,
    ← List.append_assoc _ _ post] at happly
  exact happly

/-- An edit that is listed after others finds its place if those before it keep it, and takes its place among them. -/
private theorem exists_splicedUpTo_insert {text : List Char} {edits : List TextEdit} {edit : TextEdit}
    (hlies : ∀ other ∈ edits, other.lies (linesOf text) = true) (hlie : edit.lies (linesOf text) = true)
    (hdesc : descending edits = true) (hapart : ∀ other ∈ edits, other.apart edit = true)
    (hdistinct : ∀ other ∈ edits, other.extent ≠ edit.extent)
    (hkeeps : ∀ other ∈ edits, edit.precedes other = true ∨ other.keeps edit.extent.start = true)
    (hn : offsetOf edit.extent.stop text ≤ n) (post : List Char) :
    ∃ edits', edits'.Perm (edit :: edits) ∧ descending edits' = true ∧
      (∀ other ∈ edits'.head?, other = edit ∨ other ∈ edits.head?) ∧
      edit.apply (linesOf (splicedUpTo text n edits ++ post)) = some (linesOf (splicedUpTo text n edits' ++ post)) := by
  induction edits generalizing n post with
  | nil =>
    refine ⟨[edit], List.Perm.refl _, rfl, by simp, ?_⟩
    exact apply_splicedUpTo hlies hlie hdesc (by simp) (by simp) hn post
  | cons last rest ih =>
    obtain ⟨hdesc', hbefore⟩ := descending_cons hdesc
    have hlast := hlies last List.mem_cons_self
    by_cases hprec : last.precedes edit = true
    · -- all the others stand before the edit
      have hall : ∀ other ∈ last :: rest, other.precedes edit = true := by
        intro other h
        rcases List.mem_cons.1 h with rfl | h
        · exact hprec
        · exact precedes_trans hlast ((List.pairwise_cons.1 (pairwise_of_descending hlies hdesc)).1 other h) hprec
      have hkept : ∀ other ∈ last :: rest, other.keeps edit.extent.start = true := by
        intro other h
        refine (hkeeps other h).resolve_left fun hback => ?_
        exact hdistinct other h (extent_eq_of_precedes (hlies other h) hlie (hall other h) hback)
      refine ⟨edit :: last :: rest, List.Perm.refl _, ?_, by simp, ?_⟩
      · exact descending_cons_of hdesc (by simpa using hprec)
      · exact apply_splicedUpTo hlies hlie hdesc (by simpa using hprec) hkept hn post
    · have hafter : edit.precedes last = true := by
        have h := hapart last List.mem_cons_self
        simpa [apart, hprec] using h
      have hstop := offsetOf_le (lies_iff.1 hlie).2.1 (lies_iff.1 hlast).1 hafter
      obtain ⟨edits', hperm, hdesc'', hhead, happly⟩ :=
        ih (fun other h => hlies other (List.mem_cons_of_mem _ h)) hdesc'
        (fun other h => hapart other (List.mem_cons_of_mem _ h))
        (fun other h => hdistinct other (List.mem_cons_of_mem _ h))
        (fun other h => hkeeps other (List.mem_cons_of_mem _ h)) hstop
        (last.newText.toList ++ (text.take n).drop (offsetOf last.extent.stop text) ++ post)
      refine ⟨last :: edits', ?_, ?_, by simp, ?_⟩
      · exact (hperm.cons last).trans (List.Perm.swap edit last rest)
      · refine descending_cons_of hdesc'' fun other h => ?_
        rcases hhead other h with rfl | h
        · exact hafter
        · exact hbefore other h
      · simpa only [splicedUpTo, List.append_assoc] using happly

/-! ### All edits -/

/-- Edits of which none moves a later one replace all their ranges at once, as do the edits `done` before them. -/
private theorem exists_applyAll_eq {text : List Char} {done edits : List TextEdit}
    (hscattered : Scattered (linesOf text) (done ++ edits)) (hdesc : descending done = true) (hsteady : steady edits)
    (hkeeps : ∀ edit ∈ done, ∀ next ∈ edits, next.precedes edit = true ∨ edit.keeps next.extent.start = true) :
    ∃ edits', edits'.Perm (done ++ edits) ∧ descending edits' = true ∧
      applyAll edits (linesOf (splicedUpTo text text.length done)) =
        some (linesOf (splicedUpTo text text.length edits')) := by
  induction edits generalizing done with
  | nil => exact ⟨done, by simp, hdesc, rfl⟩
  | cons edit rest ih =>
    obtain ⟨hnext, hsteady'⟩ := List.pairwise_cons.1 hsteady
    have hlie := hscattered.lies edit (by simp)
    have hapart := (List.pairwise_append.1 hscattered.apart).2.2
    have hdistinct := (List.pairwise_append.1 hscattered.distinct).2.2
    obtain ⟨done', hperm, hdesc', -, happly⟩ := exists_splicedUpTo_insert
      (fun other h => hscattered.lies other (List.mem_append_left _ h)) hlie hdesc
      (fun other h => hapart other h edit List.mem_cons_self) (fun other h => hdistinct other h edit List.mem_cons_self)
      (fun other h => hkeeps other h edit List.mem_cons_self) (reaches_take_offsetOf (lies_iff.1 hlie).2.1).1 []
    have hperm' : (done ++ edit :: rest).Perm (done' ++ rest) :=
      List.perm_middle.trans ((hperm.symm.append_right rest))
    obtain ⟨edits', hall, hdesc'', hrest⟩ := ih (hscattered.perm hperm') hdesc' hsteady' (by
      intro other h next hmem
      rcases List.mem_cons.1 (hperm.mem_iff.1 h) with rfl | h
      · exact hnext next hmem
      · exact hkeeps other h next (List.mem_cons_of_mem _ hmem))
    refine ⟨edits', hall.trans hperm'.symm, hdesc'', ?_⟩
    simp only [List.append_nil] at happly
    rw [applyAll, List.foldlM_cons, happly]
    exact hrest

private theorem eq_of_descending {document : List (List Char)} {edits edits' : List TextEdit}
    (hscattered : Scattered document edits) (hperm : edits.Perm edits') (hdesc : descending edits = true)
    (hdesc' : descending edits' = true) : edits = edits' := by
  have hlies' := (hscattered.perm hperm).lies
  refine List.Perm.eq_of_pairwise ?_ (pairwise_of_descending hscattered.lies hdesc)
    (pairwise_of_descending hlies' hdesc') hperm
  intro edit other hedit hother h h'
  have hsymm : Std.Symm fun edit other : TextEdit => edit.extent ≠ other.extent := ⟨fun _ _ => Ne.symm⟩
  have hsame := extent_eq_of_precedes (hlies' other hother) (hscattered.lies edit hedit) h h'
  by_contra hne
  exact hscattered.distinct.forall hedit (hperm.mem_iff.2 hother) hne hsame.symm

/-- Edits of one document give the same text in every order in which none of them moves a later one. -/
theorem revise_eq_of_perm (source : String) (edits edits' : List TextEdit) (problems : List Problem) (path : String)
    (hscattered : Scattered (lines source) edits) (hperm : edits.Perm edits') (hsteady : steady edits)
    (hsteady' : steady edits') : revise source edits problems path = revise source edits' problems path := by
  have hone : ∀ order, edits.Perm order → steady order → ∃ listed, listed.Perm edits ∧ descending listed = true ∧
      applyAll order (lines source) = some (linesOf (splicedUpTo source.toList source.toList.length listed)) := by
    intro order hp hs
    have hscattered' : Scattered (linesOf source.toList) ([] ++ order) := hscattered.perm hp
    obtain ⟨listed, hl, hd, hall⟩ := exists_applyAll_eq hscattered' rfl hs (by simp)
    rw [splicedUpTo, List.take_length] at hall
    exact ⟨listed, hl.trans hp.symm, hd, hall⟩
  obtain ⟨listed, hl, hd, hall⟩ := hone edits (List.Perm.refl _) hsteady
  obtain ⟨listed', hl', hd', hall'⟩ := hone edits' hperm hsteady'
  have heq := eq_of_descending (hscattered.perm hl.symm) (hl.trans hl'.symm) hd hd'
  rw [revise, revise, hall, hall', heq]

def scatteredEdits : List TextEdit :=
  [⟨⟨⟨0, 0⟩, ⟨0, 1⟩⟩, "x"⟩, ⟨⟨⟨2, 1⟩, ⟨2, 1⟩⟩, "\ny\nz"⟩, ⟨⟨⟨0, 2⟩, ⟨1, 1⟩⟩, "-\n"⟩]

/-- Neither in this order nor in the reverse one are they listed from the end to the beginning, and still they give the
same text in both. -/
theorem revise_eq_of_perm_scattered :
    Scattered (lines "abc\ndef\ng") scatteredEdits ∧ steady scatteredEdits ∧ descending scatteredEdits = false ∧
    steady scatteredEdits.reverse ∧ descending scatteredEdits.reverse = false ∧
    (revise "abc\ndef\ng" scatteredEdits [] "q.sql").code = "xb-\nef\ng\ny\nz" ∧
    revise "abc\ndef\ng" scatteredEdits [] "q.sql" = revise "abc\ndef\ng" scatteredEdits.reverse [] "q.sql" := by
  have hscattered : Scattered (lines "abc\ndef\ng") scatteredEdits := ⟨by decide, by decide, by decide⟩
  have hsteady : steady scatteredEdits := by decide
  have hsteady' : steady scatteredEdits.reverse := by decide
  refine ⟨hscattered, hsteady, by decide, hsteady', by decide, by decide, ?_⟩
  exact revise_eq_of_perm _ _ _ _ _ hscattered (List.reverse_perm _).symm hsteady hsteady'

def movingEdits : List TextEdit := [⟨⟨⟨0, 0⟩, ⟨0, 1⟩⟩, "xx"⟩, ⟨⟨⟨0, 2⟩, ⟨0, 3⟩⟩, "y"⟩]

/-- In one order both ranges are replaced; in the other one the second edit meets another character. -/
theorem revise_ne_of_moved :
    Scattered (lines "abc") movingEdits ∧ movingEdits.Perm movingEdits.reverse ∧ ¬ steady movingEdits ∧
    (revise "abc" movingEdits [] "q.sql").code = "xxyc" ∧
      (revise "abc" movingEdits.reverse [] "q.sql").code = "xxby" := by
  refine ⟨⟨by decide, by decide, by decide⟩, (List.reverse_perm _).symm, by decide, by decide, by decide⟩

end TextEdit

end WarehouseMigration
