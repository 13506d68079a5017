import WarehouseMigration.Proofs.Text.Splitting
import WarehouseMigration.Transpile.TextEdit

/-!
# Text edits as splices

An edit works on the lines of a document, and its range is given by lines and characters.  Seen on the text, it
replaces what stands between two offsets.  Edits that are listed from the end of the document to its beginning do not
disturb each other, so that applying them one by one replaces all their ranges in the text at once
(`revise_eq_spliced`).

A position is reached by the text before it: `Reaches pre p` says that the last of the lines of `pre` has the number
and the length that make up `p`.  The lines of a longer text continue the last line (`linesOf_append`), which gives
the effect of one edit (`apply_of_reaches`).
-/

namespace WarehouseMigration

namespace TextEdit

/-! ### The specification -/

/-- The number of characters before the character `k` of the line `n`: a line begins behind its newline. -/
def offset : Nat → Nat → List Char → Nat
  | 0, k, _ => k
  | _ + 1, _, [] => 0
  | n + 1, k, c :: cs => 1 + if c = '\n' then offset n k cs else offset (n + 1) k cs

def offsetOf (p : Position) (text : List Char) : Nat := offset p.line.toNat p.character.toNat text

/-- The first `n` characters of a text, with the ranges of the edits replaced.  The edits are listed from the end to
the beginning, and all ranges are those of the text as it is given. -/
def splicedUpTo (text : List Char) (n : Nat) : List TextEdit → List Char
  | [] => text.take n
  | edit :: rest =>
    splicedUpTo text (offsetOf edit.extent.start text) rest ++ edit.newText.toList ++
      (text.take n).drop (offsetOf edit.extent.stop text)

def spliced (source : String) (edits : List TextEdit) : String :=
  String.ofList (splicedUpTo source.toList source.toList.length edits)

/-- Whether a position stands in a document: its line is there and has that many characters at least. -/
def within (document : List (List Char)) (p : Position) : Bool :=
  0 ≤ p.line && 0 ≤ p.character && (document[p.line.toNat]?).any fun line => p.character ≤ line.length

def notAfter (p q : Position) : Bool := p.line < q.line || (p.line == q.line && p.character ≤ q.character)

def lies (document : List (List Char)) (edit : TextEdit) : Bool :=
  within document edit.extent.start && within document edit.extent.stop &&
    notAfter edit.extent.start edit.extent.stop

/-- Whether edits are listed from the end of the document to its beginning. -/
def descending : List TextEdit → Bool
  | previous :: next :: rest => notAfter next.extent.stop previous.extent.start && descending (next :: rest)
  | _ => true

/-! ### Lines -/

def linesOf (cs : List Char) : List (List Char) := Text.splitFrom ['\n'] 0 [] cs

private theorem prepend_prepend (a b : List Char) (ls : List (List Char)) :
    prepend a (prepend b ls) = prepend (a ++ b) ls := by
  cases ls <;> simp [prepend]

@[simp] private theorem prepend_nil (ls : List (List Char)) : prepend [] ls = ls := by
  cases ls <;> simp [prepend]

private theorem splitFrom_eq_prepend (piece cs : List Char) :
    Text.splitFrom ['\n'] 0 piece cs = prepend piece.reverse (linesOf cs) := by
  induction cs generalizing piece with
  | nil => simp [linesOf, Text.splitFrom, prepend]
  | cons c cs ih =>
    by_cases h : c = '\n'
    · simp [linesOf, Text.splitFrom, prepend, List.isPrefixOf, h]
    · rw [linesOf, Text.splitFrom_cons h, Text.splitFrom_cons h, ih, ih, prepend_prepend]
      simp

theorem linesOf_nil : linesOf [] = [[]] := rfl

variable (cs : List Char)

theorem linesOf_newline : linesOf ('\n' :: cs) = [] :: linesOf cs := by
  simp [linesOf, Text.splitFrom, List.isPrefixOf]

variable {c : Char}

theorem linesOf_cons (h : c ≠ '\n') (cs : List Char) : linesOf (c :: cs) = prepend [c] (linesOf cs) := by
  rw [linesOf, Text.splitFrom_cons h]
  exact splitFrom_eq_prepend [c] cs

theorem linesOf_ne_nil : linesOf cs ≠ [] := by
  induction cs with
  | nil => simp [linesOf_nil]
  | cons c cs ih =>
    by_cases h : c = '\n'
    · simp [h, linesOf_newline]
    · rw [linesOf_cons h]
      cases hl : linesOf cs with
      | nil => exact absurd hl ih
      | cons l ls => simp [prepend]

theorem exists_linesOf_eq : ∃ init last, linesOf cs = init ++ [last] :=
  ⟨_, _, (List.dropLast_concat_getLast (linesOf_ne_nil cs)).symm⟩

private theorem concat_inj (init : List (List Char)) {init' : List (List Char)} {last last' : List Char}
    (h : init ++ [last] = init' ++ [last']) : init = init' ∧ last = last' := by
  simpa using h

/-- The lines of a text continue the last line of what stands before it. -/
theorem linesOf_append {pre last : List Char} {init : List (List Char)} (h : linesOf pre = init ++ [last])
    (cs : List Char) : linesOf (pre ++ cs) = init ++ prepend last (linesOf cs) := by
  induction pre generalizing init last with
  | nil =>
    obtain ⟨rfl, rfl⟩ := concat_inj [] h
    simp
  | cons c pre ih =>
    obtain ⟨init', last', h'⟩ := exists_linesOf_eq pre
    rw [List.cons_append]
    by_cases hc : c = '\n'
    · subst hc
      rw [linesOf_newline, h', ← List.cons_append] at h
      obtain ⟨rfl, rfl⟩ := concat_inj _ h
      rw [linesOf_newline, ih h', List.cons_append]
    · rw [linesOf_cons hc, ih h']
      rw [linesOf_cons hc, h'] at h
      cases init' with
      | nil =>
        obtain ⟨rfl, rfl⟩ := concat_inj [] h
        exact prepend_prepend [c] last' _
      | cons l ls =>
        obtain ⟨rfl, rfl⟩ := concat_inj ((c :: l) :: ls) h
        rfl

/-- A text is made of its lines. -/
theorem unlines_linesOf : unlines (linesOf cs) = String.ofList cs := by
  unfold unlines
  congr 1
  induction cs with
  | nil => rfl
  | cons c cs ih =>
    obtain ⟨l, ls, hl⟩ := List.exists_cons_of_ne_nil (linesOf_ne_nil cs)
    rw [hl] at ih
    by_cases h : c = '\n'
    · subst h
      rw [linesOf_newline, hl, ← ih]
      simp [List.intercalate]
    · rw [linesOf_cons h, hl, ← ih]
      cases ls <;> simp [prepend, List.intercalate]

/-! ### One edit -/

/-- The text `pre` leads up to the position `p`. -/
def Reaches (pre : List Char) (p : Position) : Prop :=
  ∃ init last, linesOf pre = init ++ [last] ∧ p = ⟨init.length, last.length⟩

private theorem append_nil (ls : List (List Char)) : append [] ls = ls := by
  induction ls with
  | nil => rfl
  | cons l ls ih => cases ls <;> simp_all [append]

private theorem append_concat (text last : List Char) (init : List (List Char)) :
    append text (init ++ [last]) = init ++ [last ++ text] := by
  induction init with
  | nil => rfl
  | cons l ls ih => cases ls <;> simp_all [append]

variable (xs : List α)

private theorem offset_natCast (n : Nat) : Sequence.offset xs n = min n xs.length := by
  have h : ¬ (n : Int) < 0 := by omega
  simp [Sequence.offset, h]

private theorem at?_natCast (n : Nat) : Sequence.at? xs n = xs[n]? := by
  have h : ¬ (n : Int) < 0 := by omega
  simp [Sequence.at?, h]

private theorem before_natCast (n : Nat) : Sequence.before xs n = xs.take n := by
  simp [Sequence.before, offset_natCast]

private theorem since_natCast (n : Nat) : Sequence.since xs n = xs.drop n := by
  rw [Sequence.since, offset_natCast]
  rcases Nat.le_total n xs.length with h | h
  · rw [Nat.min_eq_left h]
  · rw [Nat.min_eq_right h, List.drop_length, List.drop_eq_nil_of_le h]

section

variable {edit : TextEdit} {document : List (List Char)} {first last : List Char} {m j n k : Nat}
  (hfirst : document[m]? = some first) (hlast : document[n]? = some last)
  (hstart : edit.extent.start = ⟨m, j⟩) (hstop : edit.extent.stop = ⟨n, k⟩)

include hfirst hlast hstart hstop

/-- The new lines begin with what is kept of the line at the start and end with what is kept of that at the end. -/
private theorem withEdges_eq : edit.withEdges document =
    some (append (last.drop k) (prepend (first.take j) (linesOf edit.newText.toList))) := by
  have hlines : lines edit.newText = linesOf edit.newText.toList := rfl
  unfold withEdges
  rw [hstart, hstop]
  simp only [at?_natCast, hfirst, hlast, hlines, before_natCast, since_natCast, Option.bind_eq_bind, Option.bind_some]
  -- nothing is put before or behind the new lines where nothing is kept of a line, which makes no difference
  rcases Nat.lt_or_ge k last.length with hk | hk
  · have hle : ¬ (last.length : Int) ≤ k := by omega
    have hlt : (k : Int) < last.length := by omega
    cases j <;> simp [hle, hlt]
  · have hdrop : last.drop k = [] := List.drop_eq_nil_of_le hk
    have hle : (last.length : Int) ≤ k := by omega
    have hlt : ¬ (k : Int) < last.length := by omega
    cases j <;> simp [hdrop, hle, hlt, append_nil]

/-- An edit that ends in a line of the document keeps the lines before its start and those behind its end. -/
theorem apply_eq : edit.apply document = some (document.take m ++
    append (last.drop k) (prepend (first.take j) (linesOf edit.newText.toList)) ++ document.drop (n + 1)) := by
  obtain ⟨hn, -⟩ := List.getElem?_eq_some_iff.1 hlast
  have hcovers : edit.coversDocument document = false := by
    have hle : ¬ (document.length : Int) ≤ edit.extent.stop.line := by
      rw [hstop]
      exact Int.not_le.2 (Int.ofNat_lt.2 hn)
    simp only [coversDocument, hle, decide_false, Bool.and_false, Bool.false_and]
  have hkept : (if edit.extent.start.line ≤ 0 then [] else Sequence.before document edit.extent.start.line) =
      document.take m := by
    rw [hstart, before_natCast]
    cases m with
    | zero => rfl
    | succ m => rw [if_neg (by change ¬ ((m + 1 : Nat) : Int) ≤ 0; omega)]
  have hrest : (if edit.extent.stop.line < (document.length : Int) - 1 then
      Sequence.since document (edit.extent.stop.line + 1) else []) = document.drop (n + 1) := by
    rw [hstop]
    have hsince := since_natCast document (n + 1)
    rw [Int.natCast_add, Int.cast_ofNat_Int] at hsince
    rw [hsince]
    split
    case isTrue => rfl
    case isFalse hlt =>
      change ¬ (n : Int) < document.length - 1 at hlt
      rw [List.drop_eq_nil_of_le (by omega)]
  unfold apply
  rw [hcovers, withEdges_eq hfirst hlast hstart hstop]
  simp only [Bool.false_eq_true, if_false, Option.bind_eq_bind, Option.bind_some, hkept, hrest]
  rfl

end

variable {post : List Char}

/-- The new lines go on into the next line of the rest of the text. -/
private theorem append_prepend_linesOf {new first last : List Char} {rest : List (List Char)}
    (h : linesOf post = last :: rest) :
    append last (prepend first (linesOf new)) ++ rest = prepend first (linesOf (new ++ post)) := by
  obtain ⟨init, final, hnew⟩ := exists_linesOf_eq new
  rw [linesOf_append hnew, hnew, h, prepend]
  cases init with
  | nil => simp [prepend, append]
  | cons l ls =>
    have happend := append_concat last final ((first ++ l) :: ls)
    simp only [List.cons_append] at happend
    simp [prepend, happend]

/-- A text leads up to a position in its last line, whatever follows it. -/
private theorem Reaches.line {pre : List Char} {m j : Nat} (h : Reaches pre ⟨m, j⟩) {last : List Char}
    {rest : List (List Char)} (hpost : linesOf post = last :: rest) :
    ∃ init first, linesOf pre = init ++ [first] ∧ first.length = j ∧ init = (linesOf (pre ++ post)).take m ∧
      (linesOf (pre ++ post))[m]? = some (first ++ last) ∧ rest = (linesOf (pre ++ post)).drop (m + 1) := by
  obtain ⟨init, first, hpre, hposition⟩ := h
  obtain ⟨hline, hcharacter⟩ := Position.mk.inj hposition
  obtain rfl : m = init.length := Int.ofNat_inj.1 hline
  refine ⟨init, first, hpre, (Int.ofNat_inj.1 hcharacter).symm, ?_⟩
  rw [linesOf_append hpre, hpost, prepend]
  simp

/-- Between the texts that lead up to two positions and what follows the second one, any text may stand. -/
theorem linesOf_between {text pre more upto first last : List Char} {m j n k : Nat} (hpre : text = pre ++ more)
    (hupto : text = upto ++ post) (hstart : Reaches pre ⟨m, j⟩) (hstop : Reaches upto ⟨n, k⟩)
    (hfirst : (linesOf text)[m]? = some first) (hlast : (linesOf text)[n]? = some last) (new : List Char) :
    linesOf (pre ++ new ++ post) = (linesOf text).take m ++
      append (last.drop k) (prepend (first.take j) (linesOf new)) ++ (linesOf text).drop (n + 1) := by
  obtain ⟨more', rest, hmore⟩ := List.exists_cons_of_ne_nil (linesOf_ne_nil more)
  obtain ⟨post', rest', hpost⟩ := List.exists_cons_of_ne_nil (linesOf_ne_nil post)
  obtain ⟨init, kept, hlines, hj, hinit, hline, -⟩ := hstart.line hmore
  obtain ⟨-, gone, -, hk, -, hline', hrest⟩ := hstop.line hpost
  rw [← hpre] at hinit hline
  rw [← hupto] at hline' hrest
  obtain rfl : first = kept ++ more' := Option.some.inj (hfirst.symm.trans hline)
  obtain rfl : last = gone ++ post' := Option.some.inj (hlast.symm.trans hline')
  subst hj hk
  rw [List.take_left, List.drop_left, ← hinit, ← hrest, List.append_assoc init, append_prepend_linesOf hpost,
    List.append_assoc, linesOf_append hlines]

/-- Where two texts lead up to its ends, an edit replaces what stands between them. -/
theorem apply_of_reaches {edit : TextEdit} {pre mid : List Char} (hstart : Reaches pre edit.extent.start)
    (hstop : Reaches (pre ++ mid) edit.extent.stop) (post : List Char) :
    edit.apply (linesOf (pre ++ mid ++ post)) = some (linesOf (pre ++ edit.newText.toList ++ post)) := by
  obtain ⟨_, _, hrest⟩ := List.exists_cons_of_ne_nil (linesOf_ne_nil (mid ++ post))
  obtain ⟨_, _, hrest'⟩ := List.exists_cons_of_ne_nil (linesOf_ne_nil post)
  obtain ⟨_, _, -, hs⟩ := id hstart
  obtain ⟨_, _, -, ht⟩ := id hstop
  rw [hs] at hstart
  rw [ht] at hstop
  obtain ⟨_, _, -, -, -, hfirst, -⟩ := hstart.line hrest
  obtain ⟨_, _, -, -, -, hlast, -⟩ := hstop.line hrest'
  rw [← List.append_assoc] at hfirst
  rw [apply_eq hfirst hlast hs ht]
  exact congrArg some (linesOf_between (List.append_assoc ..) rfl hstart hstop hfirst hlast _).symm

/-! ### Offsets -/

theorem reaches_nil : Reaches [] ⟨0, 0⟩ := ⟨[], [], rfl, rfl⟩

namespace Reaches

variable {pre : List Char} {n k : Nat}

private theorem newline (h : Reaches pre ⟨n, k⟩) : Reaches ('\n' :: pre) ⟨(n + 1 : Nat), k⟩ := by
  obtain ⟨init, last, hlines, hp⟩ := h
  refine ⟨[] :: init, last, ?_, ?_⟩
  · rw [linesOf_newline, hlines, List.cons_append]
  · simp_all

/-- In the first line, one more character is one step. -/
private theorem cons_first (hc : c ≠ '\n') (h : Reaches pre ⟨0, k⟩) : Reaches (c :: pre) ⟨0, (k + 1 : Nat)⟩ := by
  obtain ⟨init, last, hlines, hp⟩ := h
  have hinit : init = [] := by simpa using (congrArg Position.line hp).symm
  subst hinit
  refine ⟨[], c :: last, ?_, ?_⟩
  · rw [linesOf_cons hc, hlines]
    rfl
  · simp_all

/-- In a later line, characters of the first line do not count. -/
private theorem cons_later (hc : c ≠ '\n') (h : Reaches pre ⟨(n + 1 : Nat), k⟩) : Reaches (c :: pre)
    ⟨(n + 1 : Nat), k⟩ := by
  obtain ⟨init, last, hlines, hp⟩ := h
  cases init with
  | nil => simp at hp; omega
  | cons l ls =>
    refine ⟨(c :: l) :: ls, last, ?_, ?_⟩
    · rw [linesOf_cons hc, hlines]
      rfl
    · simpa using hp

end Reaches

private theorem getElem?_prepend_succ (a : List Char) (ls : List (List Char)) (n : Nat) :
    (prepend a ls)[n + 1]? = ls[n + 1]? := by
  cases ls <;> simp [prepend]

/-- A first line of `k` characters at least begins with the first `k` characters of the text. -/
private theorem reaches_take {cs line : List Char} {k : Nat} (h : (linesOf cs)[0]? = some line)
    (hk : k ≤ line.length) : k ≤ cs.length ∧ Reaches (cs.take k) ⟨0, k⟩ := by
  induction cs generalizing k line with
  | nil =>
    obtain rfl : [] = line := by simpa [linesOf_nil] using h
    obtain rfl : k = 0 := by simpa using hk
    exact ⟨Nat.le_refl _, reaches_nil⟩
  | cons c cs ih =>
    by_cases hc : c = '\n'
    · obtain rfl : [] = line := by simpa [hc, linesOf_newline] using h
      obtain rfl : k = 0 := by simpa using hk
      exact ⟨Nat.zero_le _, reaches_nil⟩
    · obtain ⟨l, ls, hl⟩ := List.exists_cons_of_ne_nil (linesOf_ne_nil cs)
      obtain rfl : c :: l = line := by simpa [linesOf_cons hc, hl, prepend] using h
      cases k with
      | zero => exact ⟨Nat.zero_le _, reaches_nil⟩
      | succ k =>
        obtain ⟨hlen, hreach⟩ := ih (by rw [hl]; rfl) (Nat.le_of_succ_le_succ hk)
        exact ⟨Nat.succ_le_succ hlen, hreach.cons_first hc⟩

/-- The characters before the offset of a position lead up to it. -/
theorem reaches_take_offset {cs line : List Char} {n k : Nat} (h : (linesOf cs)[n]? = some line)
    (hk : k ≤ line.length) : offset n k cs ≤ cs.length ∧ Reaches (cs.take (offset n k cs)) ⟨n, k⟩ := by
  induction cs generalizing n with
  | nil =>
    cases n with
    | zero => exact reaches_take h hk
    | succ n => simp [linesOf_nil] at h
  | cons c cs ih =>
    cases n with
    | zero => exact reaches_take h hk
    | succ n =>
      rw [offset, Nat.add_comm 1, List.take_succ_cons, List.length_cons]
      by_cases hc : c = '\n'
      · subst hc
        rw [linesOf_newline, List.getElem?_cons_succ] at h
        obtain ⟨hlen, hreach⟩ := ih h
        rw [if_pos rfl]
        exact ⟨Nat.succ_le_succ hlen, hreach.newline⟩
      · rw [linesOf_cons hc, getElem?_prepend_succ] at h
        obtain ⟨hlen, hreach⟩ := ih h
        rw [if_neg hc]
        exact ⟨Nat.succ_le_succ hlen, hreach.cons_later hc⟩

variable {p : Position}

/-- A longer text leads up to a later position. -/
private theorem Reaches.notAfter_append {pre more : List Char} {q : Position} (hp : Reaches pre p)
    (hq : Reaches (pre ++ more) q) (hmore : more ≠ []) : notAfter q p = false := by
  obtain ⟨init, last, hpre, rfl⟩ := hp
  obtain ⟨init', last', hlong, rfl⟩ := hq
  obtain ⟨mid, final, hlines⟩ := exists_linesOf_eq more
  rw [linesOf_append hpre, hlines] at hlong
  cases mid with
  | nil =>
    -- the longer text ends in the same line
    obtain ⟨rfl, rfl⟩ := concat_inj _ hlong
    have hfinal : final ≠ [] := by
      rintro rfl
      have hempty := unlines_linesOf more
      rw [hlines] at hempty
      exact hmore (String.ofList_inj.1 hempty).symm
    have hpos := List.length_pos_iff.2 hfinal
    simp [notAfter]
    omega
  | cons l ls =>
    obtain ⟨rfl, rfl⟩ := concat_inj (init ++ (last ++ l) :: ls) (by simpa [prepend] using hlong)
    simp [notAfter]
    omega

private theorem exists_of_within {document : List (List Char)} (h : within document p = true) :
    ∃ (n k : Nat) (line : List Char), p = ⟨n, k⟩ ∧ document[n]? = some line ∧ k ≤ line.length := by
  simp only [within, Bool.and_eq_true, decide_eq_true_eq] at h
  obtain ⟨⟨hline, hcharacter⟩, hany⟩ := h
  obtain ⟨l, k⟩ := p
  obtain ⟨n, rfl⟩ := Int.eq_ofNat_of_zero_le hline
  obtain ⟨k, rfl⟩ := Int.eq_ofNat_of_zero_le hcharacter
  cases hsome : document[n]? with
  | none => simp [hsome] at hany
  | some line =>
    refine ⟨n, k, line, rfl, hsome, ?_⟩
    simpa [hsome] using hany

theorem reaches_take_offsetOf {text : List Char} (h : within (linesOf text) p = true) :
    offsetOf p text ≤ text.length ∧ Reaches (text.take (offsetOf p text)) p := by
  obtain ⟨n, k, line, rfl, hline, hk⟩ := exists_of_within h
  exact reaches_take_offset hline hk

theorem take_append_slice {m n : Nat} (h : m ≤ n) (text : List Char) :
    text.take m ++ (text.take n).drop m = text.take n := by
  have hslice := List.take_append_drop m (text.take n)
  rwa [List.take_take, Nat.min_eq_left h] at hslice

theorem offsetOf_le {text : List Char} {q : Position} (hp : within (linesOf text) p = true)
    (hq : within (linesOf text) q = true) (h : notAfter p q = true) : offsetOf p text ≤ offsetOf q text := by
  obtain ⟨hlen, hreach⟩ := reaches_take_offsetOf hp
  obtain ⟨-, hreach'⟩ := reaches_take_offsetOf hq
  apply Nat.le_of_not_lt
  intro hlt
  rw [← take_append_slice (Nat.le_of_lt hlt)] at hreach
  have hmore : (text.take (offsetOf p text)).drop (offsetOf q text) ≠ [] := by
    apply List.ne_nil_of_length_pos
    simp
    omega
  rw [hreach'.notAfter_append hreach hmore] at h
  cases h

/-! ### All edits -/

theorem descending_cons {edit : TextEdit} {rest : List TextEdit} (h : descending (edit :: rest) = true) :
    descending rest = true ∧ ∀ next ∈ rest.head?, notAfter next.extent.stop edit.extent.start = true := by
  cases rest with
  | nil => exact ⟨rfl, by simp⟩
  | cons next rest =>
    simp only [descending, Bool.and_eq_true] at h
    exact ⟨h.2, by simpa using h.1⟩

/-- The end of the first edit is not behind the first `n` characters, so that these are not touched by what was done
behind them. -/
private theorem applyAll_eq {text : List Char} {edits : List TextEdit} {n : Nat}
    (hlies : ∀ edit ∈ edits, edit.lies (linesOf text) = true) (hdesc : descending edits = true)
    (hn : ∀ edit ∈ edits.head?, offsetOf edit.extent.stop text ≤ n) (post : List Char) :
    applyAll edits (linesOf (text.take n ++ post)) = some (linesOf (splicedUpTo text n edits ++ post)) := by
  induction edits generalizing n post with
  | nil => rfl
  | cons edit rest ih =>
    have hedit := hlies edit List.mem_cons_self
    simp only [lies, Bool.and_eq_true] at hedit
    obtain ⟨⟨hstart, hstop⟩, hle⟩ := hedit
    have hab := offsetOf_le hstart hstop hle
    have hbn := hn edit rfl
    obtain ⟨hdesc', hbefore⟩ := descending_cons hdesc
    have hlies' : ∀ next ∈ rest, next.lies (linesOf text) = true :=
      fun next h => hlies next (List.mem_cons_of_mem _ h)
    have hnext : ∀ next ∈ rest.head?, offsetOf next.extent.stop text ≤ offsetOf edit.extent.start text := by
      intro next h
      have hlie := hlies' next (List.mem_of_head? h)
      simp only [lies, Bool.and_eq_true] at hlie
      exact offsetOf_le hlie.1.2 hstart (hbefore next h)
    -- the first `n` characters stand before the range, in it, or behind it
    have hreach := (reaches_take_offsetOf hstop).2
    rw [← take_append_slice hab] at hreach
    have happly := apply_of_reaches (reaches_take_offsetOf hstart).2 hreach
      ((text.take n).drop (offsetOf edit.extent.stop text) ++ post)
    rw [take_append_slice hab, ← List.append_assoc, take_append_slice hbn] at happly
    have hrest := ih hlies' hdesc' hnext
      (edit.newText.toList ++ ((text.take n).drop (offsetOf edit.extent.stop text) ++ post))
    simp only [← List.append_assoc] at happly hrest
    rw [applyAll, List.foldlM_cons, happly]
    exact hrest

/-- Edits whose ranges lie in the document and that are listed from its end to its beginning replace all their ranges
at once. -/
theorem revise_eq_spliced (source : String) (edits : List TextEdit) (problems : List Problem) (path : String)
    (hlies : ∀ edit ∈ edits, edit.lies (lines source) = true) (hdesc : descending edits = true) :
    revise source edits problems path = ⟨spliced source edits, 1, problems⟩ := by
  have hall := applyAll_eq (n := source.toList.length) hlies hdesc ?_ []
  · rw [List.take_length, List.append_nil, List.append_nil] at hall
    unfold revise
    rw [show lines source = linesOf source.toList from rfl, hall, spliced, ← unlines_linesOf]
  · intro edit h
    have hlie := hlies edit (List.mem_of_head? h)
    simp only [lies, Bool.and_eq_true] at hlie
    exact (reaches_take_offsetOf hlie.1.2).1

def touching : List TextEdit := [⟨⟨⟨1, 1⟩, ⟨2, 0⟩⟩, "x\ny\nz"⟩, ⟨⟨⟨0, 2⟩, ⟨1, 1⟩⟩, "-"⟩]

theorem revise_eq_spliced_touching :
    (∀ edit ∈ touching, edit.lies (lines "ab\ncde\nf") = true) ∧ descending touching = true ∧
    spliced "ab\ncde\nf" touching = "ab-x\ny\nzf" ∧
    revise "ab\ncde\nf" touching [] "q.sql" = ⟨spliced "ab\ncde\nf" touching, 1, []⟩ := by
  have hlies : ∀ edit ∈ touching, edit.lies (lines "ab\ncde\nf") = true := by decide
  have hdesc : descending touching = true := by decide
  exact ⟨hlies, hdesc, by decide, revise_eq_spliced _ _ _ _ hlies hdesc⟩

end TextEdit

end WarehouseMigration
