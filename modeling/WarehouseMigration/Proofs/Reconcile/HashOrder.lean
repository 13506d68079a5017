import WarehouseMigration.Proofs.Identifier.Spelling
import WarehouseMigration.Proofs.Sequence.Sorted
import WarehouseMigration.Reconcile.Query

/-!
# The order of columns in the hash of a row

The columns of a row are hashed in the order of their spellings, on each side with the marks of its own database.
The marks take part in the comparison where one name begins another: the closing mark of the shorter name meets the
next character of the longer one.  So both sides agree on the order of some columns exactly when no name among them
begins another whose next character lies between the two closing marks (`sortedBy_columnName_eq_iff`,
`hashSequence_eq_iff`).

The proof compares any two names at the first place where they part (`parting`), and two sorted lists by the pairs
of their items (`Sequence.sortedBy_eq_sortedBy_iff`).
-/

namespace WarehouseMigration

/-! ### Sorted lists -/

namespace Sequence

variable {α : Type} {f g : α → String} {xs ys : List α}

/-- Two keys that tell the items apart give the same order exactly when they compare every two items alike. -/
theorem sortedBy_eq_sortedBy_iff (hperm : ys.Perm xs) (hf : ∀ a ∈ xs, ∀ b ∈ xs, f a = f b → a = b)
    (hg : ∀ a ∈ xs, ∀ b ∈ xs, g a = g b → a = b) :
    sortedBy f xs = sortedBy g ys ↔ ∀ a ∈ xs, ∀ b ∈ xs, (f a < f b ↔ g a < g b) := by
  have hmf : ∀ a, a ∈ sortedBy f xs ↔ a ∈ xs := fun a => (sortedBy_perm f xs).mem_iff
  have hmg : ∀ a, a ∈ sortedBy g ys ↔ a ∈ xs := fun a => ((sortedBy_perm g ys).trans hperm).mem_iff
  constructor
  · intro h
    let R := fun a b : α => (f a < f b ↔ g a < g b) ∧ (f b < f a ↔ g b < g a)
    have hsymm : Std.Symm R := ⟨fun _ _ hab => ⟨hab.2, hab.1⟩⟩
    -- whichever of two items comes first in the common order is the smaller one for both keys
    have hp : (sortedBy f xs).Pairwise R := by
      have hboth := (sortedBy_pairwise f xs).and (h ▸ sortedBy_pairwise g ys)
      refine hboth.imp_of_mem ?_
      rintro a b ha hb ⟨h1, h2⟩
      rw [hmf] at ha hb
      have hlt : f a < f b ↔ g a < g b := by
        rw [lt_iff_le_and_ne, lt_iff_le_and_ne]
        constructor
        · rintro ⟨-, hne⟩
          exact ⟨h2, fun e => hne (by rw [hg a ha b hb e])⟩
        · rintro ⟨-, hne⟩
          exact ⟨h1, fun e => hne (by rw [hf a ha b hb e])⟩
      exact ⟨hlt, iff_of_false (not_lt.2 h1) (not_lt.2 h2)⟩
    intro a ha b hb
    exact (hp.forall_of_forall (fun x _ => ⟨iff_of_false (lt_irrefl _) (lt_irrefl _),
      iff_of_false (lt_irrefl _) (lt_irrefl _)⟩) ((hmf a).2 ha) ((hmf b).2 hb)).1
  · intro h
    have hsame : (sortedBy g ys).Pairwise fun a b => f a ≤ f b := by
      refine (sortedBy_pairwise g ys).imp_of_mem ?_
      intro a b ha hb hab
      rw [← not_lt, h b ((hmg b).1 hb) a ((hmg a).1 ha), not_lt]
      exact hab
    refine List.Perm.eq_of_pairwise ?_ (sortedBy_pairwise f xs) hsame
      ((sortedBy_perm f xs).trans (hperm.symm.trans (sortedBy_perm g ys).symm))
    intro a b ha hb h1 h2
    exact hf a ((hmf a).1 ha) b ((hmg b).1 hb) (le_antisymm h1 h2)

end Sequence

/-! ### Names with marks -/

/-- Two different texts part at a character, or one of them begins the other. -/
private theorem parting (s t : List Char) (h : s ≠ t) :
    (∃ p x y r r', x ≠ y ∧ s = p ++ x :: r ∧ t = p ++ y :: r') ∨ (∃ c r, t = s ++ c :: r) ∨
      ∃ c r, s = t ++ c :: r := by
  induction s generalizing t with
  | nil =>
    cases t with
    | nil => exact absurd rfl h
    | cons y t => exact Or.inr (Or.inl ⟨y, t, rfl⟩)
  | cons x s ih =>
    cases t with
    | nil => exact Or.inr (Or.inr ⟨x, s, rfl⟩)
    | cons y t =>
      by_cases hxy : x = y
      · subst hxy
        rcases ih t (fun e => h (by rw [e])) with ⟨p, u, v, r, r', huv, rfl, rfl⟩ | ⟨c, r, rfl⟩ | ⟨c, r, rfl⟩
        · exact Or.inl ⟨x :: p, u, v, r, r', huv, rfl, rfl⟩
        · exact Or.inr (Or.inl ⟨c, r, rfl⟩)
        · exact Or.inr (Or.inr ⟨c, r, rfl⟩)
      · exact Or.inl ⟨[], x, y, s, t, hxy, rfl, rfl⟩

/-- Texts that begin alike are ordered by what follows. -/
private theorem lex_append_left_iff (p s t : List Char) :
    List.Lex (· < ·) (p ++ s) (p ++ t) ↔ List.Lex (· < ·) s t := by
  induction p with
  | nil => rfl
  | cons c p ih =>
    rw [List.cons_append, List.cons_append, ← ih, List.cons_lex_cons_iff]
    simp

private theorem lex_cons_of_ne {x y : Char} (h : x ≠ y) (s t : List Char) :
    List.Lex (· < ·) (x :: s) (y :: t) ↔ x < y := by
  rw [List.cons_lex_cons_iff]
  simp [h]

namespace Connector

open Reconcile.Table (columnName)
open Text (halved IsLower)

/-- A name that means the same in every database: in lower case, without white space around it and without marks. -/
structure PlainName (s : String) : Prop where
  nonempty : s ≠ ""
  lower : Text.lower s = s
  trimmed : Text.strip s = s
  unmarked : ∀ c ∈ s.toList, c ∉ ['\x60', '"', '[', ']']

def queryMarks : Connector → Delimiters
  | databricks => .ansi
  | tsql => ⟨['['], [']']⟩
  | snowflake | oracle | memory => ⟨[], []⟩

/-- Whether a name stands in a query before every longer one that goes on with a character. -/
def standsBefore (connector : Connector) (c : Char) : Bool :=
  match connector.queryMarks.closing with
  | [] => true
  | z :: _ => z < c

namespace PlainName

variable {s t : String}

private theorem toList_ne_nil (h : PlainName s) : s.toList ≠ [] := by
  simpa using h.nonempty

private theorem not_surround {m : Char} (h : PlainName s) (hm : m ∈ ['\x60', '"', '[', ']']) (z : Char) :
    Delimiters.surround ⟨[m], [z]⟩ s.toList = false := by
  rw [← Bool.not_eq_true, Delimiters.surround_iff]
  rintro ⟨h1, -⟩
  exact h.unmarked m (List.mem_of_mem_head? h1) hm

private theorem prepared (h : PlainName s) : Text.lowerChars (Text.trim s.toList) = s.toList := by
  rw [Text.strip_eq_self_iff.1 h.trimmed, Text.lowerChars_eq_self_iff.2 (Text.lower_eq_self_iff.1 h.lower)]

private theorem not_mem (h : PlainName s) {m : Char} (hm : m ∈ ['\x60', '"', '[', ']']) : m ∉ s.toList :=
  fun hc => h.unmarked m hc hm

/-- Between marks, a plain name is spelled with nothing doubled. -/
private theorem source_eq (h : PlainName s) {a z : Char} (ha : a ∈ ['\x60', '"', '[', ']'])
    (hz : z ∈ ['\x60', '"', '[', ']']) :
    (Identifier.normalize ⟨[a], [z]⟩ s).source = String.ofList (a :: s.toList ++ [z]) := by
  simp only [Identifier.normalize, h.prepared]
  rw [Identifier.sourceChars_bare h.toList_ne_nil (h.not_surround (by simp) _) (h.not_surround ha _),
    Delimiters.quote, Text.doubled_of_not_mem (h.not_mem hz)]

private theorem bare_eq (h : PlainName s) : Identifier.bare s = s := by
  rw [Identifier.bare_of_not_mem (Text.lower_eq_self_iff.1 h.lower) (h.not_mem (by simp)), h.trimmed]

/-- In a query, a plain name stands between the marks of its database, or bare where these fold letter case. -/
private theorem columnName_eq (h : PlainName s) (connector : Connector) :
    columnName connector s = String.ofList (connector.queryMarks.wrap s.toList) := by
  cases connector with
  | databricks => exact h.source_eq (by simp) (by simp)
  | snowflake => simp [columnName, normalize, h.bare_eq, queryMarks, Delimiters.wrap]
  | oracle => simp [columnName, normalize, h.bare_eq, queryMarks, Delimiters.wrap]
  | tsql =>
    have hq : bracketQuoted s.toList = s.toList := by
      simp [bracketQuoted, Delimiters.both, h.not_surround]
    simp only [columnName, normalize, hq, String.ofList_toList]
    exact h.source_eq (by simp) (by simp)
  | memory => simp [columnName, normalize, queryMarks, Delimiters.wrap]

/-- The spellings of plain names tell them apart. -/
private theorem columnName_inj (hs : PlainName s) (ht : PlainName t) (connector : Connector)
    (h : columnName connector s = columnName connector t) : s = t := by
  rw [hs.columnName_eq, ht.columnName_eq, String.ofList_inj] at h
  simpa [Delimiters.wrap, String.toList_inj] using h

private theorem columnName_lt_iff (hs : PlainName s) (ht : PlainName t) (connector : Connector) :
    columnName connector s < columnName connector t ↔
      List.Lex (· < ·) (s.toList ++ connector.queryMarks.closing) (t.toList ++ connector.queryMarks.closing) := by
  rw [hs.columnName_eq, ht.columnName_eq]
  simp only [Delimiters.wrap, List.append_assoc]
  refine Iff.trans ?_ (lex_append_left_iff connector.queryMarks.opening _ _)
  rw [String.lt_iff_toList_lt, String.toList_ofList, String.toList_ofList]
  rfl

/-- The closing mark of a name and the next character of a longer one differ. -/
private theorem closing_cases (connector : Connector) :
    connector.queryMarks.closing = [] ∨ ∃ z ∈ ['\x60', '"', '[', ']'], connector.queryMarks.closing = [z] := by
  cases connector <;> simp [queryMarks, Delimiters.ansi_eq]

/-- A name and a longer one are ordered by what follows the shorter one: its closing mark and the next character. -/
private theorem columnName_lt_of_extends (hs : PlainName s) (ht : PlainName t) (connector : Connector) {c : Char}
    {r : List Char} (h : t.toList = s.toList ++ c :: r) :
    (columnName connector s < columnName connector t ↔ connector.standsBefore c = true) ∧
      (columnName connector t < columnName connector s ↔ connector.standsBefore c = false) := by
  rw [hs.columnName_lt_iff ht, ht.columnName_lt_iff hs, h, List.append_assoc, lex_append_left_iff,
    lex_append_left_iff, List.cons_append, standsBefore]
  rcases closing_cases connector with hz | ⟨z, hz, hcl⟩
  · simp [hz]
  · have hc : c ≠ z := by
      rintro rfl
      exact ht.not_mem hz (by rw [h]; simp)
    rw [hcl, lex_cons_of_ne hc, lex_cons_of_ne hc.symm]
    simp only [decide_eq_true_eq, decide_eq_false_iff_not, true_and, not_lt]
    exact ⟨fun h => h.le, fun h => lt_of_le_of_ne h hc⟩

/-- Two databases order two plain names alike, unless one name begins the other and its closing marks lie on
different sides of the next character. -/
private theorem columnName_lt_iff_lt (hs : PlainName s) (ht : PlainName t) (x y : Connector)
    (h : ∀ c r, t.toList = s.toList ++ c :: r ∨ s.toList = t.toList ++ c :: r → x.standsBefore c = y.standsBefore c) :
    columnName x s < columnName x t ↔ columnName y s < columnName y t := by
  by_cases hst : s = t
  · subst hst
    exact iff_of_false (lt_irrefl _) (lt_irrefl _)
  rcases parting s.toList t.toList (fun e => hst (String.toList_inj.1 e)) with
    ⟨p, u, v, r, r', huv, es, et⟩ | ⟨c, r, et⟩ | ⟨c, r, es⟩
  · -- the names part at a character of both, and no mark is compared
    have hpart : ∀ connector : Connector, columnName connector s < columnName connector t ↔ u < v := by
      intro connector
      rw [hs.columnName_lt_iff ht, es, et, List.append_assoc, List.append_assoc, lex_append_left_iff,
        List.cons_append, List.cons_append, lex_cons_of_ne huv]
    rw [hpart x, hpart y]
  · rw [(hs.columnName_lt_of_extends ht x et).1, (hs.columnName_lt_of_extends ht y et).1, h c r (Or.inl et)]
  · rw [(ht.columnName_lt_of_extends hs x es).2, (ht.columnName_lt_of_extends hs y es).2, h c r (Or.inr es)]

end PlainName

/-- Whether a longer name that goes on with a character keeps its place behind the shorter one, or before it, when
the marks of a database are exchanged for backticks. -/
def keepsPlace (connector : Connector) (c : Char) : Bool :=
  match connector with
  | tsql => c != '^' && c != '_'
  | oracle | snowflake | memory => '\x60' < c
  | databricks => true

/-- A closing bracket and a backtick lie on different sides of two characters only. -/
private theorem standsBefore_eq_iff {connector : Connector} {c : Char} (hc : c ≠ '\x60') :
    connector.standsBefore c = databricks.standsBefore c ↔ connector.keepsPlace c = true := by
  have hnat : ∀ d : Char, c = d ↔ c.toNat = d.toNat := fun d =>
    ⟨fun h => by rw [h], fun h => Char.toNat_inj.1 h⟩
  have hlt : ∀ d : Char, d < c ↔ d.toNat < c.toNat := fun d => Iff.rfl
  cases connector with
  | databricks => simp [keepsPlace]
  | snowflake => simp [standsBefore, queryMarks, keepsPlace, Delimiters.ansi_eq]
  | oracle => simp [standsBefore, queryMarks, keepsPlace, Delimiters.ansi_eq]
  | memory => simp [standsBefore, queryMarks, keepsPlace, Delimiters.ansi_eq]
  | tsql =>
    simp only [standsBefore, queryMarks, keepsPlace, Delimiters.ansi_eq, decide_eq_decide, Bool.and_eq_true, bne_iff_ne,
      ne_eq]
    rw [hnat '^', hnat '_', hlt ']', hlt '\x60']
    rw [ne_eq, hnat '\x60'] at hc
    have e1 : '^'.toNat = 94 := rfl
    have e2 : '_'.toNat = 95 := rfl
    have e3 : ']'.toNat = 93 := rfl
    have e4 : '\x60'.toNat = 96 := rfl
    omega

section Plain

variable {source : Connector} {names : List String} (hp : ∀ s ∈ names, PlainName s)

include hp

/-- A source and the target compare the same columns alike exactly when no column name begins another one that changes
its place. -/
private theorem columnName_lt_iff_keepsPlace :
    (∀ s ∈ names, ∀ t ∈ names, (columnName source s < columnName source t ↔
        columnName databricks s < columnName databricks t)) ↔
      ∀ s ∈ names, ∀ t ∈ names, ∀ c r, t.toList = s.toList ++ c :: r → source.keepsPlace c = true := by
  have hmark : ∀ s ∈ names, ∀ t ∈ names, ∀ c r, t.toList = s.toList ++ c :: r → c ≠ '\x60' := by
    rintro s hs t ht c r h rfl
    exact (hp t ht).unmarked '\x60' (by rw [h]; simp) (by simp)
  constructor
  · intro h s hs t ht c r hst
    rw [← standsBefore_eq_iff (hmark s hs t ht c r hst), Bool.eq_iff_iff,
      ← ((hp s hs).columnName_lt_of_extends (hp t ht) source hst).1,
      ← ((hp s hs).columnName_lt_of_extends (hp t ht) databricks hst).1]
    exact h s hs t ht
  · intro h s hs t ht
    apply (hp s hs).columnName_lt_iff_lt (hp t ht)
    rintro c r (hst | hst)
    · exact (standsBefore_eq_iff (hmark s hs t ht c r hst)).2 (h s hs t ht c r hst)
    · exact (standsBefore_eq_iff (hmark t ht s hs c r hst)).2 (h t ht s hs c r hst)

private theorem sortedBy_perm_eq_iff {others : List String} (hperm : others.Perm names) :
    Sequence.sortedBy (columnName source) names = Sequence.sortedBy (columnName databricks) others ↔
      ∀ s ∈ names, ∀ t ∈ names, ∀ c r, t.toList = s.toList ++ c :: r → source.keepsPlace c = true := by
  rw [Sequence.sortedBy_eq_sortedBy_iff hperm (fun s hs t ht => (hp s hs).columnName_inj (hp t ht) source)
    (fun s hs t ht => (hp s hs).columnName_inj (hp t ht) databricks)]
  exact columnName_lt_iff_keepsPlace hp

end Plain

/-- A source and the target sort the same columns alike exactly when no column name begins another one that changes
its place: one that goes on with a character up to the backtick where names are bare, and with `^` or `_` where they
stand between brackets. -/
theorem sortedBy_columnName_eq_iff {source : Connector} {names : List String} (hp : ∀ s ∈ names, PlainName s) :
    Sequence.sortedBy (columnName source) names = Sequence.sortedBy (columnName databricks) names ↔
      ∀ s ∈ names, ∀ t ∈ names, ∀ c r, t.toList = s.toList ++ c :: r → source.keepsPlace c = true :=
  sortedBy_perm_eq_iff hp .rfl

/-- Digits and blanks lie below both a bracket and a backtick. -/
theorem sortedBy_columnName_eq_brackets :
    (∀ s ∈ ["a", "a1", "a b"], PlainName s) ∧
    Sequence.sortedBy (columnName tsql) ["a", "a1", "a b"] =
      Sequence.sortedBy (columnName databricks) ["a", "a1", "a b"] := by
  have hp : ∀ s ∈ ["a", "a1", "a b"], PlainName s := by
    intro s hs
    simp only [List.mem_cons, List.not_mem_nil, or_false] at hs
    rcases hs with rfl | rfl | rfl <;> exact ⟨by decide, by decide, by decide, by simp⟩
  refine ⟨hp, (sortedBy_columnName_eq_iff hp).2 ?_⟩
  intro s hs t ht c r h
  simp only [List.mem_cons, List.not_mem_nil, or_false] at hs ht
  rcases hs with rfl | rfl | rfl <;> rcases ht with rfl | rfl | rfl <;> simp at h
  · obtain ⟨rfl, rfl⟩ := h
    rfl
  · obtain ⟨rfl, rfl⟩ := h
    rfl

/-- Where names are bare, a name stands before all longer ones; between backticks it stands behind those that go on
with a digit. -/
theorem sortedBy_columnName_ne_bare :
    (∀ s ∈ ["a", "a1"], PlainName s) ∧ ["a", "a1"].Nodup ∧
    Sequence.sortedBy (columnName oracle) ["a", "a1"] = ["a", "a1"] ∧
    Sequence.sortedBy (columnName databricks) ["a", "a1"] = ["a1", "a"] := by
  refine ⟨?_, by decide, ?_, ?_⟩
  · intro s hs
    simp only [List.mem_cons, List.not_mem_nil, or_false] at hs
    rcases hs with rfl | rfl <;> exact ⟨by decide, by decide, by decide, by simp⟩
  · rw [Sequence.sortedBy, List.mergeSort_of_pairwise]
    decide
  · have h : ¬ columnName databricks "a" ≤ columnName databricks "a1" := by decide
    simp [Sequence.sortedBy, List.mergeSort, h]

end Connector

namespace Reconcile.Table

/-- On each side the source names of the hashed columns come in the order of their spellings there. -/
private theorem map_fromLayer_hashSequence (t : Table) (connector : Connector) (schema : List Column)
    (layer : Layer) :
    (t.hashSequence connector schema layer).map (t.fromLayer layer) =
      Sequence.sortedBy (columnName connector) ((t.hashed schema layer).map (t.fromLayer layer)) := by
  rw [hashSequence, Sequence.sortedBy, Sequence.sortedBy, List.map_mergeSort]
  intro a _ b _
  rfl

/-- Where both sides hash the same columns, they do so in the same order exactly when none of these begins another one
that changes its place. -/
theorem hashSequence_eq_iff (t : Table) {source : Connector} {schema schema' : List Column}
    (hsame : ((t.hashed schema' .target).map (t.fromLayer .target)).Perm (t.hashed schema .source))
    (hp : ∀ s ∈ t.hashed schema .source, Connector.PlainName s) :
    t.hashSequence source schema .source =
        (t.hashSequence .databricks schema' .target).map (t.fromLayer .target) ↔
      ∀ a ∈ t.hashed schema .source, ∀ b ∈ t.hashed schema .source, ∀ c r, b.toList = a.toList ++ c :: r →
        source.keepsPlace c = true := by
  have hsource := map_fromLayer_hashSequence t source schema .source
  rw [show t.fromLayer .source = id from rfl, List.map_id, List.map_id] at hsource
  rw [hsource, map_fromLayer_hashSequence]
  exact Connector.sortedBy_perm_eq_iff hp hsame

end Reconcile.Table

end WarehouseMigration
