import Mathlib.Data.Finset.Card
import WarehouseMigration.Proofs.Sequence.Keyed
import WarehouseMigration.Reconcile.Query

/-!
# The hashed columns of both sides

Four lists of a configuration decide which columns enter the hash of a row: a column is joined or selected, and it has
no threshold and is not dropped.  All four hold source names.  For the target each of them is translated on its own,
and the translated lists are united and subtracted (`hashSet`).  This gives the translation of the source's columns,
because the translation is injective on all names that the configuration mentions: a mapping that names nothing twice
is undone by its inverse (`MapsApart.sourceOf_targetOf`), also where it exchanges two names.
-/

namespace WarehouseMigration.Reconcile.Table

def hashSet (t : Table) (schema : List Column) (layer : Layer) : Finset String :=
  ((((t.joined layer).getD []).toFinset ∪ (t.selected schema layer).toFinset) \
    (t.thresholdColumns layer).toFinset) \ (t.dropped layer).toFinset

def mentioned (t : Table) : List String :=
  t.joinColumns.getD [] ++ t.selectColumns.getD [] ++ (t.columnThresholds.getD []).map ColumnThreshold.column ++
    t.dropColumns.getD []

/-- The mapping keeps columns apart: it names no column twice on either side, and a mentioned column that it does not
map has not the name of a target either. -/
structure MapsApart (t : Table) : Prop where
  sources : ((t.columnMapping.getD []).map ColumnMapping.source).Nodup
  targets : ((t.columnMapping.getD []).map ColumnMapping.target).Nodup
  kept : ∀ c ∈ t.mentioned, c ∉ (t.columnMapping.getD []).map ColumnMapping.source →
    c ∉ (t.columnMapping.getD []).map ColumnMapping.target

variable {t : Table} {c : String} {columns : List String} {schema : List Column} {layer : Layer}

/-! ### The translation of names -/

section Image

variable {key value : ColumnMapping → String} {mappings : List ColumnMapping} {m : ColumnMapping}

private theorem image_lastOf_of_mem (hkeys : (mappings.map key).Nodup) (hm : m ∈ mappings) :
    image (Sequence.lastOf (mappings.map fun m => (key m, value m))) (key m) = value m := by
  have hnodup : ((mappings.map fun m => (key m, value m)).map Prod.fst).Nodup := by
    rw [List.map_map]
    exact hkeys
  have hmem : (key m, value m) ∈ mappings.map fun m => (key m, value m) := List.mem_map_of_mem hm
  have hlookup : (Sequence.lastOf ((mappings.map fun m => (key m, value m)).map fun e => (e.1, e.2))).lookup (key m) =
      (mappings.map fun m => (key m, value m)).lookup (key m) :=
    Sequence.lookup_lastOf_map_key (f := id) hnodup fun _ _ => Iff.rfl
  rw [List.map_id'' fun _ => rfl] at hlookup
  rw [image, hlookup, (Sequence.mem_iff_lookup hnodup).1 hmem]
  rfl

private theorem image_lastOf_of_not_mem (h : c ∉ mappings.map key) :
    image (Sequence.lastOf (mappings.map fun m => (key m, value m))) c = c := by
  have hnone : (mappings.map fun m => (key m, value m)).filter (fun e => c == e.1) = [] := by
    rw [List.filter_eq_nil_iff]
    intro e he hc
    obtain ⟨m, hm, rfl⟩ := List.mem_map.1 he
    exact h (eq_of_beq hc ▸ List.mem_map_of_mem hm)
  rw [image, Sequence.lookup_lastOf, hnone]
  rfl

end Image

/-- The inverse mapping undoes the mapping on every mentioned column. -/
theorem MapsApart.sourceOf_targetOf (h : t.MapsApart) (hc : c ∈ t.mentioned) : t.sourceOf (t.targetOf c) = c := by
  by_cases hmapped : c ∈ (t.columnMapping.getD []).map ColumnMapping.source
  · obtain ⟨m, hm, rfl⟩ := List.mem_map.1 hmapped
    have htarget : t.targetOf m.source = m.target := image_lastOf_of_mem h.sources hm
    rw [htarget]
    exact image_lastOf_of_mem h.targets hm
  · have htarget : t.targetOf c = c := image_lastOf_of_not_mem hmapped
    rw [htarget]
    exact image_lastOf_of_not_mem (h.kept c hc hmapped)

private theorem MapsApart.injOn_onLayer (h : t.MapsApart) (layer : Layer) : Set.InjOn (t.onLayer layer)
    {c | c ∈ t.mentioned} := by
  cases layer with
  | source => exact fun _ _ _ _ heq => heq
  | target => exact Set.LeftInvOn.injOn fun _ hc => h.sourceOf_targetOf hc

/-! ### The hashed columns as a set -/

private theorem nodup_hashed (t : Table) (schema : List Column) (layer : Layer) : (t.hashed schema layer).Nodup := by
  rw [hashed, List.nodup_mergeSort]
  exact (Sequence.nodup_eraseDups _).filter _

private theorem toFinset_hashed (t : Table) (schema : List Column) (layer : Layer) :
    (t.hashed schema layer).toFinset = t.hashSet schema layer := by
  ext c
  simp [hashed, hashSet, and_assoc]

private theorem toFinset_allOnLayer (t : Table) (layer : Layer) (columns : List String) :
    (t.allOnLayer layer columns).toFinset = columns.toFinset.image (t.onLayer layer) := by
  ext c
  simp [allOnLayer]

private theorem toFinset_allFromTarget (t : Table) (columns : List String) :
    (t.allFromTarget columns).toFinset = columns.toFinset.image t.sourceOf := by
  ext c
  simp [allFromTarget]

/-- A function that is injective on two sets carries their difference to the difference of their images. -/
private theorem image_sdiff_image {f : String → String} {s r : Finset String} {u : Set String} (hf : Set.InjOn f u)
    (hs : ∀ c ∈ s, c ∈ u) (hr : ∀ c ∈ r, c ∈ u) : (s \ r).image f = s.image f \ r.image f := by
  ext c
  simp only [Finset.mem_image, Finset.mem_sdiff]
  constructor
  · rintro ⟨a, ⟨ha, hra⟩, rfl⟩
    refine ⟨⟨a, ha, rfl⟩, ?_⟩
    rintro ⟨b, hb, hab⟩
    exact hra (hf (hr b hb) (hs a ha) hab ▸ hb)
  · rintro ⟨⟨a, ha, rfl⟩, hnot⟩
    exact ⟨a, ⟨ha, fun hra => hnot ⟨a, hra, rfl⟩⟩, rfl⟩

/-- The columns that enter the hash of a row, by their source names. -/
def hashCore (t : Table) : Finset String :=
  (((t.joinColumns.getD []).toFinset ∪ (t.selectColumns.getD []).toFinset) \
    ((t.columnThresholds.getD []).map ColumnThreshold.column).toFinset) \ (t.dropColumns.getD []).toFinset

private theorem mem_mentioned_of_mem_hashCore (hc : c ∈ t.hashCore) : c ∈ t.mentioned := by
  simp only [hashCore, Finset.mem_sdiff, Finset.mem_union, List.mem_toFinset] at hc
  simp only [mentioned, List.mem_append]
  tauto

/-- On each side the hashed columns are the translation of one set of source names. -/
private theorem MapsApart.hashSet_eq_image (h : t.MapsApart) (hselect : t.selectColumns = some columns) :
    t.hashSet schema layer = t.hashCore.image (t.onLayer layer) := by
  have hjoined : ((t.joined layer).getD []).toFinset = (t.joinColumns.getD []).toFinset.image (t.onLayer layer) := by
    rw [joined]
    cases t.joinColumns with
    | none => rfl
    | some names => exact t.toFinset_allOnLayer layer names
  have hselected : (t.selected schema layer).toFinset = (t.selectColumns.getD []).toFinset.image (t.onLayer layer) := by
    rw [selected, hselect]
    exact t.toFinset_allOnLayer layer columns
  have hinj := h.injOn_onLayer layer
  have hshown : ∀ c ∈ (t.joinColumns.getD []).toFinset ∪ (t.selectColumns.getD []).toFinset, c ∈ t.mentioned := by
    intro c hc
    simp only [Finset.mem_union, List.mem_toFinset] at hc
    simp only [mentioned, List.mem_append]
    tauto
  have hthresholds : ∀ c ∈ ((t.columnThresholds.getD []).map ColumnThreshold.column).toFinset, c ∈ t.mentioned := by
    intro c hc
    simp only [mentioned, List.mem_append]
    exact .inl (.inr (List.mem_toFinset.1 hc))
  have hdropped : ∀ c ∈ (t.dropColumns.getD []).toFinset, c ∈ t.mentioned := by
    intro c hc
    simp only [mentioned, List.mem_append]
    exact .inr (List.mem_toFinset.1 hc)
  rw [hashCore, image_sdiff_image hinj (fun c hc => hshown c (Finset.mem_sdiff.1 hc).1) hdropped,
    image_sdiff_image hinj hshown hthresholds, Finset.image_union, hashSet, hjoined, hselected, thresholdColumns,
    dropped, toFinset_allOnLayer, toFinset_allOnLayer]

/-- Both sides hash corresponding columns.  The columns of each side are the joined and selected ones without those that
have a threshold and without the dropped ones; the columns of the target, translated back, are those of the source; the
columns of the source, translated, are those of the target; and there are equally many. -/
theorem hashed_correspond (h : t.MapsApart) (hselect : t.selectColumns = some columns) (source target : List Column) :
    (t.hashed source .source).toFinset = t.hashSet source .source ∧
    (t.hashed target .target).toFinset = t.hashSet target .target ∧
    (t.allFromTarget (t.hashed target .target)).toFinset = t.hashSet source .source ∧
    (t.allOnLayer .target (t.hashed source .source)).toFinset = t.hashSet target .target ∧
    (t.hashSet source .source).card = (t.hashSet target .target).card ∧
    (t.hashed source .source).length = (t.hashed target .target).length := by
  have hsource : t.hashSet source .source = t.hashCore := by
    rw [h.hashSet_eq_image hselect]
    exact Finset.image_id
  have htarget : t.hashSet target .target = t.hashCore.image t.targetOf := h.hashSet_eq_image hselect
  have hcard : (t.hashSet source .source).card = (t.hashSet target .target).card := by
    rw [hsource, htarget, Finset.card_image_of_injOn]
    exact (h.injOn_onLayer .target).mono fun c hc => mem_mentioned_of_mem_hashCore hc
  refine ⟨t.toFinset_hashed _ _, t.toFinset_hashed _ _, ?_, ?_, hcard, ?_⟩
  · rw [toFinset_allFromTarget, toFinset_hashed, htarget, hsource, Finset.image_image]
    have hback : Set.EqOn (t.sourceOf ∘ t.targetOf) id t.hashCore := fun c hc =>
      h.sourceOf_targetOf (mem_mentioned_of_mem_hashCore hc)
    rw [Finset.image_congr hback, Finset.image_id]
  · rw [toFinset_allOnLayer, toFinset_hashed, htarget, hsource]
    rfl
  · rw [← List.toFinset_card_of_nodup (t.nodup_hashed _ _), ← List.toFinset_card_of_nodup (t.nodup_hashed _ _),
      toFinset_hashed, toFinset_hashed, hcard]

def exchanged : Table :=
  { sourceName := "orders", targetName := "orders"
    joinColumns := some ["buyer"]
    selectColumns := some ["buyer", "seller", "price", "tax", "note"]
    dropColumns := some ["note"]
    columnMapping := some [⟨"buyer", "seller"⟩, ⟨"seller", "buyer"⟩, ⟨"price", "amount"⟩]
    columnThresholds := some [⟨"tax", .text "0", .text "1", "double"⟩] }

theorem hashed_correspond_exchanged :
    exchanged.MapsApart ∧
    (exchanged.allFromTarget (exchanged.hashed [] .target)).toFinset = {"buyer", "seller", "price"} ∧
    (exchanged.allOnLayer .target (exchanged.hashed [] .source)).toFinset = {"seller", "buyer", "amount"} ∧
    (exchanged.hashed [] .source).length = (exchanged.hashed [] .target).length := by
  have happart : exchanged.MapsApart := by
    refine ⟨by decide, by decide, fun c hc => ?_⟩
    simp only [mentioned, exchanged, Option.getD_some, List.map_cons, List.map_nil, List.cons_append, List.nil_append,
      List.mem_cons, List.not_mem_nil, or_false] at hc
    rcases hc with rfl | rfl | rfl | rfl | rfl | rfl | rfl | rfl <;> decide
  have hsource : exchanged.hashSet [] .source = {"buyer", "seller", "price"} := by decide
  have htarget : exchanged.hashSet [] .target = {"seller", "buyer", "amount"} := by decide
  obtain ⟨-, -, hback, hforth, -, hlength⟩ := hashed_correspond happart rfl [] []
  exact ⟨happart, hback.trans hsource, hforth.trans htarget, hlength⟩

end WarehouseMigration.Reconcile.Table
