import WarehouseMigration.Proofs.Reconcile.Normalization

/-!
# What the key of a rule tells

The key of a rule is its type, its column and its columns to group by, with `_` between them.  Types hold no `_`, and
what stands for an absent list of columns is in upper case while all columns are in lower case.  So rules with equal
keys are of one type, and both have groups or neither has.  But a `_` in a name may as well be the one between two
parts.  Hence the key of a rule with groups belongs to no other rule if and only if it holds no `_` but the two between
its parts (`key_identifies_iff`); the mark between two columns to group by holds two more.
-/

namespace WarehouseMigration.Reconcile

open Outcome
open Text (IsLower)

/-- Two texts are cut at the first mark in them in the same way. -/
private theorem append_mark_inj {mark : Char} {xs ys rest rest' : List Char} (hx : mark ∉ xs) (hy : mark ∉ ys)
    (h : xs ++ mark :: rest = ys ++ mark :: rest') : xs = ys ∧ rest = rest' := by
  induction xs generalizing ys with
  | nil =>
    cases ys with
    | nil => exact ⟨rfl, (List.cons.inj h).2⟩
    | cons y ys => exact absurd ((List.cons.inj h).1 ▸ List.mem_cons_self) hy
  | cons x xs ih =>
    cases ys with
    | nil => exact absurd ((List.cons.inj h).1 ▸ List.mem_cons_self) hx
    | cons y ys =>
      obtain ⟨rfl, htail⟩ := List.cons.inj h
      obtain ⟨rfl, hrest⟩ := ih (List.not_mem_of_not_mem_cons hx) (List.not_mem_of_not_mem_cons hy) htail
      exact ⟨rfl, hrest⟩

/-! ### Aggregates that can be configured -/

namespace Aggregate

def Configured (a : Aggregate) : Prop := ∃ v, Aggregate.read v = .ok a

/-- A value that says something has parts, if it has texts for parts. -/
private theorem gives_asTexts_ne_nil {v : Value} (h : v.isSet = true) : Gives (fun names => names ≠ []) v.asTexts := by
  have hitems : Gives (fun items => items ≠ []) v.asItems := by
    unfold Value.asItems
    split
    case h_1 items => exact gives_pure (by simpa [Value.isSet] using h)
    case h_2 s => exact gives_pure (by simpa [Value.isSet] using h)
    case h_3 entries => exact gives_pure (by simpa [Value.isSet] using h)
    case h_4 => exact gives_throw _
  refine hitems.bind fun items hne => ?_
  obtain ⟨item, rest, rfl⟩ := List.exists_cons_of_ne_nil hne
  rw [List.mapM_cons]
  exact gives_bind fun _ => gives_bind fun _ => gives_pure (by simp)

private theorem gives_supported (v : Value) :
    Gives (fun a => a.type ∈ aggregateTypes ∧ a.groupBy ≠ some []) (Aggregate.read v) := by
  unfold read
  refine gives_bind fun _ => gives_bind fun columns => gives_bind fun type => ?_
  extract_lets given checked
  have hchecked : ∀ groupBy, groupBy ≠ some [] →
      Gives (fun a => a.type ∈ aggregateTypes ∧ a.groupBy ≠ some []) (checked groupBy) := by
    intro groupBy hne
    dsimp only [checked, made]
    split
    case isTrue => exact gives_throw _
    case isFalse hsupported =>
      refine gives_pure ⟨by simpa using hsupported, ?_⟩
      intro hnil
      rcases groupBy with - | (- | ⟨g, rest⟩)
      · cases hnil
      · exact hne rfl
      · cases hnil
  split
  case isTrue hset =>
    refine ((gives_asTexts_ne_nil hset).bind fun names hne => gives_pure ?_).bind hchecked
    simpa using hne
  case isFalse => exact hchecked none (by simp)

private theorem asTexts_toValue (names : List String) : (toValue names).asTexts = .ok names := by
  change (names.map Value.text).mapM Value.asText = .ok names
  induction names with
  | nil => rfl
  | cons name names ih =>
    rw [List.map_cons, List.mapM_cons, ih]
    rfl

/-- An aggregate that is kept as it should be can be read again. -/
private theorem read_toValue {a : Aggregate} (htype : a.type ∈ aggregateTypes) (hgroups : a.groupBy ≠ some [])
    (hlower : a.lowered = a) : Aggregate.read (toValue a) = .ok a := by
  let check := fun b : Aggregate => (do
    if !aggregateTypes.contains b.type then throw (.broken s!"Invalid aggregate type: {b.type}")
    return b : Outcome Aggregate)
  have hcheck : check a.lowered = .ok a := by
    have hcontains : aggregateTypes.contains a.type = true := List.contains_iff_mem.2 htype
    simp only [check, hlower, hcontains]
    rfl
  obtain ⟨columns, type, groupBy⟩ := a
  rcases groupBy with - | (- | ⟨g, rest⟩)
  · change ((toValue columns).asTexts >>= fun columns => check (lowered ⟨columns, type, none⟩)) = _
    rw [asTexts_toValue]
    exact hcheck
  · exact absurd rfl hgroups
  · change ((toValue columns).asTexts >>= fun columns => (some <$> (toValue (g :: rest)).asTexts) >>= fun groupBy =>
      check (lowered ⟨columns, type, groupBy⟩)) = _
    rw [asTexts_toValue, asTexts_toValue]
    exact hcheck

private theorem configured_iff {a : Aggregate} :
    a.Configured ↔ a.type ∈ aggregateTypes ∧ a.groupBy ≠ some [] ∧ a.lowered = a := by
  constructor
  · rintro ⟨v, hv⟩
    obtain ⟨htype, hgroups⟩ := gives_supported v a hv
    exact ⟨htype, hgroups, (made_eq_ok_iff.1 (gives_made v a hv)).1⟩
  · rintro ⟨htype, hgroups, hlower⟩
    exact ⟨toValue a, read_toValue htype hgroups hlower⟩

/-! ### Joined columns -/

private theorem joined_singleton (g : String) : joined [g] = g := String.intercalate_singleton

private theorem toList_joined_cons_cons (g h : String) (rest : List String) :
    (joined (g :: h :: rest)).toList =
      (g.toList ++ ['+']) ++ '_' :: '_' :: '+' :: (joined (h :: rest)).toList := by
  rw [joined, String.intercalate_cons_cons, String.toList_append, String.toList_append, joined]
  simp

private theorem isLower_joined {columns : List String} (h : ∀ g ∈ columns, ∀ c ∈ g.toList, IsLower c) :
    ∀ c ∈ (joined columns).toList, IsLower c := by
  induction columns with
  | nil => exact fun c hc => absurd hc (by simp [joined])
  | cons g columns ih =>
    obtain ⟨hg, hrest⟩ := List.forall_mem_cons.1 h
    cases columns with
    | nil => rwa [joined_singleton]
    | cons g' rest =>
      intro c hc
      rw [toList_joined_cons_cons] at hc
      simp only [List.mem_append, List.mem_cons, List.not_mem_nil, or_false] at hc
      rcases hc with (hc | rfl) | rfl | rfl | rfl | hc
      · exact hg c hc
      · decide
      · decide
      · decide
      · decide
      · exact ih hrest c hc

private theorem mark_mem_joined (g h : String) (rest : List String) : '_' ∈ (joined (g :: h :: rest)).toList := by
  rw [toList_joined_cons_cons]
  simp

/-- Columns without a `_` are known from the text they are joined to. -/
private theorem joined_inj {g h : String} {gs hs : List String} (hg : ∀ x ∈ g :: gs, '_' ∉ x.toList)
    (hh : ∀ x ∈ h :: hs, '_' ∉ x.toList) (heq : joined (g :: gs) = joined (h :: hs)) : g :: gs = h :: hs := by
  induction gs generalizing g h hs with
  | nil =>
    cases hs with
    | nil => rw [← joined_singleton g, heq, joined_singleton]
    | cons h' hs =>
      have hmem := mark_mem_joined h h' hs
      rw [← heq, joined_singleton] at hmem
      exact absurd hmem (hg g List.mem_cons_self)
  | cons g' gs ih =>
    obtain ⟨hfirst, hgs⟩ := List.forall_mem_cons.1 hg
    obtain ⟨hfirst', hhs⟩ := List.forall_mem_cons.1 hh
    cases hs with
    | nil =>
      have hmem := mark_mem_joined g g' gs
      rw [heq, joined_singleton] at hmem
      exact absurd hmem hfirst'
    | cons h' hs =>
      have hlists := congrArg String.toList heq
      rw [toList_joined_cons_cons, toList_joined_cons_cons] at hlists
      obtain ⟨hhead, htail⟩ := append_mark_inj (by simpa using hfirst) (by simpa using hfirst') hlists
      have hgh : g = h := String.toList_inj.1 (List.append_cancel_right hhead)
      have hjoined : joined (g' :: gs) = joined (h' :: hs) := String.toList_inj.1 (by simpa using htail)
      rw [hgh, ih hgs hhs hjoined]

end Aggregate

/-! ### Keys -/

namespace AggregateRule

def Configured (r : AggregateRule) : Prop := ∃ a : Aggregate, a.Configured ∧ r ∈ a.rules

variable {r s : AggregateRule}

/-- A rule that can be configured is of a known type and about a column in lower case; its columns to group by are in
lower case too, and they or their absence make its last part. -/
structure Shape (r : AggregateRule) : Prop where
  type : r.type ∈ aggregateTypes
  column : ∀ c ∈ r.column.toList, IsLower c
  ungrouped : r.groupBy = none → r.groupKey = "NA"
  grouped : ∀ gs, r.groupBy = some gs → gs ≠ [] ∧ r.groupKey = Aggregate.joined gs ∧
    ∀ g ∈ gs, ∀ c ∈ g.toList, IsLower c

private theorem Configured.shape (h : r.Configured) : r.Shape := by
  obtain ⟨a, ha, hr⟩ := h
  obtain ⟨htype, hgroups, hlower⟩ := Aggregate.configured_iff.1 ha
  obtain ⟨hcolumns, -, hby⟩ := Aggregate.lowered_eq_iff.1 hlower
  obtain ⟨column, hcolumn, rfl⟩ := List.mem_map.1 hr
  refine ⟨htype, Text.lower_eq_self_iff.1 (hcolumns column hcolumn), ?_, ?_⟩
  · intro hnone
    dsimp only at hnone
    simp only [Aggregate.groupKey, hnone]
  · intro gs hsome
    dsimp only at hsome
    rw [hsome] at hgroups hby
    have hne : gs ≠ [] := by simpa using hgroups
    obtain ⟨g, rest, rfl⟩ := List.exists_cons_of_ne_nil hne
    exact ⟨hne, by simp only [Aggregate.groupKey, hsome], fun x hx => Text.lower_eq_self_iff.1 (hby x hx)⟩

/-- Any column and any one column to group by make a rule. -/
private theorem configured_single {type column g : String} (htype : type ∈ aggregateTypes)
    (hcolumn : Text.lower column = column) (hg : Text.lower g = g) :
    Configured ⟨type, column, some [g], g, "AGGREGATE"⟩ := by
  have htypes : ∀ type ∈ aggregateTypes, Text.lower type = type := by decide
  refine ⟨⟨[column], type, some [g]⟩, Aggregate.configured_iff.2 ⟨htype, by simp, ?_⟩, ?_⟩
  · rw [Aggregate.lowered_eq_iff]
    refine ⟨?_, htypes type htype, ?_⟩
    · simpa using hcolumn
    · simpa using hg
  · simp [Aggregate.rules, Aggregate.groupKey, Aggregate.joined_singleton]

private theorem toList_key (r : AggregateRule) :
    r.key.toList = r.type.toList ++ '_' :: (r.column.toList ++ '_' :: r.groupKey.toList) := by
  simp [key, toString]

namespace Shape

/-- Rules with equal keys are of one type, and agree in what stands behind it. -/
private theorem eq_of_key_eq (hr : r.Shape) (hs : s.Shape) (h : s.key = r.key) :
    s.type = r.type ∧ s.column.toList ++ '_' :: s.groupKey.toList = r.column.toList ++ '_' :: r.groupKey.toList := by
  have htypes : ∀ type ∈ aggregateTypes, '_' ∉ type.toList := by decide
  have hlists := congrArg String.toList h
  rw [toList_key, toList_key] at hlists
  obtain ⟨htype, hrest⟩ := append_mark_inj (htypes _ hs.type) (htypes _ hr.type) hlists
  exact ⟨String.toList_inj.1 htype, hrest⟩

/-- A key that ends in upper case is not that of a rule with groups. -/
private theorem groupBy_eq_none (hr : r.Shape) {column : List Char}
    (h : r.column.toList ++ '_' :: r.groupKey.toList = column ++ '_' :: "NA".toList) : r.groupBy = none := by
  rcases hgroups : r.groupBy with - | gs
  · rfl
  · obtain ⟨-, hkey, hlower⟩ := hr.grouped gs hgroups
    have hlast := congrArg List.getLast? h
    rw [List.getLast?_append_of_ne_nil _ (by simp), List.getLast?_append_of_ne_nil _ (by simp), hkey] at hlast
    have hmem : 'A' ∈ '_' :: (Aggregate.joined gs).toList := List.mem_of_getLast? (hlast.trans (by decide))
    rcases List.mem_cons.1 hmem with hmark | hmem
    · exact absurd hmark (by decide)
    · exact absurd (Aggregate.isLower_joined hlower _ hmem) (by decide)

/-- Rules with equal keys both have groups or both have none. -/
private theorem groupBy_eq_none_iff (hr : r.Shape) (hs : s.Shape) (h : s.key = r.key) :
    s.groupBy = none ↔ r.groupBy = none := by
  obtain ⟨-, hrest⟩ := hr.eq_of_key_eq hs h
  constructor
  · intro hnone
    rw [hs.ungrouped hnone] at hrest
    exact hr.groupBy_eq_none hrest.symm
  · intro hnone
    rw [hr.ungrouped hnone] at hrest
    exact hs.groupBy_eq_none hrest

/-- A rule without groups is known from its key. -/
private theorem column_eq_of_ungrouped (hr : r.Shape) (hs : s.Shape) (hnone : r.groupBy = none) (h : s.key = r.key) :
    s.column = r.column := by
  obtain ⟨-, hrest⟩ := hr.eq_of_key_eq hs h
  rw [hr.ungrouped hnone, hs.ungrouped ((hr.groupBy_eq_none_iff hs h).2 hnone)] at hrest
  exact String.toList_inj.1 (List.append_cancel_right hrest)

/-- A rule with one column to group by is known from its key if there is no `_` in the two columns. -/
private theorem eq_of_single (hr : r.Shape) (hs : s.Shape) {g : String} (hgroups : r.groupBy = some [g])
    (hcolumn : '_' ∉ r.column.toList) (hg : '_' ∉ g.toList) (h : s.key = r.key) :
    s.column = r.column ∧ s.groupBy = some [g] := by
  obtain ⟨-, hrest⟩ := hr.eq_of_key_eq hs h
  rw [(hr.grouped _ hgroups).2.1, Aggregate.joined_singleton] at hrest
  obtain ⟨hcolumns, -, hkeys⟩ := (List.append_cons_inj_of_notMem hcolumn hg).1 hrest.symm
  refine ⟨String.toList_inj.1 hcolumns.symm, ?_⟩
  rcases hgroups' : s.groupBy with - | gs
  · rw [(hr.groupBy_eq_none_iff hs h).1 hgroups'] at hgroups
    cases hgroups
  · obtain ⟨hne, hkey, -⟩ := hs.grouped gs hgroups'
    rw [hkey] at hkeys
    rcases gs with - | ⟨g', - | ⟨h', rest⟩⟩
    · exact absurd rfl hne
    · rw [Aggregate.joined_singleton] at hkeys
      rw [String.toList_inj.1 hkeys]
    · exact absurd (hkeys ▸ Aggregate.mark_mem_joined g' h' rest) hg

/-- If the key of a rule with groups belongs to no other rule, there is one column to group by, and no `_` in the two
columns: at any other `_` the key can be cut into the parts of another rule. -/
private theorem single_of_identified (hr : r.Shape) {gs : List String} (hgroups : r.groupBy = some gs)
    (h : ∀ s : AggregateRule, s.Configured → s.key = r.key → s.column = r.column ∧ s.groupBy = r.groupBy) :
    ∃ g, gs = [g] ∧ '_' ∉ r.column.toList ∧ '_' ∉ g.toList := by
  obtain ⟨-, hkey, hlower⟩ := hr.grouped gs hgroups
  have hchars : ∀ c ∈ r.column.toList ++ '_' :: r.groupKey.toList, IsLower c := by
    intro c hc
    rcases List.mem_append.1 hc with hc | hc
    · exact hr.column c hc
    · rcases List.mem_cons.1 hc with rfl | hc
      · decide
      · exact Aggregate.isLower_joined hlower c (hkey ▸ hc)
  -- a cut at a `_` gives the rule of one column by one other, which has the same key
  have hcut : ∀ column last : List Char, column ++ '_' :: last = r.column.toList ++ '_' :: r.groupKey.toList →
      column = r.column.toList ∧ gs = [String.ofList last] := by
    intro column last heq
    rw [← heq] at hchars
    have hs : Configured ⟨r.type, String.ofList column, some [String.ofList last], String.ofList last,
        "AGGREGATE"⟩ := by
      apply configured_single hr.type
      · rw [Text.lower_eq_self_iff, String.toList_ofList]
        exact fun c hc => hchars c (List.mem_append_left _ hc)
      · rw [Text.lower_eq_self_iff, String.toList_ofList]
        exact fun c hc => hchars c (List.mem_append_right _ (List.mem_cons_of_mem _ hc))
    obtain ⟨hcolumn, hby⟩ := h _ hs (String.toList_inj.1 (by simp [toList_key, heq]))
    rw [hgroups] at hby
    exact ⟨by simpa using congrArg String.toList hcolumn, (Option.some.inj hby).symm⟩
  have hgs : gs = [r.groupKey] := by simpa using (hcut _ _ rfl).2
  refine ⟨r.groupKey, hgs, ?_, ?_⟩
  · intro hmem
    obtain ⟨x, y, hxy⟩ := List.append_of_mem hmem
    have hx := (hcut x (y ++ '_' :: r.groupKey.toList) (by simp [hxy])).1
    rw [hxy] at hx
    simpa using congrArg List.length hx
  · intro hmem
    obtain ⟨x, y, hxy⟩ := List.append_of_mem hmem
    have hx := (hcut (r.column.toList ++ '_' :: x) y (by simp [hxy])).1
    simpa using congrArg List.length hx

/-- Rules without a `_` in their columns are known from their keys. -/
private theorem eq_of_plain (hr : r.Shape) (hs : s.Shape) (hrc : '_' ∉ r.column.toList) (hsc : '_' ∉ s.column.toList)
    (hrg : ∀ g ∈ r.groupBy.getD [], '_' ∉ g.toList) (hsg : ∀ g ∈ s.groupBy.getD [], '_' ∉ g.toList)
    (h : s.key = r.key) : s.column = r.column ∧ s.groupBy = r.groupBy := by
  obtain ⟨-, hrest⟩ := hr.eq_of_key_eq hs h
  obtain ⟨hcolumn, hkeys⟩ := append_mark_inj hsc hrc hrest
  refine ⟨String.toList_inj.1 hcolumn, ?_⟩
  have hnone := hr.groupBy_eq_none_iff hs h
  rcases hrgroups : r.groupBy with - | gs
  · exact hnone.2 hrgroups
  · rcases hsgroups : s.groupBy with - | gs'
    · rw [hnone.1 hsgroups] at hrgroups
      cases hrgroups
    · obtain ⟨hne, hkey, -⟩ := hr.grouped gs hrgroups
      obtain ⟨hne', hkey', -⟩ := hs.grouped gs' hsgroups
      obtain ⟨g, rest, rfl⟩ := List.exists_cons_of_ne_nil hne
      obtain ⟨g', rest', rfl⟩ := List.exists_cons_of_ne_nil hne'
      rw [hrgroups] at hrg
      rw [hsgroups] at hsg
      rw [hkey, hkey', String.toList_inj] at hkeys
      rw [Aggregate.joined_inj hsg hrg hkeys]

end Shape

def Plain (r : AggregateRule) : Prop := '_' ∉ r.column.toList ∧ ∀ g ∈ r.groupBy.getD [], '_' ∉ g.toList

/-- Rules with equal keys are of one type, both have groups or neither has, and they are the same if neither has a `_`
in its columns.  The key of a rule belongs to no other rule if and only if the rule has no groups, or one column to
group by and no `_` in its two columns. -/
theorem key_identifies_iff (hr : r.Configured) :
    (∀ s : AggregateRule, s.Configured → s.key = r.key → s.type = r.type ∧ (s.groupBy = none ↔ r.groupBy = none) ∧
      (s.Plain → r.Plain → s.column = r.column ∧ s.groupBy = r.groupBy)) ∧
    ((∀ s : AggregateRule, s.Configured → s.key = r.key →
        s.type = r.type ∧ s.column = r.column ∧ s.groupBy = r.groupBy) ↔
      r.groupBy = none ∨ ∃ g, r.groupBy = some [g] ∧ '_' ∉ r.column.toList ∧ '_' ∉ g.toList) := by
  have hshape := hr.shape
  refine ⟨?_, ?_, ?_⟩
  · intro s hs h
    refine ⟨(hshape.eq_of_key_eq hs.shape h).1, hshape.groupBy_eq_none_iff hs.shape h, ?_⟩
    rintro ⟨hsc, hsg⟩ ⟨hrc, hrg⟩
    exact hshape.eq_of_plain hs.shape hrc hsc hrg hsg h
  · intro h
    rcases hgroups : r.groupBy with - | gs
    · exact .inl rfl
    · obtain ⟨g, rfl, hnone⟩ := hshape.single_of_identified hgroups fun s hs hkey => (h s hs hkey).2
      exact .inr ⟨g, rfl, hnone⟩
  · rintro (hnone | ⟨g, hgroups, hcolumn, hg⟩) s hs h
    · rw [hnone, (hshape.groupBy_eq_none_iff hs.shape h).2 hnone]
      exact ⟨(hshape.eq_of_key_eq hs.shape h).1, hshape.column_eq_of_ungrouped hs.shape hnone h, rfl⟩
    · rw [hgroups]
      exact ⟨(hshape.eq_of_key_eq hs.shape h).1, hshape.eq_of_single hs.shape hgroups hcolumn hg h⟩

/-- The rule of the smallest price by region is known from its key. -/
theorem key_identifies_price :
    Configured ⟨"min", "price", some ["region"], "region", "AGGREGATE"⟩ ∧
    ∀ s : AggregateRule, s.Configured → s.key = "min_price_region" →
      s.type = "min" ∧ s.column = "price" ∧ s.groupBy = some ["region"] := by
  have hr : Configured ⟨"min", "price", some ["region"], "region", "AGGREGATE"⟩ :=
    configured_single (by decide) (by decide) (by decide)
  exact ⟨hr, (key_identifies_iff hr).2.2 (.inr ⟨"region", rfl, by decide, by decide⟩)⟩

/-- The smallest `a` by `b_c` and the smallest `a_b` by `c` have the same key. -/
theorem key_shared_underscore :
    Configured ⟨"min", "a", some ["b_c"], "b_c", "AGGREGATE"⟩ ∧
      Configured ⟨"min", "a_b", some ["c"], "c", "AGGREGATE"⟩ ∧
    key ⟨"min", "a", some ["b_c"], "b_c", "AGGREGATE"⟩ = "min_a_b_c" ∧
    key ⟨"min", "a_b", some ["c"], "c", "AGGREGATE"⟩ = "min_a_b_c" ∧ "a" ≠ "a_b" ∧ some ["b_c"] ≠ some ["c"] :=
  ⟨configured_single (by decide) (by decide) (by decide), configured_single (by decide) (by decide) (by decide),
    by decide, by decide, by decide, by decide⟩

end AggregateRule

end WarehouseMigration.Reconcile
