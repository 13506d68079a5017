import WarehouseMigration.Proofs.Identifier.Settled
import WarehouseMigration.Proofs.Text.Removal
import WarehouseMigration.Reconcile.Comparison

/-!
# The names under which joined columns come back

The rows of both sides are joined under names that begin with the side, as in `src_price`, and come back under the names
of their columns.  To this end every occurrence of `src_` is removed, not only the one at the start.  So a column comes
back under its own name if and only if its name does not hold the prefix of its side itself (`columns_return_iff`).
-/

namespace WarehouseMigration.Reconcile.Comparison

open Text (IsLower)
open Connector (backticked)

/-- A column name in lower case, without white space around it and without backticks. -/
structure Joinable (column : String) : Prop where
  lower : Text.lower column = column
  trimmed : Text.strip column = column
  unticked : '\x60' ∉ column.toList

def joinedName (table column : String) : String := table ++ "_" ++ column

def sides : List String := ["src", "tgt"]

variable {t c : String}

/-! ### The way there -/

private theorem toList_joinedName (t c : String) : (joinedName t c).toList = (t ++ "_").toList ++ c.toList := by
  rw [joinedName, String.toList_append]

/-- The prefix of a side is in lower case, has no backtick, and begins and ends with other characters than white
space. -/
private theorem sides_plain (ht : t ∈ sides) :
    (∀ d ∈ (t ++ "_").toList, IsLower d) ∧ '\x60' ∉ (t ++ "_").toList ∧
      ∃ d ds, (t ++ "_").toList = d :: ds ++ ['_'] ∧ Text.isBlank d = false := by
  simp only [sides, List.mem_cons, List.not_mem_nil, or_false] at ht
  rcases ht with rfl | rfl
  · exact ⟨Text.lower_eq_self_iff.1 (by decide), by decide, 's', ['r', 'c'], by decide, by decide⟩
  · exact ⟨Text.lower_eq_self_iff.1 (by decide), by decide, 't', ['g', 't'], by decide, by decide⟩

private theorem joinable_joinedName (ht : t ∈ sides) (hc : Joinable c) : Joinable (joinedName t c) := by
  obtain ⟨hlower, hticks, d, ds, hstart, hd⟩ := sides_plain ht
  refine ⟨?_, ?_, ?_⟩
  · rw [Text.lower_eq_self_iff, toList_joinedName]
    intro x hx
    rcases List.mem_append.1 hx with hx | hx
    · exact hlower x hx
    · exact Text.lower_eq_self_iff.1 hc.lower x hx
  · rw [Text.strip_eq_self_iff, toList_joinedName]
    apply Text.trim_eq_self
    · intro x hx
      rw [hstart, List.append_assoc, List.cons_append, List.head?_cons, Option.some.injEq] at hx
      exact hx ▸ hd
    · intro x hx
      rw [List.getLast?_append, hstart, List.getLast?_concat] at hx
      rcases hlast : c.toList.getLast? with - | y
      · rw [hlast, Option.none_or, Option.some.injEq] at hx
        rw [← hx]
        decide
      · rw [hlast, Option.some_or, Option.some.injEq] at hx
        exact hx ▸ Text.not_isBlank_of_getLast? (Text.strip_eq_self_iff.1 hc.trimmed) hlast
  · rw [toList_joinedName, List.mem_append, not_or]
    exact ⟨hticks, hc.unticked⟩

private theorem joinedName_ne_empty (t c : String) : joinedName t c ≠ "" := by
  simp [joinedName]

/-- A joinable name is its own bare form. -/
private theorem Joinable.bare_eq (hc : Joinable c) : Identifier.bare c = c := by
  rw [Identifier.bare_of_not_mem (Text.lower_eq_self_iff.1 hc.lower) hc.unticked, hc.trimmed]

private theorem Joinable.ansiOf_eq (hc : Joinable c) (hne : c ≠ "") : Identifier.ansiOf c = backticked c :=
  Identifier.ansiOf_of_not_mem hne (Text.lower_eq_self_iff.1 hc.lower) (Text.strip_eq_self_iff.1 hc.trimmed)
    hc.unticked

private theorem columnSelector_eq (ht : t ∈ sides) (hc : Joinable c) :
    columnSelector t c = t ++ "." ++ Identifier.ansiOf c ++ " as " ++ backticked (joinedName t c) := by
  have hname : Identifier.ansiOf (t ++ "_" ++ c) = backticked (joinedName t c) :=
    (joinable_joinedName ht hc).ansiOf_eq (joinedName_ne_empty t c)
  rw [columnSelector, hc.bare_eq]
  change t ++ "." ++ Identifier.ansiOf c ++ " as " ++ Identifier.ansiOf (t ++ "_" ++ c) = _
  rw [hname]

/-! ### The way back -/

/-- The name under which a column comes back is its own without the prefix of the side, wherever it stands. -/
private theorem ownName_joinedName (hc : Joinable c) :
    ownName t (joinedName t c) = Text.strip (Text.replace c (t ++ "_") "") := by
  have hne : (t ++ "_").toList ≠ [] := by simp
  have hreplace : ∀ cs, Text.replaceChars (t ++ "_").toList [] cs = Text.replaceFrom (t ++ "_").toList [] 0 cs := by
    intro cs
    rw [Text.replaceChars, if_neg (by simp)]
  have hremoved : Text.replace (joinedName t c) (t ++ "_") "" = Text.replace c (t ++ "_") "" := by
    simp only [Text.replace, toList_joinedName, String.toList_empty, hreplace]
    rw [Text.replaceFrom_append_self hne, List.nil_append]
  have hsub : ∀ x ∈ (Text.replace c (t ++ "_") "").toList, x ∈ c.toList := by
    intro x hx
    simp only [Text.replace, String.toList_ofList, String.toList_empty, hreplace] at hx
    exact (Text.replaceFrom_sublist _ _ _).subset hx
  have hlower : ∀ x ∈ (Text.replace c (t ++ "_") "").toList, IsLower x := fun x hx =>
    Text.lower_eq_self_iff.1 hc.lower x (hsub x hx)
  change Identifier.bare (Text.lower (Text.replace (joinedName t c) (t ++ "_") "")) = _
  rw [hremoved, Text.lower_eq_self_iff.2 hlower, Identifier.bare_of_not_mem hlower fun hx => hc.unticked (hsub _ hx)]

/-- A column comes back under its own name exactly when the prefix of its side does not occur in it. -/
private theorem ownName_joinedName_eq_iff (hc : Joinable c) :
    ownName t (joinedName t c) = c ↔ Text.contains c (t ++ "_") = false := by
  have hne : (t ++ "_").toList ≠ [] := by simp
  have hreplace : (Text.replace c (t ++ "_") "").toList = Text.replaceFrom (t ++ "_").toList [] 0 c.toList := by
    rw [Text.replace, String.toList_ofList, String.toList_empty, Text.replaceChars, if_neg (by simp)]
  rw [ownName_joinedName hc, Text.contains, ← Bool.not_eq_true, Text.occursIn_iff]
  constructor
  · -- an occurrence that is removed makes the name too short
    intro h hinfix
    have hlt := Text.length_replaceFrom_lt hinfix hne
    have hle := (Text.trim_sublist (Text.replace c (t ++ "_") "").toList).length_le
    rw [← String.toList_ofList (l := Text.trim _), ← Text.strip, h, hreplace] at hle
    omega
  · intro h
    rw [Text.replaceFrom_of_not_infix h, String.toList_inj] at hreplace
    rw [hreplace, hc.trimmed]

/-! ### Both sides together -/

def sideColumns (table : String) (source target : List String) : List String :=
  if table = "src" then source else target

def joinedNames (source target : List String) : List String :=
  source.map (joinedName "src") ++ target.map (joinedName "tgt")

private theorem filter_joinedName_self (t : String) (columns : List String) :
    (columns.map (joinedName t)).filter (fun c => Text.startsWith c (t ++ "_")) = columns.map (joinedName t) := by
  rw [List.filter_eq_self]
  intro name h
  obtain ⟨c, -, rfl⟩ := List.mem_map.1 h
  rw [Text.startsWith, toList_joinedName, List.isPrefixOf_iff_prefix]
  exact List.prefix_append _ _

private theorem filter_joinedName_other {u : String} (ht : t ∈ sides) (hu : u ∈ sides) (hne : t ≠ u)
    (columns : List String) : (columns.map (joinedName u)).filter (fun c => Text.startsWith c (t ++ "_")) = [] := by
  rw [List.filter_eq_nil_iff]
  intro name h
  obtain ⟨c, -, rfl⟩ := List.mem_map.1 h
  rw [Text.startsWith, toList_joinedName, Bool.not_eq_true]
  simp only [sides, List.mem_cons, List.not_mem_nil, or_false] at ht hu
  rcases ht with rfl | rfl <;> rcases hu with rfl | rfl
  · exact absurd rfl hne
  · rfl
  · rfl
  · exact absurd rfl hne

/-- The joined names of one side are found again by their prefix. -/
private theorem filter_joinedNames (ht : t ∈ sides) (source target : List String) :
    (joinedNames source target).filter (fun c => Text.startsWith c (t ++ "_")) =
      (sideColumns t source target).map (joinedName t) := by
  rw [joinedNames, sideColumns, List.filter_append]
  have hcases : t = "src" ∨ t = "tgt" := by simpa [sides] using ht
  rcases hcases with rfl | rfl
  · rw [filter_joinedName_self, filter_joinedName_other ht (by decide) (by decide), List.append_nil, if_pos rfl]
  · rw [filter_joinedName_self, filter_joinedName_other ht (by decide) (by decide), List.nil_append,
      if_neg (by decide)]

/-- Columns of both sides are selected under their joined names, and these are what each side's rows are read from
again.  A column comes back under its name without the prefix of the side, wherever the prefix stands in it, so that
the columns of a side come back under their own names if and only if none of them holds the prefix. -/
theorem columns_return_iff (ht : t ∈ sides) (source target : List String) (hc : ∀ c ∈ source ++ target, Joinable c)
    (frame : Value) :
    (∀ c ∈ sideColumns t source target,
      columnSelector t c = t ++ "." ++ Identifier.ansiOf c ++ " as " ++ backticked (joinedName t c)) ∧
    (ownColumns frame t (joinedNames source target) = do
      let own ← Spark.make frame "select" ((sideColumns t source target).map fun c =>
        Spark.applied (Spark.column (backticked (joinedName t c))) "alias" [ownName t (joinedName t c)])
      Spark.make own "drop" [hashColumn]) ∧
    (∀ c ∈ sideColumns t source target,
      ownName t (joinedName t c) = Text.strip (Text.replace c (t ++ "_") "") ∧
      (ownName t (joinedName t c) = c ↔ Text.contains c (t ++ "_") = false)) ∧
    ((sideColumns t source target).map (fun c => ownName t (joinedName t c)) = sideColumns t source target ↔
      ∀ c ∈ sideColumns t source target, Text.contains c (t ++ "_") = false) := by
  have hside : ∀ c ∈ sideColumns t source target, Joinable c := by
    intro c hmem
    apply hc c
    rw [sideColumns] at hmem
    split at hmem
    · exact List.mem_append_left _ hmem
    · exact List.mem_append_right _ hmem
  refine ⟨fun c hmem => columnSelector_eq ht (hside c hmem), ?_,
    fun c hmem => ⟨ownName_joinedName (hside c hmem), ownName_joinedName_eq_iff (hside c hmem)⟩, ?_⟩
  · have hown : (sideColumns t source target).map (fun c => ownColumn t (joinedName t c)) =
        (sideColumns t source target).map fun c =>
          Spark.applied (Spark.column (backticked (joinedName t c))) "alias" [ownName t (joinedName t c)] := by
      apply List.map_congr_left
      intro c hmem
      rw [ownColumn, (joinable_joinedName ht (hside c hmem)).ansiOf_eq (joinedName_ne_empty t c)]
    rw [ownColumns]
    change Spark.make frame "select" (((joinedNames source target).filter
      fun c => Text.startsWith c (t ++ "_")).map (ownColumn t)) >>= _ = _
    rw [filter_joinedNames ht, List.map_map, Function.comp_def, hown]
  · have hself : (sideColumns t source target).map (fun c => ownName t (joinedName t c)) = sideColumns t source target ↔
        ∀ c ∈ sideColumns t source target, ownName t (joinedName t c) = c := by
      simpa using List.map_inj_left (l := sideColumns t source target) (g := id)
    rw [hself]
    exact forall₂_congr fun c hmem => ownName_joinedName_eq_iff (hside c hmem)

/-- The columns `id` and `price` of a source come back as such. -/
theorem columns_return_plain :
    ["id", "price"].map (fun c => ownName "src" (joinedName "src" c)) = ["id", "price"] := by
  have hc : ∀ c ∈ ["id", "price"] ++ ["id", "price"], Joinable c := by
    simp only [List.cons_append, List.nil_append, List.forall_mem_cons, List.not_mem_nil, false_imp_iff, implies_true,
      and_true]
    exact ⟨⟨by decide, by decide, by decide⟩, ⟨by decide, by decide, by decide⟩, ⟨by decide, by decide, by decide⟩,
      ⟨by decide, by decide, by decide⟩⟩
  exact (columns_return_iff (t := "src") (by decide) _ _ hc .null).2.2.2.2 (by decide)

/-- The columns `x_src_y` and `x_y` of a source come back under one name. -/
theorem columns_clash : Joinable "x_src_y" ∧ Joinable "x_y" ∧
    ["x_src_y", "x_y"].map (fun c => ownName "src" (joinedName "src" c)) = ["x_y", "x_y"] :=
  ⟨⟨by decide, by decide, by decide⟩, ⟨by decide, by decide, by decide⟩, by decide⟩

end WarehouseMigration.Reconcile.Comparison
