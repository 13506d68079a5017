import Mathlib.Data.List.Perm.Lattice
import WarehouseMigration.Proofs.FileTree.WellFormed

/-!
# Walking through a file tree

A walk through a tree comes upon the entries of a folder before it goes on with the folders in it (`walkFrom`).  If it
may go deep enough, it comes upon every place that it is to keep (`mem_walk_iff`), and upon none of them twice
(`nodup_walk`); so a walk that keeps the files comes upon as many places as there are files (`length_walk_isFile`).
How deep it may go does not matter as long as no folder lies so deep (`walkFrom_eq_walk`).
-/

namespace WarehouseMigration.FileTree

variable {t : FileTree} {keep : List String → Bool} {place file : List String}

/-! ### Subtrees -/

section Cons

variable {k : List String} {v : Entry} {entries : List (List String × Entry)}

theorem below_cons_of_below {rest : List String} (h : rest ≠ []) :
    below ⟨(place ++ rest, v) :: entries⟩ place = ⟨(rest, v) :: (below ⟨entries⟩ place).entries⟩ := by
  rw [below, below, List.filterMap_cons_some]
  simp [List.isPrefixOf_iff_prefix, h]

theorem below_cons_of_not_below (h : ∀ rest, rest ≠ [] → k ≠ place ++ rest) :
    below ⟨(k, v) :: entries⟩ place = below ⟨entries⟩ place := by
  rw [below, below, List.filterMap_cons_none]
  have hk : (place.isPrefixOf k && k != place) = false := by
    rw [Bool.eq_false_iff]
    intro hk
    obtain ⟨⟨rest, rfl⟩, hne⟩ : place <+: k ∧ k ≠ place := by simpa [List.isPrefixOf_iff_prefix] using hk
    exact h rest (by simpa using hne) rfl
  simp [hk]

private theorem names_cons_of_child (name : String) :
    names ⟨(place ++ [name], v) :: entries⟩ place = name :: names ⟨entries⟩ place := by
  rw [names, names, List.filterMap_cons_some]
  simp

private theorem names_cons_of_not_child (h : ∀ name, k ≠ place ++ [name]) :
    names ⟨(k, v) :: entries⟩ place = names ⟨entries⟩ place := by
  rw [names, names, List.filterMap_cons_none]
  have hk : ¬ (k != [] && k.dropLast == place) = true := by
    intro hk
    obtain ⟨hne, rfl⟩ : k ≠ [] ∧ k.dropLast = place := by simpa using hk
    exact h (k.getLast hne) (List.dropLast_concat_getLast hne).symm
  simp only [if_neg hk]

/-- An entry lies below a place or it does not. -/
theorem below_or_not_below (place k : List String) :
    (∃ rest, rest ≠ [] ∧ k = place ++ rest) ∨ ∀ rest, rest ≠ [] → k ≠ place ++ rest := by
  by_cases h : ∃ rest, rest ≠ [] ∧ k = place ++ rest
  · exact .inl h
  · exact .inr fun rest hrest heq => h ⟨rest, hrest, heq⟩

end Cons

/-- What lies below a place is found there. -/
theorem find?_below (h : file ≠ []) : (t.below place).find? file = t.find? (place ++ file) := by
  rw [find?_of_ne_nil h, find?_of_ne_nil (by simp [h])]
  obtain ⟨entries⟩ := t
  induction entries with
  | nil => rfl
  | cons e entries ih =>
    obtain ⟨k, v⟩ := e
    rcases below_or_not_below place k with ⟨rest, hrest, rfl⟩ | hk
    · have hkey : (place ++ file == place ++ rest) = (file == rest) := by
        rw [Bool.eq_iff_iff]
        simp
      rw [below_cons_of_below hrest, List.lookup_cons, List.lookup_cons, hkey, ih]
    · have hkey : (place ++ file == k) = false := beq_eq_false_iff_ne.2 (hk file h).symm
      rw [below_cons_of_not_below hk, List.lookup_cons, hkey, ih]

private theorem names_below (folder : List String) : (t.below place).names folder = t.names (place ++ folder) := by
  obtain ⟨entries⟩ := t
  induction entries with
  | nil => rfl
  | cons e entries ih =>
    obtain ⟨k, v⟩ := e
    rcases below_or_not_below place k with ⟨rest, hrest, rfl⟩ | hk
    · rw [below_cons_of_below hrest]
      by_cases hchild : ∃ name, rest = folder ++ [name]
      · obtain ⟨name, rfl⟩ := hchild
        rw [names_cons_of_child, ← List.append_assoc, names_cons_of_child, ← ih]
      · have hrest' : ∀ name, rest ≠ folder ++ [name] := fun name heq => hchild ⟨name, heq⟩
        rw [names_cons_of_not_child hrest', names_cons_of_not_child, ← ih]
        simpa using hrest'
    · rw [below_cons_of_not_below hk, ih, names_cons_of_not_child]
      intro name
      rw [List.append_assoc]
      exact hk _ (by simp)

theorem mem_entries_below {entry : Entry} :
    (file, entry) ∈ (t.below place).entries ↔ file ≠ [] ∧ (place ++ file, entry) ∈ t.entries := by
  obtain ⟨entries⟩ := t
  induction entries with
  | nil => simp [below]
  | cons e entries ih =>
    obtain ⟨k, v⟩ := e
    rcases below_or_not_below place k with ⟨rest, hrest, rfl⟩ | hk
    · rw [below_cons_of_below hrest, List.mem_cons, List.mem_cons, ih]
      simp only [Prod.mk.injEq, List.append_cancel_left_eq]
      constructor
      · rintro (⟨rfl, rfl⟩ | ⟨hne, hmem⟩)
        · exact ⟨hrest, .inl ⟨rfl, rfl⟩⟩
        · exact ⟨hne, .inr hmem⟩
      · rintro ⟨hne, heq | hmem⟩
        · exact .inl heq
        · exact .inr ⟨hne, hmem⟩
    · rw [below_cons_of_not_below hk, ih, List.mem_cons]
      refine and_congr_right fun hne => ?_
      rw [or_iff_right fun heq => hk file hne (Prod.mk.inj heq).1.symm]

def Distinct (t : FileTree) : Prop := (t.entries.map Prod.fst).Nodup

instance (t : FileTree) : Decidable t.Distinct := inferInstanceAs (Decidable (List.Nodup _))

theorem WellFormed.below (ht : t.WellFormed) (place : List String) : (t.below place).WellFormed where
  named := by
    rintro ⟨file, entry⟩ hmem
    obtain ⟨hne, hmem⟩ := mem_entries_below.1 hmem
    exact ⟨hne, fun name hname => (ht.named _ hmem).2 name (List.mem_append_right _ hname)⟩
  parents := by
    rintro ⟨file, entry⟩ hmem
    obtain ⟨hne, hmem⟩ := mem_entries_below.1 hmem
    by_cases hnil : file.dropLast = []
    · simp only [hnil]
      rfl
    · have hparent := ht.parents _ hmem
      rw [isDirectory_iff] at hparent ⊢
      rwa [find?_below hnil, ← List.dropLast_append_of_ne_nil hne]

theorem Distinct.below (ht : t.Distinct) (place : List String) : (t.below place).Distinct := by
  unfold Distinct at ht ⊢
  obtain ⟨entries⟩ := t
  induction entries with
  | nil => simp [FileTree.below]
  | cons e entries ih =>
    obtain ⟨k, v⟩ := e
    rw [List.map_cons, List.nodup_cons] at ht
    rcases below_or_not_below place k with ⟨rest, hrest, rfl⟩ | hk
    · rw [below_cons_of_below hrest, List.map_cons, List.nodup_cons]
      refine ⟨fun hmem => ht.1 ?_, ih ht.2⟩
      obtain ⟨⟨file, entry⟩, hfile, rfl⟩ := List.mem_map.1 hmem
      exact List.mem_map.2 ⟨_, (mem_entries_below.1 hfile).2, rfl⟩
    · rw [below_cons_of_not_below hk]
      exact ih ht.2

private theorem Distinct.nodup_names (ht : t.Distinct) (place : List String) : (t.names place).Nodup := by
  unfold Distinct at ht
  obtain ⟨entries⟩ := t
  induction entries with
  | nil => exact List.nodup_nil
  | cons e entries ih =>
    obtain ⟨k, v⟩ := e
    rw [List.map_cons, List.nodup_cons] at ht
    by_cases hchild : ∃ name, k = place ++ [name]
    · obtain ⟨name, rfl⟩ := hchild
      rw [names_cons_of_child, List.nodup_cons]
      refine ⟨fun hmem => ht.1 ?_, ih ht.2⟩
      obtain ⟨entry, hentry⟩ := mem_names.1 hmem
      exact List.mem_map.2 ⟨_, hentry, rfl⟩
    · rw [names_cons_of_not_child fun name heq => hchild ⟨name, heq⟩]
      exact ih ht.2

/-! ### Walks -/

/-- The places to keep that a walk comes upon from a folder down: first those in the folder itself, then those in each
of its folders. -/
def walkFrom (t : FileTree) (keep : List String → Bool) : Nat → List String → List (List String)
  | 0, _ => []
  | depth + 1, place =>
    ((t.names place).map fun name => place ++ [name]).filter keep ++
      ((t.names place).filter fun name => t.isDirectory (place ++ [name])).flatMap fun name =>
        t.walkFrom keep depth (place ++ [name])

/-- A walk goes through the names in a folder, and then into its folders. -/
theorem walkFrom_below (depth : Nat) (folder : List String) : (t.below place).walkFrom keep (depth + 1) folder =
      ((t.names (place ++ folder)).map fun name => folder ++ [name]).filter keep ++
        ((t.names (place ++ folder)).filter fun name => t.isDirectory (place ++ (folder ++ [name]))).flatMap fun name =>
          (t.below place).walkFrom keep depth (folder ++ [name]) := by
  have hdir : ∀ name, (t.below place).isDirectory (folder ++ [name]) = t.isDirectory (place ++ (folder ++ [name])) := by
    intro name
    rw [isDirectory, find?_below (by simp), isDirectory]
  rw [walkFrom, names_below]
  simp only [hdir]

def walk (t : FileTree) (keep : List String → Bool) : List (List String) := t.walkFrom keep (t.entries.length + 1) []

variable {depth : Nat}

private theorem exists_of_mem_walkFrom (h : file ∈ t.walkFrom keep depth place) :
    (∃ rest, rest ≠ [] ∧ file = place ++ rest) ∧ (∃ entry, (file, entry) ∈ t.entries) ∧ keep file = true := by
  induction depth generalizing place with
  | zero => cases h
  | succ depth ih =>
    rw [walkFrom] at h
    rcases List.mem_append.1 h with h | h
    · obtain ⟨hmem, hkeep⟩ := List.mem_filter.1 h
      obtain ⟨name, hname, rfl⟩ := List.mem_map.1 hmem
      exact ⟨⟨[name], by simp, rfl⟩, mem_names.1 hname, hkeep⟩
    · obtain ⟨name, -, hmem⟩ := List.mem_flatMap.1 h
      obtain ⟨⟨rest, -, rfl⟩, hfile⟩ := ih hmem
      exact ⟨⟨name :: rest, by simp, by simp⟩, hfile⟩

/-- A walk that may go deep enough comes upon every place that it is to keep. -/
private theorem mem_walkFrom (ht : t.WellFormed) {rest : List String} (hrest : rest ≠ [])
    (hdepth : rest.length ≤ depth) (hholds : t.holds (place ++ rest) = true) (hkeep : keep (place ++ rest) = true) :
    place ++ rest ∈ t.walkFrom keep depth place := by
  induction depth generalizing place rest with
  | zero => simp_all
  | succ depth ih =>
    obtain ⟨name, rest, rfl⟩ := List.exists_cons_of_ne_nil hrest
    have hname : name ∈ t.names place := mem_names_of_holds (ht.holds_above hholds ⟨rest, by simp⟩)
    rw [walkFrom, List.mem_append]
    by_cases hnil : rest = []
    · subst hnil
      exact .inl (List.mem_filter.2 ⟨List.mem_map.2 ⟨name, hname, rfl⟩, hkeep⟩)
    · rw [List.append_cons] at hholds hkeep ⊢
      have hdir := ht.isDirectory_above hholds (List.prefix_append ..) (by simpa using hnil)
      refine .inr (List.mem_flatMap.2 ⟨name, List.mem_filter.2 ⟨hname, hdir⟩, ih hnil ?_ hholds hkeep⟩)
      simpa using hdepth

private theorem nodup_walkFrom (ht : t.Distinct) (depth : Nat) : (t.walkFrom keep depth place).Nodup := by
  induction depth generalizing place with
  | zero => exact List.nodup_nil
  | succ depth ih =>
    have hnames := ht.nodup_names place
    rw [walkFrom, List.nodup_append]
    refine ⟨?_, ?_, ?_⟩
    · refine List.Pairwise.filter _ (List.Pairwise.map _ (fun a b hne heq => hne ?_) hnames)
      simpa using heq
    · refine List.nodup_flatMap.2 ⟨fun name _ => ih, ?_⟩
      refine List.Pairwise.imp (fun {a b} hne => ?_) (List.Pairwise.filter _ hnames)
      -- what lies below one folder does not lie below another one
      intro file hfile hother
      obtain ⟨⟨rest, -, rfl⟩, -⟩ := exists_of_mem_walkFrom hfile
      obtain ⟨⟨rest', -, heq⟩, -⟩ := exists_of_mem_walkFrom hother
      simp at heq
      exact hne heq.1
    · intro file hfile other hother heq
      subst heq
      obtain ⟨hmem, -⟩ := List.mem_filter.1 hfile
      obtain ⟨name, -, rfl⟩ := List.mem_map.1 hmem
      obtain ⟨name', -, hmem⟩ := List.mem_flatMap.1 hother
      obtain ⟨⟨rest, hrest, heq⟩, -⟩ := exists_of_mem_walkFrom hmem
      simp [hrest] at heq

/-- How deep a walk may go does not matter if no folder lies so deep. -/
private theorem walkFrom_add (ht : t.WellFormed)
    (hdeep : ∀ rest, rest.length = depth → t.isDirectory (place ++ rest) = false) (more : Nat) :
    t.walkFrom keep (depth + more) place = t.walkFrom keep depth place := by
  induction depth generalizing place with
  | zero =>
    have hnames : t.names place = [] := by
      refine List.eq_nil_iff_forall_not_mem.2 fun name hname => ?_
      obtain ⟨entry, hentry⟩ := mem_names.1 hname
      have hparent := ht.parents _ hentry
      have hplace := hdeep [] rfl
      rw [List.dropLast_concat] at hparent
      rw [List.append_nil, hparent] at hplace
      cases hplace
    rw [Nat.zero_add]
    cases more with
    | zero => rfl
    | succ more => simp [walkFrom, hnames]
  | succ depth ih =>
    rw [Nat.add_right_comm, walkFrom, walkFrom]
    congr 1
    refine List.flatMap_congr fun name _ => ih fun rest hrest => ?_
    rw [← List.append_cons]
    exact hdeep (name :: rest) (by simp [hrest])

/-- No folder lies deeper than there are entries. -/
theorem WellFormed.length_le_of_isDirectory (ht : t.WellFormed) (h : t.isDirectory place = true) :
    place.length ≤ t.entries.length :=
  length_le_entries fun _ hq => ht.holds_above (holds_of_isDirectory h) hq

/-- A walk that may go deeper than any folder lies is a walk through the whole tree. -/
theorem walkFrom_eq_walk (ht : t.WellFormed) (hdepth : ∀ place, t.isDirectory place = true → place.length < depth) :
    t.walkFrom keep depth [] = t.walk keep := by
  have hdeep : ∀ rest : List String, rest.length = depth → t.isDirectory ([] ++ rest) = false := by
    intro rest hrest
    rw [List.nil_append, Bool.eq_false_iff]
    intro hdir
    exact Nat.lt_irrefl _ (hrest ▸ hdepth rest hdir)
  have hdeep' : ∀ rest : List String, rest.length = t.entries.length + 1 → t.isDirectory ([] ++ rest) = false := by
    intro rest hrest
    rw [List.nil_append, Bool.eq_false_iff]
    intro hdir
    have hle := ht.length_le_of_isDirectory hdir
    omega
  rcases Nat.le_total depth (t.entries.length + 1) with hle | hle
  · obtain ⟨more, hmore⟩ := Nat.exists_eq_add_of_le hle
    rw [walk, hmore, walkFrom_add ht hdeep]
  · obtain ⟨more, rfl⟩ := Nat.exists_eq_add_of_le hle
    rw [walk, walkFrom_add ht hdeep']

/-- A walk comes to no file twice. -/
theorem nodup_walk (ht : t.Distinct) : (t.walk keep).Nodup := nodup_walkFrom ht _

/-- A walk comes upon exactly the places that it is to keep. -/
theorem mem_walk_iff (ht : t.WellFormed) :
    file ∈ t.walk keep ↔ (∃ entry, (file, entry) ∈ t.entries) ∧ keep file = true := by
  constructor
  · intro h
    exact (exists_of_mem_walkFrom h).2
  · rintro ⟨⟨entry, hentry⟩, hkeep⟩
    have hne := (ht.named _ hentry).1
    have hholds : t.holds file = true := by
      rw [holds, find?_of_ne_nil hne, List.lookup_isSome_iff]
      exact ⟨_, hentry, by simp⟩
    have hlength : file.length ≤ t.entries.length := length_le_entries fun q hq => ht.holds_above hholds hq
    have hmem : [] ++ file ∈ t.walkFrom keep (t.entries.length + 1) [] :=
      mem_walkFrom ht hne (Nat.le_succ_of_le hlength) hholds hkeep
    exact hmem

/-- A walk that keeps the files comes upon as many places as there are files. -/
theorem length_walk_isFile (ht : t.WellFormed) (hdistinct : t.Distinct) :
    (t.walk t.isFile).length = t.entries.countP fun e => !e.2.isDirectory := by
  have hperm : (t.walk t.isFile).Perm ((t.entries.filter fun e => !e.2.isDirectory).map Prod.fst) := by
    refine (List.perm_ext_iff_of_nodup (nodup_walk hdistinct) ?_).2 fun file => ?_
    · exact hdistinct.sublist (List.Sublist.map _ List.filter_sublist)
    · rw [mem_walk_iff ht, List.mem_map]
      constructor
      · rintro ⟨⟨entry, hentry⟩, hfile⟩
        obtain ⟨content, hcontent⟩ := isFile_iff.1 hfile
        have hmem := mem_of_find? (ht.named _ hentry).1 hcontent
        exact ⟨_, List.mem_filter.2 ⟨hmem, rfl⟩, rfl⟩
      · rintro ⟨⟨file, entry⟩, hmem, rfl⟩
        obtain ⟨hentry, hkind⟩ := List.mem_filter.1 hmem
        have hfind := (Sequence.mem_iff_lookup hdistinct).1 hentry
        rw [← find?_of_ne_nil (ht.named _ hentry).1] at hfind
        refine ⟨⟨entry, hentry⟩, ?_⟩
        cases entry with
        | directory => cases hkind
        | file content => exact isFile_iff.2 ⟨content, hfind⟩
  rw [hperm.length_eq, List.length_map, List.countP_eq_length_filter]

end WarehouseMigration.FileTree
