import WarehouseMigration.Proofs.FileTree.Places
import WarehouseMigration.Proofs.Session.Exec
import WarehouseMigration.Proofs.Text.Splitting
import WarehouseMigration.Session.Files

/-!
# File operations in a session

A path leads to a place of the file tree (`Path.LeadsTo`), and the names below a folder lead on from there
(`LeadsTo.below`).  Once the place is known, a file operation is the operation on the tree: it looks at the tree
(`exec_inspect`), or it leaves the changed tree or the refusal behind (`exec_change_of_ok`, `exec_change_of_error`).
-/

namespace WarehouseMigration

variable {home : String}

namespace Path

/-- A part of a path that the file system takes. -/
def Fits (part : String) : Prop := '\x00' ∉ part.toList ∧ part.utf8ByteSize ≤ 255

instance (part : String) : Decidable (Fits part) := inferInstanceAs (Decidable (_ ∧ _))

/-- A name that an entry of a folder can have. -/
def IsName (name : String) : Prop := name ∉ ["", ".", ".."] ∧ '/' ∉ name.toList ∧ Fits name

instance (name : String) : Decidable (IsName name) := inferInstanceAs (Decidable (_ ∧ _))

theorem IsName.ne_dots {name : String} (h : IsName name) : name ≠ ".." := by
  rintro rfl
  exact h.1 (by simp)

private theorem anchorOf_of_not_mem {cs : List Char} (h : '/' ∉ cs) : anchorOf cs = "" := by
  unfold anchorOf
  split <;> simp_all

theorem split_of_not_mem {name : String} (h : '/' ∉ name.toList) : Text.split name "/" = [name] := by
  rw [Text.split, show "/".toList = ['/'] from rfl, Text.splitFrom_of_not_mem h]
  simp

/-- A text without slashes spells the path of one part, however long it is. -/
theorem ofString_of_not_mem {name : String} (hnames : name ∉ ["", "."]) (hslash : '/' ∉ name.toList) :
    ofString name = ⟨"", [name]⟩ := by
  rw [ofString, anchorOf_of_not_mem hslash, split_of_not_mem hslash]
  simp_all

private theorem ofString_of_isName {name : String} (h : IsName name) : ofString name = ⟨"", [name]⟩ :=
  ofString_of_not_mem (by simp_all [IsName]) h.2.1

def below (p : Path) (names : List String) : Path := ⟨p.anchor, p.parts ++ names⟩

@[simp] theorem below_nil (p : Path) : p.below [] = p := by
  simp [below]

/-- Names below names are all below the path. -/
theorem below_below (p : Path) (names others : List String) :
    (p.below names).below others = p.below (names ++ others) := by
  simp [below]

theorem parent_below (p : Path) (names : List String) (name : String) :
    (p.below (names ++ [name])).parent = p.below names := by
  rw [parent, below, below, ← List.append_assoc, List.dropLast_concat]

theorem name_below (p : Path) (names : List String) (name : String) : (p.below (names ++ [name])).name = name := by
  simp [Path.name, below]

theorem suffix_below (p : Path) (name : String) : (p.below [name]).suffix = (splitSuffix name).2 := by
  rw [suffix, ← List.nil_append [name], name_below]

theorem child_of_isName {name : String} (h : IsName name) (p : Path) : p.child name = p.below [name] := by
  rw [child, ofString_of_isName h]
  rfl

/-- What lies below a folder is seen from there by the names that lead to it. -/
theorem relativeTo?_below (p : Path) (names : List String) : (p.below names).relativeTo? p = some ⟨"", names⟩ := by
  simp [relativeTo?, below]

/-- Whether a path, seen in the working directory `home`, leads to a place of the file tree. -/
def LeadsTo (home : String) (p : Path) (place : List String) : Prop :=
  (∀ part ∈ p.parts, Fits part) ∧ FileTree.locate home p = some place

instance (home : String) (p : Path) (place : List String) : Decidable (LeadsTo home p place) :=
  inferInstanceAs (Decidable (_ ∧ _))

private theorem collapse_concat {name : String} (h : name ≠ "..") (parts : List String) :
    collapse (parts ++ [name]) = collapse parts ++ [name] := by
  simp only [collapse, List.foldl_append, List.foldl_cons, List.foldl_nil]
  split
  · exact absurd rfl h
  · simp

private theorem collapse_append {names : List String} (h : ∀ name ∈ names, name ≠ "..") (parts : List String) :
    collapse (parts ++ names) = collapse parts ++ names := by
  induction names generalizing parts with
  | nil => simp
  | cons name names ih =>
    have hname := h name List.mem_cons_self
    have hnames := fun n hn => h n (List.mem_cons_of_mem name hn)
    rw [List.append_cons, ih hnames, collapse_concat hname, List.append_assoc, List.singleton_append]

private theorem locate_eq_some_iff {p : Path} {place : List String} : FileTree.locate home p = some place ↔
      (p.anchor = "" ∨ p.anchor = home) ∧ place.head? ≠ some ".." ∧ collapse p.parts = place := by
  simp only [FileTree.locate]
  split <;> simp_all <;> grind

/-- A path leads on by proper names. -/
theorem LeadsTo.below {p : Path} {place names : List String} (h : p.LeadsTo home place)
    (hnames : ∀ name ∈ names, IsName name) : (p.below names).LeadsTo home (place ++ names) := by
  obtain ⟨hshort, hlocate⟩ := h
  obtain ⟨hanchor, hhead, rfl⟩ := locate_eq_some_iff.1 hlocate
  refine ⟨?_, locate_eq_some_iff.2 ⟨hanchor, ?_, collapse_append (fun n hn => (hnames n hn).ne_dots) _⟩⟩
  · intro part hpart
    rcases List.mem_append.1 hpart with hpart | hpart
    · exact hshort part hpart
    · exact (hnames part hpart).2.2
  · rw [List.head?_append]
    cases hplace : (collapse p.parts).head? with
    | some top => simpa [hplace] using hhead
    | none =>
      cases names with
      | nil => simp
      | cons name names => simpa using (hnames name List.mem_cons_self).ne_dots

/-- Whatever leads further leads there first. -/
theorem LeadsTo.of_below {p : Path} {place names : List String} (h : (p.below names).LeadsTo home place)
    (hnames : ∀ name ∈ names, name ≠ "..") : ∃ q, p.LeadsTo home q ∧ place = q ++ names := by
  obtain ⟨hanchor, hhead, hplace⟩ := locate_eq_some_iff.1 h.2
  rw [Path.below, collapse_append hnames] at hplace
  subst hplace
  refine ⟨_, ⟨fun part hpart => h.1 part (List.mem_append_left _ hpart), locate_eq_some_iff.2 ⟨hanchor, ?_, rfl⟩⟩, rfl⟩
  intro hdots
  rw [List.head?_append, hdots] at hhead
  exact hhead rfl

variable {q : List String}

/-- A path leads to one place. -/
theorem LeadsTo.unique {p : Path} {place : List String} (h : p.LeadsTo home place)
    (h' : p.LeadsTo home q) : q = place :=
  Option.some.inj (h'.2.symm.trans h.2)

/-- Whatever stands behind the path of a folder, it leads to an entry of the folder or back. -/
theorem LeadsTo.entry_or_back {name : String} {p : Path} {place : List String} (h : p.LeadsTo home place)
    (hq : (p.below [name]).LeadsTo home q) : q = place ++ [name] ∨ q = place.dropLast := by
  obtain ⟨-, -, rfl⟩ := locate_eq_some_iff.1 h.2
  obtain ⟨-, -, rfl⟩ := locate_eq_some_iff.1 hq.2
  rw [Path.below, collapse, collapse, List.foldl_append]
  simp only [List.foldl_cons, List.foldl_nil]
  split
  case h_1 hstack =>
    rw [hstack]
    split
    · exact .inl (by simp)
    · exact .inr (by simp)
  case h_2 => exact .inl (by simp)

private theorem collapse_back {parts : List String} (h : ".." ∉ collapse parts) :
    collapse (parts ++ [".."]) = if collapse parts = [] then [".."] else (collapse parts).dropLast := by
  simp only [collapse, List.foldl_append, List.foldl_cons, List.foldl_nil, List.reverse_eq_nil_iff] at h ⊢
  -- the names so far, the last one first
  generalize List.foldl _ [] parts = stack at h ⊢
  cases stack with
  | nil => rfl
  | cons top rest =>
    have htop : top ≠ ".." := by
      rintro rfl
      exact h (by simp)
    simp [htop]

theorem LeadsTo.back {p : Path} {place : List String} (h : p.LeadsTo home place)
    (hdots : ".." ∉ place) (hq : (p.below [".."]).LeadsTo home q) : q = place.dropLast := by
  obtain ⟨-, -, rfl⟩ := locate_eq_some_iff.1 h.2
  obtain ⟨-, hhead, hq⟩ := locate_eq_some_iff.1 hq.2
  rw [Path.below, collapse_back hdots] at hq
  split at hq
  · exact absurd (hq ▸ rfl) hhead
  · exact hq.symm

theorem LeadsTo.child {name : String} {p : Path} {place : List String} (h : p.LeadsTo home place)
    (hname : IsName name) : LeadsTo home (p.child name) (place ++ [name]) := by
  rw [child_of_isName hname]
  exact h.below (by simpa using hname)

end Path

namespace Flow

variable {α β : Type} {s : Session} {p : Path} {place : List String}

private theorem not_hasNull (h : p.LeadsTo home place) : ¬ p.hasNull = true := by
  rw [Path.hasNull, Bool.not_eq_true, List.any_eq_false]
  intro part hpart
  simpa using (h.1 part hpart).1

private theorem not_tooLong (h : p.LeadsTo home place) :
    ¬ (p.parts.any fun part => 255 < part.utf8ByteSize) = true := by
  rw [Bool.not_eq_true, List.any_eq_false]
  intro part hpart
  simpa using (h.1 part hpart).2

theorem exec_place (h : p.LeadsTo s.home place) : (Flow.place p).exec s = (.ok place, s) := by
  rw [Flow.place, if_neg (not_hasNull h), if_neg (not_tooLong h), exec_bind_of_ok (exec_get s), h.2]
  rfl

/-- A look at a path is a look at the place it leads to. -/
theorem exec_inspect (h : p.LeadsTo s.home place) (look : FileTree → List String → α) (outside : α) :
    (inspect p look outside).exec s = (.ok (look s.files place), s) := by
  rw [inspect, if_neg (not_hasNull h), if_neg (not_tooLong h), exec_bind_of_ok (exec_get s), h.2]
  rfl

theorem leadsTo_of_exec_place {s' : Session} (h : (Flow.place p).exec s = (.ok place, s')) :
    p.LeadsTo s.home place ∧ s' = s := by
  rw [Flow.place] at h
  by_cases hnull : p.hasNull = true
  · rw [if_pos hnull] at h
    cases h
  rw [if_neg hnull] at h
  by_cases hlong : (p.parts.any fun part => 255 < part.utf8ByteSize) = true
  · rw [if_pos hlong] at h
    cases h
  rw [if_neg hlong, exec_bind_of_ok (exec_get s)] at h
  cases hlocate : FileTree.locate s.home p with
  | none =>
    rw [hlocate] at h
    cases h
  | some q =>
    rw [hlocate] at h
    cases h
    refine ⟨⟨fun part hpart => ⟨?_, ?_⟩, hlocate⟩, rfl⟩
    · simpa using List.any_eq_false.1 (Bool.eq_false_iff.2 hnull) part hpart
    · simpa using List.any_eq_false.1 (Bool.eq_false_iff.2 hlong) part hpart

section Change

variable {act : FileTree → List String → Except FileFault FileTree}

/-- A change that is possible is made. -/
theorem exec_change_of_ok {t : FileTree} (h : p.LeadsTo s.home place) (hact : act s.files place = .ok t) :
    (change p act).exec s = (.ok (), { s with files := t }) := by
  rw [change, exec_bind_of_ok (exec_place h), exec_bind_of_ok (exec_get s), hact]
  rfl

/-- A change that is refused leaves everything as it is. -/
theorem exec_change_of_error {fault : FileFault} (h : p.LeadsTo s.home place)
    (hact : act s.files place = .error fault) :
    (change p act).exec s = (.error (.file fault p.toString), s) := by
  rw [change, exec_bind_of_ok (exec_place h), exec_bind_of_ok (exec_get s), hact]
  rfl

/-- A change that was made was possible. -/
theorem exists_of_exec_change {u : Unit} {s' : Session} (h : (change p act).exec s = (.ok u, s')) :
    ∃ place t, p.LeadsTo s.home place ∧ act s.files place = .ok t ∧ s' = { s with files := t } := by
  obtain ⟨place, s₁, hplace, -⟩ := exists_of_exec_bind h
  obtain ⟨hleads, -⟩ := leadsTo_of_exec_place hplace
  cases hact : act s.files place with
  | error fault =>
    rw [exec_change_of_error hleads hact] at h
    cases h
  | ok t =>
    rw [exec_change_of_ok hleads hact] at h
    exact ⟨place, t, hleads, hact, (Prod.mk.inj h).2.symm⟩

end Change

/-- Folders are made as in the tree. -/
theorem exec_makeDirectories {t : FileTree} (h : p.LeadsTo s.home place)
    (hmake : s.files.makeDirectories place = .ok t) :
    (makeDirectories p).exec s = (.ok (), { s with files := t }) :=
  exec_change_of_ok h hmake

theorem exec_makeDirectory {existing : Bool} {t : FileTree} (h : p.LeadsTo s.home place)
    (hmake : s.files.makeDirectory place existing = .ok t) :
    (makeDirectory p existing).exec s = (.ok (), { s with files := t }) :=
  exec_change_of_ok h hmake

theorem exec_makeDirectory_of_error {existing : Bool} {fault : FileFault} (h : p.LeadsTo s.home place)
    (hmake : s.files.makeDirectory place existing = .error fault) :
    (makeDirectory p existing).exec s = (.error (.file fault p.toString), s) :=
  exec_change_of_error h hmake

/-- A text is written as in the tree. -/
theorem exec_writeText {text : String} {t : FileTree} (h : p.LeadsTo s.home place)
    (hwrite : s.files.write place (.text text) = .ok t) :
    (writeText p text).exec s = (.ok (), { s with files := t }) :=
  exec_change_of_ok h hwrite

/-- What is there can be removed. -/
theorem exec_removeTree (h : p.LeadsTo s.home place) (hholds : s.files.holds place = true) :
    (removeTree p).exec s = (.ok (), { s with files := s.files.remove place }) :=
  exec_change_of_ok h (by rw [if_pos hholds]; rfl)

theorem exec_pathExists (h : p.LeadsTo s.home place) : (pathExists p).exec s = (.ok (s.files.holds place), s) :=
  exec_inspect h _ _

/-- A file is read as it stands in the tree. -/
theorem exec_readText {text : String} (h : p.LeadsTo s.home place)
    (htext : s.files.find? place = some (.file (.text text))) :
    (readText p).exec s = (.ok text, s) := by
  have hread : s.files.read place = .ok (.text text) := by
    rw [FileTree.read, htext]
    rfl
  have hcontent : (readContent p).exec s = (.ok (.text text), s) := by
    rw [readContent, exec_bind_of_ok (exec_get s), exec_bind_of_ok (exec_place h), hread]
    rfl
  rw [readText, exec_bind_of_ok hcontent]
  rfl

theorem exec_listDirectory (h : p.LeadsTo s.home place) (hdir : s.files.isDirectory place = true) :
    (listDirectory p).exec s = (.ok ((s.files.names place).map fun name => p.below [name]), s) := by
  rw [listDirectory, exec_bind_of_ok (exec_place h), exec_bind_of_ok (exec_get s)]
  simp only [FileTree.isDirectory_iff.1 hdir, exec_pure, Path.below]

/-- A move of paths is a move of the places they lead to. -/
theorem exec_rename {source target : Path} {origin goal : List String} {t : FileTree}
    (hsource : source.LeadsTo s.home origin) (htarget : target.LeadsTo s.home goal)
    (hrename : s.files.rename origin goal = .ok t) :
    (Flow.rename source target).exec s = (.ok (), { s with files := t }) := by
  rw [Flow.rename, exec_bind_of_ok (exec_place htarget)]
  exact exec_change_of_ok hsource hrename

private theorem exec_filterAuxM {test : β → Flow Bool} {f : α → β} {keep : α → Bool} (items : List α) (acc : List β)
    (h : ∀ a ∈ items, (test (f a)).exec s = (.ok (keep a), s)) :
    ((items.map f).filterAuxM test acc).exec s = (.ok (((items.filter keep).map f).reverse ++ acc), s) := by
  induction items generalizing acc with
  | nil => simp [List.filterAuxM]
  | cons a items ih =>
    rw [List.map_cons, List.filterAuxM, exec_bind_of_ok (h a List.mem_cons_self),
      ih _ fun b hb => h b (List.mem_cons_of_mem a hb)]
    cases hkeep : keep a <;> simp [hkeep]

theorem exec_filterM {test : β → Flow Bool} {f : α → β} {keep : α → Bool} {items : List α}
    (h : ∀ a ∈ items, (test (f a)).exec s = (.ok (keep a), s)) :
    ((items.map f).filterM test).exec s = (.ok ((items.filter keep).map f), s) := by
  rw [List.filterM, exec_bind_of_ok (exec_filterAuxM items [] h)]
  simp

end Flow

/-! ### Looking into a folder -/

/-- Two sessions with the same working directory and the same entries from a folder down. -/
structure Session.SameBelow (folder : List String) (s t : Session) : Prop where
  home : t.home = s.home
  kept : ∀ place, folder <+: place → t.files.find? place = s.files.find? place
  names : ∀ place, folder <+: place → t.files.names place = s.files.names place

namespace Session.SameBelow

variable {folder : List String} {s t : Session} (h : SameBelow folder s t)

include h

theorem isDirectory {place : List String} (hplace : folder <+: place) :
    t.files.isDirectory place = s.files.isDirectory place := by
  rw [FileTree.isDirectory, h.kept place hplace, FileTree.isDirectory]

variable {p : Path} (hleads : p.LeadsTo s.home folder) {file : List String} (hnames : ∀ name ∈ file, Path.IsName name)

include hleads hnames

/-- A look into the folder shows in one session what it shows in the other. -/
theorem exec_isDirectory :
    (Flow.isDirectory (p.below file)).exec t = (.ok (s.files.isDirectory (folder ++ file)), t) := by
  have hfile := h.home ▸ hleads.below hnames
  rw [Flow.isDirectory, Flow.exec_inspect hfile, h.isDirectory (List.prefix_append ..)]

theorem exec_isFile : (Flow.isFile (p.below file)).exec t = (.ok (s.files.isFile (folder ++ file)), t) := by
  have hfile := h.home ▸ hleads.below hnames
  rw [Flow.isFile, Flow.exec_inspect hfile, FileTree.isFile, h.kept _ (List.prefix_append ..)]
  rfl

theorem exec_listDirectory (hdir : s.files.isDirectory (folder ++ file) = true) :
    (Flow.listDirectory (p.below file)).exec t =
      (.ok ((s.files.names (folder ++ file)).map fun name => p.below (file ++ [name])), t) := by
  have hfile := h.home ▸ hleads.below hnames
  rw [← h.isDirectory (List.prefix_append ..)] at hdir
  rw [Flow.exec_listDirectory hfile hdir, h.names _ (List.prefix_append ..)]
  simp only [Path.below_below]

end Session.SameBelow

end WarehouseMigration
