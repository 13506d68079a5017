import WarehouseMigration.Proofs.Session.Reads
import WarehouseMigration.Proofs.Transpiler.Attempts

/-!
# Versions of local artifacts

An artifact that is named for its product and a version of numbers joined by dots tells exactly this version
(`version_of_named`): no mark of the product's name stands before a digit, so the search passes over it, and what the
search takes too much of a wheel's name, `-py3`, is cut off.  An installation that succeeds notes the version it was
given, whatever its task did before (`noted_of_exec_installVersion`); so installing the same artifact again does
nothing (`install_local_settles`).
-/

namespace WarehouseMigration

namespace Text

/-! ### Decimal digits -/

/-- Whether ten code points from each zero on lie inside one run; `start` is where the first gap begins. -/
def tensWithin (start : Nat) : List Nat → List Nat → Bool
  | gap :: run :: rest, zeros =>
    ((zeros.takeWhile (· < start + gap + run)).all fun first =>
      start + gap ≤ first && first + 10 ≤ start + gap + run) &&
      tensWithin (start + gap + run) rest (zeros.dropWhile (· < start + gap + run))
  | _, zeros => zeros.isEmpty

private theorem inRuns_of_tensWithin {start : Nat} {runs zeros : List Nat} (h : tensWithin start runs zeros = true)
    {first n : Nat} (hfirst : first ∈ zeros) (hfrom : first ≤ n) (hto : n < first + 10) :
    start ≤ n ∧ inRuns (n - start) runs = true := by
  fun_induction tensWithin start runs zeros with
  | case1 start gap run rest zeros ih =>
    rw [Bool.and_eq_true, List.all_eq_true] at h
    rw [← List.takeWhile_append_dropWhile (p := (· < start + gap + run)) (l := zeros), List.mem_append] at hfirst
    rcases hfirst with hfirst | hfirst
    · have hbounds := h.1 first hfirst
      simp only [Bool.and_eq_true, decide_eq_true_eq] at hbounds
      simp only [inRuns, Bool.and_eq_true, Bool.or_eq_true, decide_eq_true_eq]
      omega
    · obtain ⟨hstart, hruns⟩ := ih h.2 hfirst
      have hrest : n - start - gap - run = n - (start + gap + run) := by omega
      refine ⟨by omega, ?_⟩
      simp only [inRuns, hrest, hruns, Bool.or_true, Bool.and_true, decide_eq_true_eq]
      omega
  | case2 start zeros => simp_all

private theorem tensWithin_wordRuns : tensWithin 0 wordRuns decimalZeros = true := by decide +kernel

private theorem isWord_of_isDecimal {c : Char} (h : isDecimal c = true) : isWord c = true := by
  unfold isDecimal digitValue? at h
  split at h
  case isTrue hascii =>
    have hdigit : c.isDigit = true := by simpa [Option.isSome_iff_exists] using h
    rw [isWord, if_pos hascii, show c.isAlphanum = true from (congrArg (c.isAlpha || ·) hdigit).trans (Bool.or_true _)]
    rfl
  case isFalse hascii =>
    rw [Option.isSome_map, List.find?_isSome] at h
    obtain ⟨first, hmem, hbounds⟩ := h
    simp only [Bool.and_eq_true, decide_eq_true_eq] at hbounds
    rw [isWord, if_neg hascii]
    exact (inRuns_of_tensWithin tensWithin_wordRuns hmem hbounds.1 hbounds.2).2

end Text

namespace Transpiler.Artifact

open Text (isDecimal isWord)

/-! ### Reading a version -/

/-- A text of one digit at least. -/
def IsNumber (cs : List Char) : Prop := cs ≠ [] ∧ ∀ c ∈ cs, isDecimal c = true

/-- No hyphen and no underscore stands directly before a digit. -/
def Unnumbered (cs : List Char) : Prop :=
  ∀ before mark digit after, cs = before ++ mark :: digit :: after → mark = '-' ∨ mark = '_' → isDecimal digit = false

variable {cs word rest tail : List Char} {numbers : List (List Char)}

private theorem IsNumber.isWord (h : IsNumber cs) : ∀ c ∈ cs, isWord c = true := fun c hc => Text.isWord_of_isDecimal
    (h.2 c hc)

/-- A text goes as far as its characters are of a class. -/
private theorem takeWhile_dropWhile_append {kind : Char → Bool} (h : ∀ c ∈ cs, kind c = true)
    (hrest : ∀ c, rest.head? = some c → kind c = false) :
    (cs ++ rest).takeWhile kind = cs ∧ (cs ++ rest).dropWhile kind = rest := by
  rw [List.takeWhile_append_of_pos h, List.dropWhile_append_of_pos h]
  cases rest with
  | nil => simp
  | cons c rest => simp [hrest c rfl]

section Part

variable {mark : Char} (hmark : (mark = '.' || mark = '-' || mark = '_') = true) (hword : ∀ c ∈ word, isWord c = true)
  (hlast : ∃ digit, word.getLast? = some digit ∧ isDecimal digit = true)
  (hrest : ∀ c, rest.head? = some c → isWord c = false)

include hmark hword hlast hrest

/-- A part reaches to the last digit of a word. -/
private theorem readPart_append : readPart (mark :: (word ++ rest)) = some (mark :: word, rest) := by
  obtain ⟨digit, hdigit, hdecimal⟩ := hlast
  obtain ⟨front, rfl⟩ := List.getLast?_eq_some_iff.1 hdigit
  rw [readPart]
  simp only [(takeWhile_dropWhile_append hword hrest).1, hmark]
  simp [hdecimal]

private theorem readParts_succ (fuel : Nat) :
    readParts (fuel + 1) (mark :: (word ++ rest)) = mark :: word ++ readParts fuel rest := by
  rw [readParts, readPart_append hmark hword hlast hrest]

end Part

def dotted (numbers : List (List Char)) : List Char := numbers.flatMap ('.' :: ·)

private theorem length_dotted (hnumbers : ∀ number ∈ numbers, IsNumber number) :
    2 * numbers.length ≤ (dotted numbers).length := by
  induction numbers with
  | nil => simp
  | cons number numbers ih =>
    obtain ⟨hnumber, hnumbers⟩ := List.forall_mem_cons.1 hnumbers
    have hpos := List.length_pos_iff.2 hnumber.1
    have hrest := ih hnumbers
    simp only [dotted, List.flatMap_cons, List.length_append, List.length_cons] at hrest ⊢
    omega

private theorem head?_dotted_append (htail : ∀ c, tail.head? = some c → isWord c = false) {c : Char}
    (h : (dotted numbers ++ tail).head? = some c) : isWord c = false := by
  cases numbers with
  | nil => exact htail c h
  | cons number numbers =>
    obtain rfl : '.' = c := by simpa [dotted] using h
    decide

private theorem IsNumber.last (h : IsNumber cs) : ∃ digit, cs.getLast? = some digit ∧ isDecimal digit = true := by
  obtain ⟨digit, hdigit⟩ := Option.isSome_iff_exists.1 (List.getLast?_isSome.2 h.1)
  exact ⟨digit, hdigit, h.2 digit (List.mem_of_getLast? hdigit)⟩

private theorem readParts_dotted (hnumbers : ∀ number ∈ numbers, IsNumber number)
    (htail : ∀ c, tail.head? = some c → isWord c = false) (fuel : Nat) :
    readParts (fuel + numbers.length) (dotted numbers ++ tail) = dotted numbers ++ readParts fuel tail := by
  induction numbers with
  | nil => rfl
  | cons number numbers ih =>
    obtain ⟨hnumber, hnumbers⟩ := List.forall_mem_cons.1 hnumbers
    have hsplit : dotted (number :: numbers) ++ tail = '.' :: (number ++ (dotted numbers ++ tail)) := by simp [dotted]
    rw [hsplit, List.length_cons, ← Nat.add_assoc, readParts_succ (by decide) hnumber.isWord hnumber.last
      (fun c => head?_dotted_append htail), ih hnumbers]
    simp [dotted]

/-- The version goes on as long as parts follow: through all numbers, and into what stands behind them. -/
private theorem versionHere_dotted {number extra : List Char} (hnumber : IsNumber number)
    (hnumbers : ∀ number ∈ numbers, IsNumber number) (hne : numbers ≠ [])
    (htail : ∀ c, tail.head? = some c → isWord c = false) (hextra : ∀ fuel, readParts (fuel + 2) tail = extra) :
    versionHere (number ++ (dotted numbers ++ tail)) = some (number ++ (dotted numbers ++ extra)) := by
  have hdot : ∀ c, (dotted numbers ++ tail).head? = some c → isDecimal c = false := by
    intro c hc
    rw [Bool.eq_false_iff]
    intro hdecimal
    have hword := head?_dotted_append htail hc
    rw [Text.isWord_of_isDecimal hdecimal] at hword
    cases hword
  obtain ⟨htake, hdrop⟩ := takeWhile_dropWhile_append hnumber.2 hdot
  -- each number takes two characters at least, so that enough steps are left behind them
  obtain ⟨fuel, hfuel⟩ : ∃ fuel, (number ++ (dotted numbers ++ tail)).length = fuel + 2 + numbers.length := by
    have hlength := length_dotted hnumbers
    have hone := List.length_pos_iff.2 hnumber.1
    have hsome := List.length_pos_iff.2 hne
    refine ⟨(number ++ (dotted numbers ++ tail)).length - numbers.length - 2, ?_⟩
    simp only [List.length_append]
    omega
  have hparts : readParts (number ++ (dotted numbers ++ tail)).length (dotted numbers ++ tail) =
      dotted numbers ++ extra := by
    rw [hfuel, readParts_dotted hnumbers htail, hextra]
  have hnil : dotted numbers ≠ [] := by
    cases numbers with
    | nil => exact absurd rfl hne
    | cons n numbers => simp [dotted]
  simp only [versionHere, htake, hdrop, hparts]
  rw [if_neg]
  simp [hnumber.1, hnil]

private theorem versionHere_of_head {cs : List Char} (h : ∀ c, cs.head? = some c → isDecimal c = false) :
    versionHere cs = none := by
  have hnil : ([] ++ cs).takeWhile isDecimal = [] := (takeWhile_dropWhile_append (by simp) h).1
  rw [List.nil_append] at hnil
  simp [versionHere, hnil]

/-- The search passes over a name in which no version begins. -/
private theorem findVersion_append {name version : List Char} (hname : Unnumbered name)
    (h : versionHere rest = some version) : findVersion (name ++ '-' :: rest) = some ('-' :: version) := by
  induction name with
  | nil => simp [findVersion, h]
  | cons c name ih =>
    have hlater : Unnumbered name := by
      intro before mark digit after heq
      exact hname (c :: before) mark digit after (by rw [heq, List.cons_append])
    have hhere : (if c = '-' || c = '_' then versionHere (name ++ '-' :: rest) else none) = none := by
      split
      case isTrue hc =>
        refine versionHere_of_head fun d hd => ?_
        cases name with
        | nil =>
          obtain rfl : '-' = d := by simpa using hd
          decide
        | cons e name =>
          obtain rfl : e = d := by simpa using hd
          exact hname [] c e name rfl (by simpa using hc)
      case isFalse => rfl
    rw [List.cons_append, findVersion, hhere]
    exact ih hlater

/-! ### Named artifacts -/

def versionText (numbers : List String) : String := Text.join "." numbers

def wheelName (name : String) (numbers : List String) : String :=
  name ++ "-" ++ versionText numbers ++ "-py3-none-any.whl"

def archiveName (name : String) (numbers : List String) : String := name ++ "-" ++ versionText numbers ++ ".jar"

private theorem toList_versionText (number : String) (numbers : List String) :
    (versionText (number :: numbers)).toList = number.toList ++ dotted (numbers.map String.toList) := by
  rw [versionText, Text.join, String.toList_intercalate, List.map_cons]
  induction numbers generalizing number with
  | nil => simp [dotted]
  | cons next numbers ih =>
    rw [List.map_cons, List.intercalate_cons_cons, ih]
    simp [dotted]

private theorem mem_versionText {numbers : List String} (h : ∀ number ∈ numbers, IsNumber number.toList) :
    ∀ c ∈ (versionText numbers).toList, c = '.' ∨ isDecimal c = true := by
  intro c hc
  by_contra hnot
  rw [not_or] at hnot
  rw [versionText, Text.join, String.toList_intercalate] at hc
  refine Text.not_mem_intercalate (by simpa using hnot.1) ?_ hc
  rw [List.forall_mem_map]
  exact fun number hnumber hmem => hnot.2 ((h number hnumber).2 c hmem)

private theorem stem_of_name {file : Path} {front : List Char} (ending : List Char)
    (h : file.name.toList = front ++ '.' :: ending) (hfront : front ≠ []) (hending : ending ≠ [])
    (hdot : '.' ∉ ending) : file.stem.toList = front := by
  have hall : ∀ c ∈ ending.reverse, (c != '.') = true := by
    intro c hc
    rw [bne_iff_ne]
    rintro rfl
    exact hdot (List.mem_reverse.1 hc)
  have htail : (file.name.toList.reverse.takeWhile (· != '.')).reverse = ending := by
    rw [h, List.reverse_append, List.reverse_cons, List.append_assoc, List.takeWhile_append_of_pos hall]
    simp
  have hlength : file.name.toList.length - ending.length - 1 = front.length := by
    rw [h]
    simp only [List.length_append, List.length_cons]
    omega
  have htake : file.name.toList.take front.length = front := by rw [h, List.take_left]
  have hlonger : ending.length ≠ file.name.toList.length := by
    rw [h, List.length_append, List.length_cons]
    omega
  rw [Path.stem, Path.splitSuffix]
  simp only [htail, hlength, htake]
  rw [if_neg (by simpa [hfront, hending] using hlonger), String.toList_ofList]

/-- What is found in the stem of an artifact is the version, and what is taken for parts of it behind. -/
private theorem findVersion_stem {name : List Char} {numbers : List String} {extra : List Char}
    (hname : Unnumbered name) (htwo : 2 ≤ numbers.length) (hnumbers : ∀ number ∈ numbers, IsNumber number.toList)
    (htail : ∀ c, tail.head? = some c → isWord c = false) (hextra : ∀ fuel, readParts (fuel + 2) tail = extra) :
    findVersion (name ++ '-' :: ((versionText numbers).toList ++ tail)) =
      some ('-' :: ((versionText numbers).toList ++ extra)) := by
  cases numbers with
  | nil => simp at htwo
  | cons number numbers =>
    obtain ⟨hnumber, hnumbers⟩ := List.forall_mem_cons.1 hnumbers
    have hne : numbers.map String.toList ≠ [] := by
      rintro hnil
      rw [List.map_eq_nil_iff.1 hnil] at htwo
      simp at htwo
    have hdotted : ∀ number ∈ numbers.map String.toList, IsNumber number := by simpa using hnumbers
    rw [toList_versionText, List.append_assoc, List.append_assoc]
    exact findVersion_append hname (versionHere_dotted hnumber hdotted hne htail hextra)

private theorem version_of_stem {file : Path} {found : List Char}
    (h : findVersion file.stem.toList = some ('-' :: found)) :
    version file = some (String.ofList (Text.dropTail "-py3".toList found)) := by
  rw [version, h]
  rfl

theorem version_of_named {file : Path} {name : String} {numbers : List String} (hname : Unnumbered name.toList)
    (htwo : 2 ≤ numbers.length) (hnumbers : ∀ number ∈ numbers, IsNumber number.toList)
    (hfile : file.name = wheelName name numbers ∨ file.name = archiveName name numbers) :
    version file = some (versionText numbers) := by
  rcases hfile with hfile | hfile
  · have hstem : file.stem.toList = name.toList ++ '-' :: ((versionText numbers).toList ++ "-py3-none-any".toList) := by
      refine stem_of_name "whl".toList ?_ (by simp) (by decide) (by decide)
      simp [hfile, wheelName]
    have htail : ∀ c, "-py3-none-any".toList.head? = some c → isWord c = false := by
      rintro c ⟨⟩
      decide
    have hextra : ∀ fuel, readParts (fuel + 2) "-py3-none-any".toList = "-py3".toList := fun fuel => rfl
    have hfound := findVersion_stem hname htwo hnumbers htail hextra
    rw [← hstem] at hfound
    rw [version_of_stem hfound, Text.dropTail, if_pos (List.isSuffixOf_iff_suffix.2 (List.suffix_append ..))]
    simp
  · have hstem : file.stem.toList = name.toList ++ '-' :: ((versionText numbers).toList ++ []) := by
      refine stem_of_name "jar".toList ?_ (by simp) (by decide) (by decide)
      simp [hfile, archiveName]
    have hextra : ∀ fuel, readParts (fuel + 2) [] = [] := fun fuel => rfl
    have hfound := findVersion_stem hname htwo hnumbers (by simp) hextra
    rw [← hstem] at hfound
    have hsuffix : ¬ List.isSuffixOf "-py3".toList (versionText numbers).toList = true := by
      intro hsuffix
      have hmark := mem_versionText hnumbers '-' ((List.isSuffixOf_iff_suffix.1 hsuffix).subset (by decide))
      revert hmark
      decide
    rw [version_of_stem hfound, List.append_nil, Text.dropTail, if_neg hsuffix, String.ofList_toList]

end Transpiler.Artifact

namespace Transpiler

open WarehouseMigration.Flow Backup

/-! ### Installing again -/

/-- The version of a product is noted in its folder. -/
def Noted (i : Installed) (product version : String) (s : Session) : Prop :=
  ∃ own date, (i.productFolder product).LeadsTo s.home own ∧
    s.files.find? (own ++ ["state", "version.json"]) = some (.file (.text (versionNote version date)))

variable {i : Installed} {product version : String} {s s' : Session}

private theorem Noted.exec_version (h : Noted i product version s) : (i.version product).exec s =
    (.ok (some version), s) := by
  obtain ⟨own, date, hleads, hnote⟩ := h
  exact exec_version_of_note hleads hnote

private theorem noted_of_exec_noteVersion {u : Unit}
    (h : (noteVersion (i.productFolder product) version).exec s = (.ok u, s')) : Noted i product version s' := by
  obtain ⟨_, s₁, -, h⟩ := exists_of_exec_bind h
  obtain ⟨date, s₂, -, h⟩ := exists_of_exec_bind h
  obtain ⟨place, t, hleads, hwrite, rfl⟩ := exists_of_exec_change h
  have hpath : ((i.productFolder product).child "state").child "version.json" =
      (i.productFolder product).below ["state", "version.json"] := by
    rw [Path.child_of_isName (by decide), Path.child_of_isName (by decide), Path.below_below]
    rfl
  rw [hpath] at hleads
  obtain ⟨own, hown, rfl⟩ := hleads.of_below (by decide)
  refine ⟨own, date, hown, ?_⟩
  rw [(FileTree.eq_put_of_write hwrite).2.2, FileTree.find?_put (by simp), if_pos rfl]
  rfl

private theorem saved_ne {name other : String} (h : other.toList.getLast? ≠ some 'd') : name ++ "-saved" ≠ other := by
  rintro rfl
  exact h (by simp)

/-- The note is not in the folder that was put aside, whatever the path of the product looks like. -/
private theorem not_prefix_note {target : Path} {home : String} {own aside : List String}
    (hown : target.LeadsTo home own)
    (haside : (savedPath target).LeadsTo home aside) : ¬ aside <+: own ++ ["state", "version.json"] := by
  have hpath : savedPath target = target.parent.below [target.name ++ "-saved"] := rfl
  rw [hpath] at haside
  obtain ⟨root, hroot, rfl⟩ := haside.of_below (by simpa using saved_ne (by decide))
  have hstate : target.name ++ "-saved" ≠ "state" := saved_ne (by decide)
  have hnote : target.name ++ "-saved" ≠ "version.json" := saved_ne (by decide)
  rcases List.eq_nil_or_concat target.parts with hparts | ⟨parts, last, hparts⟩
  · have hparent : target.parent = target := by
      rw [Path.parent, hparts]
      exact congrArg (Path.mk target.anchor) hparts.symm
    obtain rfl := hroot.unique (hparent ▸ hown)
    rw [List.prefix_append_right_inj]
    simpa using hstate
  · rw [List.concat_eq_append] at hparts
    have htarget : target = target.parent.below [last] := by
      rw [Path.parent, Path.below, hparts, List.dropLast_concat, ← hparts]
    have hname : target.name = last := by simp [Path.name, hparts]
    have hlast : target.name ++ "-saved" ≠ last := by
      rw [hname]
      intro heq
      have := congrArg String.length heq
      simp at this
    rw [htarget] at hown
    -- the last name of the path may be two dots
    rcases hroot.entry_or_back hown with rfl | rfl
    · rw [List.append_assoc, List.prefix_append_right_inj]
      simpa using hlast
    · rcases List.eq_nil_or_concat root with rfl | ⟨above, top, rfl⟩
      · simpa using hstate
      · rw [List.concat_eq_append, List.dropLast_concat, List.append_assoc, List.prefix_append_right_inj]
        simp [hnote]

private theorem Noted.of_exec_removeFolder {u : Unit} (h : Noted i product version s)
    (hexec : (removeFolder (savedPath (i.productFolder product))).exec s = (.ok u, s')) :
    Noted i product version s' := by
  obtain ⟨own, date, hleads, hnote⟩ := h
  obtain ⟨file, s₁, hfile, hexec⟩ := exists_of_exec_bind hexec
  obtain rfl := (reads_isFile _).session_eq hfile
  cases file with
  | true => cases hexec
  | false =>
    have hexec : (removeTree (savedPath (i.productFolder product))).exec s₁ = (.ok u, s') := hexec
    obtain ⟨aside, t, haside, hremove, rfl⟩ := exists_of_exec_change hexec
    have hapart := not_prefix_note hleads haside
    have hne : aside ≠ [] := fun hnil => hapart (hnil ▸ List.nil_prefix)
    split at hremove
    case isTrue =>
      cases hremove
      refine ⟨own, date, hleads, ?_⟩
      rw [FileTree.find?_remove hne, if_neg hapart]
      exact hnote
    case isFalse => cases hremove

private theorem Noted.of_exec_commit {b b' : Backup} (h : Noted i product version s)
    (hsaved : ∀ aside, b.saved = some aside → aside = savedPath (i.productFolder product))
    (hexec : b.commit.exec s = (.ok b', s')) : Noted i product version s' := by
  rw [commit] at hexec
  cases hfinished : b.finished with
  | true =>
    rw [hfinished] at hexec
    cases hexec
  | false =>
    rw [hfinished] at hexec
    cases hb : b.saved with
    | none =>
      rw [hb] at hexec
      cases hexec
      exact h
    | some aside =>
      rw [hb] at hexec
      obtain ⟨_, s₁, hremove, hexec⟩ := exists_of_exec_bind hexec
      cases hexec
      exact h.of_exec_removeFolder (hsaved aside hb ▸ hremove)

/-- What is put aside is the folder under its other name. -/
private theorem saved_of_exec_start {target : Path} {b : Backup} (h : (start { target }).exec s = (.ok b, s')) :
    ∀ aside, b.saved = some aside → aside = savedPath target := by
  have hlast : ∀ t : Session, (do
      if ← Flow.pathExists target then
        Flow.rename target (savedPath target)
        return { target, saved := some (savedPath target) }
      return { target, saved := none } : Flow Backup).exec t = (.ok b, s') →
      ∀ aside, b.saved = some aside → aside = savedPath target := by
    intro t h
    obtain ⟨there, t₁, -, h⟩ := exists_of_exec_bind h
    cases there with
    | false =>
      cases h
      rintro aside ⟨⟩
    | true =>
      obtain ⟨_, t₂, -, h⟩ := exists_of_exec_bind h
      cases h
      rintro aside ⟨⟩
      rfl
  obtain ⟨there, s₁, -, h⟩ := exists_of_exec_bind h
  cases there with
  | false => exact hlast s₁ h
  | true =>
    obtain ⟨_, s₂, -, h⟩ := exists_of_exec_bind h
    exact hlast s₂ h

/-- A new folder that is to be kept was filled by writing the note of its version last. -/
private theorem of_exec_fillFolder {folder kept : Path} {keep : Bool} {task : Path → Flow Bool}
    (h : (fillFolder folder version task).exec s = (.ok (some kept, keep), s')) :
    keep = true ∧ ∃ t, (noteVersion folder version).exec t = (.ok (), s') := by
  obtain ⟨_, s₁, -, h⟩ := exists_of_exec_bind h
  obtain ⟨o, s₂, -, h⟩ := exists_of_exec_bind h
  -- whatever the task came to, the folder is kept only if it is done
  have hdone : ∀ done : Bool, (if (!done) = true then pure (none, false) else do
      noteVersion folder version
      pure (some folder, true) : Flow (Option Path × Bool)).exec s₂ = (.ok (some kept, keep), s') →
      keep = true ∧ ∃ t, (noteVersion folder version).exec t = (.ok (), s') := by
    rintro (_ | _) h
    · cases h
    · obtain ⟨_, s₃, hnote, h⟩ := exists_of_exec_bind h
      cases h
      exact ⟨rfl, s₂, hnote⟩
  cases o with
  | ok done => exact hdone done h
  | error failure =>
    by_cases hrefusal : isRefusal failure = true
    · simp only [hrefusal, if_true] at h
      exact hdone false h
    · simp only [hrefusal] at h
      cases h

theorem noted_of_exec_installVersion {task : Path → Flow Bool} {folder : Path}
    (h : (installVersion i product version task).exec s = (.ok (some folder), s')) : Noted i product version s' := by
  obtain ⟨b, s₁, hstart, h⟩ := exists_of_exec_bind h
  obtain ⟨o, s₂, hattempt, h⟩ := exists_of_exec_bind h
  cases o with
  | error failure =>
    obtain ⟨_, s₃, -, h⟩ := exists_of_exec_bind h
    cases h
  | ok result =>
    cases h
    rw [exec_attempt] at hattempt
    obtain ⟨hresult, hsession⟩ := Prod.mk.inj hattempt
    obtain ⟨⟨kept, keep⟩, s₂, hfill, hrest⟩ := exists_of_exec_bind (Prod.ext (Except.ok.inj hresult) hsession)
    cases keep with
    | true =>
      obtain ⟨_, s₃, hcommit, hrest⟩ := exists_of_exec_bind hrest
      cases hrest
      obtain ⟨-, t, hnote⟩ := of_exec_fillFolder hfill
      exact (noted_of_exec_noteVersion hnote).of_exec_commit (saved_of_exec_start hstart) hcommit
    | false =>
      obtain ⟨_, s₃, -, hrest⟩ := exists_of_exec_bind hrest
      cases hrest
      exact absurd (of_exec_fillFolder hfill).1 Bool.false_ne_true

section Latest

variable {task : String → Path → Flow Bool}

private theorem noted_of_exec_installLatest {folder : Path}
    (h : (installLatest i product (pure (some version)) task).exec s = (.ok (some folder), s')) :
    Noted i product version s' := by
  obtain ⟨found, s₁, hfound, h⟩ := exists_of_exec_bind h
  cases hfound
  obtain ⟨installed, s₂, -, h⟩ := exists_of_exec_bind h
  split at h
  · cases h
  · exact noted_of_exec_installVersion h

private theorem Noted.exec_installLatest (h : Noted i product version s) :
    (installLatest i product (pure (some version)) task).exec s = (.ok none, s) := by
  refine (exec_bind_of_ok h.exec_version).trans ?_
  rw [if_pos (beq_self_eq_true (some version))]
  rfl

end Latest

/-- The ways to install a product from a local artifact. -/
inductive Installer where
  | wheel (package : String)
  | archive (group name : String)

def Installer.install (i : Installed) (product : String) (file : Path) : Installer → Flow (Option Path)
  | wheel package => installWheel i product package (some file)
  | archive group name => installArchive i product group name (some file)

private theorem Installer.install_eq (installer : Installer) (i : Installed) (product : String) {file : Path}
    (h : Artifact.version file = some version) :
    ∃ task, installer.install i product file = installLatest i product (pure (some version)) task := by
  cases installer with
  | wheel package => exact ⟨_, by rw [install, installWheel, h]⟩
  | archive group name => exact ⟨_, by rw [install, installArchive, h]⟩

/-- An artifact that is named for a product without numbers and a version of two or more numbers tells this version.
After it was installed, in whichever way, this is the version of the product, and to install it again does nothing at
all. -/
theorem install_local_settles {name : String} {numbers : List String} {file : Path}
    (hname : Artifact.Unnumbered name.toList) (htwo : 2 ≤ numbers.length)
    (hnumbers : ∀ number ∈ numbers, Artifact.IsNumber number.toList)
    (hfile : file.name = Artifact.wheelName name numbers ∨ file.name = Artifact.archiveName name numbers) :
    Artifact.version file = some (Artifact.versionText numbers) ∧
    ∀ (installer : Installer) (i : Installed) (product : String) (s s' : Session) (folder : Path),
      (installer.install i product file).exec s = (.ok (some folder), s') →
      (i.version product).exec s' = (.ok (some (Artifact.versionText numbers)), s') ∧
      (installer.install i product file).exec s' = (.ok none, s') := by
  have hversion := Artifact.version_of_named hname htwo hnumbers hfile
  refine ⟨hversion, fun installer i product s s' folder h => ?_⟩
  obtain ⟨task, hinstall⟩ := installer.install_eq i product hversion
  rw [hinstall] at h ⊢
  have hnoted := noted_of_exec_installLatest h
  exact ⟨hnoted.exec_version, hnoted.exec_installLatest⟩

/-- An archive was delivered; of a package, the program that installs it knows the files. -/
def delivery : Session where
  files := ⟨[(["my_morph-plugin-0.4.12.jar"], .file (.archive [("lsp/config.yml", "a: b")])),
    (["labs"], .directory), (["labs", "remorph-transpilers"], .directory),
    (["labs", "remorph-transpilers", "morph"], .directory)]⟩
  reaction := fun call => if call.name == "run" then some (.value (.map [("lsp/config.yml", "a: b")])) else none

def Installer.delivered : Installer → Path
  | wheel _ => ⟨"", ["my_morph-plugin-0.4.12-py3-none-any.whl"]⟩
  | archive .. => ⟨"", ["my_morph-plugin-0.4.12.jar"]⟩

/-- What was delivered is installed, with its version, and to install it again does nothing. -/
def Installer.SettlesDelivery (installer : Installer) : Prop :=
  ∃ folder s', (installer.install ⟨⟨"", ["labs"]⟩⟩ "morph" installer.delivered).exec delivery =
      (.ok (some folder), s') ∧
    (Installed.version ⟨⟨"", ["labs"]⟩⟩ "morph").exec s' = (.ok (some "0.4.12"), s') ∧
    (installer.install ⟨⟨"", ["labs"]⟩⟩ "morph" installer.delivered).exec s' = (.ok none, s')

theorem install_local_settles_delivered :
    (Installer.archive "g" "morph").SettlesDelivery ∧ (Installer.wheel "my-morph").SettlesDelivery := by
  have hname : Artifact.Unnumbered "my_morph-plugin".toList := by
    intro before mark digit after h _
    have hmem : digit ∈ "my_morph-plugin".toList := by rw [h]; simp
    have hall : ("my_morph-plugin".toList.all fun c => !Text.isDecimal c) = true := by decide +kernel
    simpa using List.all_eq_true.1 hall digit hmem
  have hnumbers : ∀ number ∈ ["0", "4", "12"], Artifact.IsNumber number.toList := by
    intro number hnumber
    have hall : (["0", "4", "12"].all fun n => !n.toList.isEmpty && n.toList.all Text.isDecimal) = true := by
      decide +kernel
    have hdigits := List.all_eq_true.1 hall number hnumber
    rw [Bool.and_eq_true, List.all_eq_true] at hdigits
    exact ⟨by simpa using hdigits.1, hdigits.2⟩
  have hfile : ∀ installer : Installer,
      installer.delivered.name = Artifact.wheelName "my_morph-plugin" ["0", "4", "12"] ∨
        installer.delivered.name = Artifact.archiveName "my_morph-plugin" ["0", "4", "12"] := by
    intro installer
    cases installer with
    | wheel package => exact .inl (by rw [Installer.delivered]; decide)
    | archive group name => exact .inr (by rw [Installer.delivered]; decide)
  have hsettles : ∀ (installer : Installer) (folder : Path) (s' : Session),
      (installer.install ⟨⟨"", ["labs"]⟩⟩ "morph" installer.delivered).exec delivery = (.ok (some folder), s') →
        installer.SettlesDelivery := by
    intro installer folder s' hinstall
    obtain ⟨-, hsettles⟩ := install_local_settles hname (by decide) hnumbers (hfile installer)
    exact ⟨folder, s', hinstall, hsettles _ _ _ _ _ _ hinstall⟩
  exact ⟨hsettles _ _ _ rfl, hsettles _ _ _ rfl⟩

end Transpiler

end WarehouseMigration
