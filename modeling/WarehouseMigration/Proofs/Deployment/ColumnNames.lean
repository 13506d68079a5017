import WarehouseMigration.Proofs.Deployment.NestedTypes
import WarehouseMigration.Proofs.Text.Splitting

/-!
# Column names in the definition of a table

A definition names its columns in parentheses, each with its type.  Once the nested types are dropped, the commas that
are left separate columns, and the name of a column is what stands before the first blank.  So the names are read off
whatever the types are, as long as these nest no deeper than can be dropped (`columnNames_text`).
-/

namespace WarehouseMigration.Deployment

open Text

/-! ### Definitions as texts -/

/-- A word: characters other than brackets, commas and white space. -/
structure Word where
  chars : List Char
  ne_nil : chars ≠ []
  plain : ∀ c ∈ chars, isBlank c = false ∧ c ∉ ['<', '>', '(', ')', ',']

inductive ColumnType where
  | word (w : Word)
  | nested (keyword : String) (h : keyword ∈ keywords) (body : Body)
  | array (element : ColumnType)

structure Column where
  name : Word
  type : ColumnType
  isRequired : Bool
  before : List Char
  after : List Char
  blank_before : ∀ c ∈ before, isBlank c = true
  blank_after : ∀ c ∈ after, isBlank c = true

/-- What defines a table: words with its name, columns in parentheses, and more. -/
structure Definition where
  opening : List Char
  columns : List Column
  closing : List Char
  plain_opening : ∀ c ∈ opening, c ∉ ['<', '(', ')']
  columns_ne_nil : columns ≠ []

def arrayOpening : List Char := ['A', 'R', 'R', 'A', 'Y', '<']

def ColumnType.text : ColumnType → List Char
  | word w => w.chars
  | nested keyword _ body => keyword.toList ++ (body.text ++ ['>'])
  | array element => arrayOpening ++ (element.text ++ ['>'])

/-- What is left of a type when the nested types are dropped. -/
def ColumnType.outline : ColumnType → List Char
  | word w => w.chars
  | nested .. => []
  | array element => arrayOpening ++ (element.outline ++ ['>'])

namespace Column

def suffix (c : Column) : List Char := (if c.isRequired then " NOT NULL".toList else []) ++ c.after

def withType (c : Column) (type : List Char) : List Char := c.before ++ (c.name.chars ++ ' ' :: (type ++ c.suffix))

def text (c : Column) : List Char := c.withType c.type.text

def outline (c : Column) : List Char := c.withType c.type.outline

end Column

def Definition.text (d : Definition) : List Char :=
  d.opening ++ '(' :: ([','].intercalate (d.columns.map Column.text) ++ ')' :: d.closing)

/-- What is left of a definition when the nested types between its parentheses are dropped. -/
def Definition.outline (d : Definition) : List Char :=
  d.opening ++ '(' :: ([','].intercalate (d.columns.map Column.outline) ++ ')' :: dropNestedFrom 0 d.closing)

/-! ### Dropping the nested types -/

variable {cs : List Char}

private theorem not_mem_of_isBlank {c : Char} (hc : isBlank c = false) (h : ∀ d ∈ cs, isBlank d = true) : c ∉ cs := by
  intro hm
  rw [h c hm] at hc
  cases hc

private theorem dropNestedFrom_array (rest : List Char) :
    dropNestedFrom 0 (arrayOpening ++ rest) = arrayOpening ++ dropNestedFrom 0 rest := rfl

private theorem dropNestedFrom_of_not_mem {c : Char} (hc : c ∉ keywordLetters) (rest : List Char) :
    dropNestedFrom 0 (c :: rest) = c :: dropNestedFrom 0 rest :=
  dropNestedFrom_plain (List.not_mem_nil : '<' ∉ []) hc rest

private theorem dropNestedFrom_type (t : ColumnType) {c : Char} (hc : c ∉ keywordLetters) (rest : List Char) :
    dropNestedFrom 0 (t.text ++ c :: rest) = t.outline ++ c :: dropNestedFrom 0 rest := by
  induction t generalizing c rest with
  | word w => exact dropNestedFrom_plain (fun hm => (w.plain _ hm).2 (by simp)) hc rest
  | nested keyword h body =>
    rw [ColumnType.text, List.append_assoc, List.append_assoc, List.singleton_append, dropNestedFrom_nested h,
      dropNestedFrom_of_not_mem hc]
    rfl
  | array element ih =>
    rw [ColumnType.text, List.append_assoc, List.append_assoc, List.singleton_append, dropNestedFrom_array,
      ih (by decide), dropNestedFrom_of_not_mem hc]
    simp [ColumnType.outline]

namespace Column

variable (c : Column)

/-- Behind the type of a column there is no character of a keyword, no comma and no parenthesis. -/
private theorem not_mem_suffix {d : Char} (hd : isBlank d = false) (hword : d ∉ " NOT NULL".toList) : d ∉ c.suffix := by
  have hafter := not_mem_of_isBlank hd c.blank_after
  rw [suffix, List.mem_append, not_or]
  refine ⟨?_, hafter⟩
  split
  · exact hword
  · exact List.not_mem_nil

private theorem exists_suffix_append {d : Char} (hd : d ∉ keywordLetters) (rest : List Char) :
    ∃ e more, c.suffix ++ d :: rest = e :: more ∧ e ∉ keywordLetters := by
  have hblank : ∀ e ∈ keywordLetters, isBlank e = false := forall_mem_of_all (by decide)
  rw [suffix]
  split
  · exact ⟨' ', _, rfl, by decide⟩
  · cases hafter : c.after with
    | nil => exact ⟨d, rest, rfl, hd⟩
    | cons e after =>
      refine ⟨e, after ++ d :: rest, rfl, fun hm => ?_⟩
      have he := c.blank_after e (by simp [hafter])
      rw [hblank e hm] at he
      cases he

private theorem dropNestedFrom_text {d : Char} (hd : d ∉ keywordLetters) (rest : List Char) :
    dropNestedFrom 0 (c.text ++ d :: rest) = c.outline ++ d :: dropNestedFrom 0 rest := by
  have hfront : '<' ∉ c.before ++ c.name.chars := by
    rw [List.mem_append, not_or]
    exact ⟨not_mem_of_isBlank rfl c.blank_before, fun hm => (c.name.plain _ hm).2 (by simp)⟩
  have htext : c.text ++ d :: rest = (c.before ++ c.name.chars) ++ ' ' :: (c.type.text ++ (c.suffix ++ d :: rest)) := by
    simp [text, withType]
  have hsuffix : dropNestedFrom 0 (c.suffix ++ d :: rest) = c.suffix ++ d :: dropNestedFrom 0 rest :=
    dropNestedFrom_plain (c.not_mem_suffix rfl (by decide)) hd rest
  obtain ⟨e, more, hmore, he⟩ := c.exists_suffix_append hd rest
  rw [hmore, dropNestedFrom_of_not_mem he] at hsuffix
  rw [htext, dropNestedFrom_plain hfront (by decide), hmore, dropNestedFrom_type _ he, hsuffix]
  simp [outline, withType]

/-- What separates and closes the columns is not in the outline of one. -/
private theorem not_mem_outline {d : Char} (hd : d ∈ [',', ')']) : d ∉ c.outline := by
  have hall : ∀ d ∈ [',', ')'], isBlank d = false ∧ d ∉ " NOT NULL".toList ∧ d ∉ arrayOpening ∧ d ∉ ['>'] ∧ d ≠ ' ' ∧
      d ∈ ['<', '>', '(', ')', ','] := forall_mem_of_all (by decide)
  obtain ⟨hblank, hrequired, harray, hangle, hspace, hplain⟩ := hall d hd
  have hword : ∀ w : Word, d ∉ w.chars := fun w hm => (w.plain d hm).2 hplain
  have htype : ∀ t : ColumnType, d ∉ t.outline := by
    intro t
    induction t with
    | word w => exact hword w
    | nested keyword h body => exact List.not_mem_nil
    | array element ih =>
      simp only [ColumnType.outline, List.mem_append, not_or]
      exact ⟨harray, ih, hangle⟩
  simp only [outline, withType, List.mem_append, List.mem_cons, not_or]
  exact ⟨not_mem_of_isBlank hblank c.blank_before, hword _, hspace, htype _, c.not_mem_suffix hblank hrequired⟩

end Column

/-- The nested types are dropped, so that every comma separates columns. -/
private theorem dropNestedFrom_columns {columns : List Column} (hne : columns ≠ []) (rest : List Char) :
    dropNestedFrom 0 ([','].intercalate (columns.map Column.text) ++ ')' :: rest) =
      [','].intercalate (columns.map Column.outline) ++ ')' :: dropNestedFrom 0 rest := by
  induction columns with
  | nil => exact absurd rfl hne
  | cons c columns ih =>
    cases columns with
    | nil => simpa using c.dropNestedFrom_text (by decide) rest
    | cons next columns =>
      have hrest := ih (by simp)
      simp only [List.map_cons, List.intercalate_cons_cons, List.append_assoc, List.cons_append,
        List.nil_append] at hrest ⊢
      rw [c.dropNestedFrom_text (by decide), hrest]

private theorem Definition.dropNestedFrom_text (d : Definition) : dropNestedFrom 0 d.text = d.outline := by
  have hopening : '<' ∉ d.opening := fun hm => d.plain_opening _ hm (by simp)
  rw [text, dropNestedFrom_plain hopening (by decide), dropNestedFrom_columns d.columns_ne_nil]
  rfl

/-! ### Reading the names -/

/-- What stands before the first space of a text without the white space around it. -/
def firstWord (cs : List Char) : String := String.ofList ((trim cs).takeWhile (· ≠ ' '))

private theorem trim_dropWhile {p : Char → Bool} (hp : ∀ c, p c = true → isBlank c = true) (cs : List Char) :
    trim (cs.dropWhile p) = trim cs := by
  induction cs with
  | nil => rfl
  | cons c cs ih =>
    by_cases hc : p c = true
    · rw [List.dropWhile_cons_of_pos hc, ih, trim_blank_cons (hp c hc)]
    · rw [List.dropWhile_cons_of_neg hc]

private theorem trim_dropWhile_reverse {p : Char → Bool} (hp : ∀ c, p c = true → isBlank c = true) (cs : List Char) :
    trim (cs.dropWhile p).reverse = trim cs.reverse := by
  induction cs with
  | nil => rfl
  | cons c cs ih =>
    by_cases hc : p c = true
    · rw [List.dropWhile_cons_of_pos hc, ih, List.reverse_cons, trim_append_blank (hp c hc)]
    · rw [List.dropWhile_cons_of_neg hc]

private theorem columnName_ofList (cs : List Char) : columnName (String.ofList cs) = firstWord cs := by
  have hnewline : ∀ c, decide (c = '\n') = true → isBlank c = true := by
    intro c hc
    rw [of_decide_eq_true hc]
    rfl
  have hhead : (splitFrom [' '] 0 [] (trim cs)).head? = some ((trim cs).takeWhile (· ≠ ' ')) := head?_splitFrom [] _
  rw [columnName, split, List.headD_eq_head?_getD, List.head?_map, strip, String.toList_ofList, String.toList_ofList,
    String.toList_ofList, trim_dropWhile_reverse hnewline, List.reverse_reverse, trim_dropWhile hnewline]
  rw [String.toList_ofList]
  exact congrArg (fun head => (head.map String.ofList).getD "") hhead

private theorem Word.trimEnd_chars (w : Word) : trimEnd w.chars = w.chars := by
  have hreverse : w.chars.reverse.dropWhile isBlank = w.chars.reverse := by
    cases h : w.chars.reverse with
    | nil => rfl
    | cons c rest =>
      have hc : c ∈ w.chars := by rw [← List.mem_reverse, h]; exact List.mem_cons_self
      rw [List.dropWhile_cons_of_neg (by simp [(w.plain c hc).1])]
  rw [trimEnd, hreverse, List.reverse_reverse]

private theorem Word.takeWhile_append (w : Word) (rest : List Char) :
    (w.chars ++ rest).takeWhile (· ≠ ' ') = w.chars ++ rest.takeWhile (· ≠ ' ') := by
  refine List.takeWhile_append_of_pos fun c hc => decide_eq_true fun hspace => ?_
  have hblank := (w.plain c hc).1
  rw [hspace] at hblank
  cases hblank

private theorem firstWord_blank_append {front : List Char} (h : ∀ c ∈ front, isBlank c = true) (cs : List Char) :
    firstWord (front ++ cs) = firstWord cs := by
  rw [firstWord, trim, trimStart, List.dropWhile_append_of_pos h]
  rfl

/-- A word in front of a space is read off, also if nothing but white space follows. -/
private theorem Word.firstWord_append (w : Word) (rest : List Char) :
    firstWord (w.chars ++ ' ' :: rest) = String.ofList w.chars := by
  have hstart : trimStart (w.chars ++ ' ' :: rest) = w.chars ++ ' ' :: rest := by
    cases h : w.chars with
    | nil => exact absurd h w.ne_nil
    | cons c cs =>
      have hc : isBlank c = false := (w.plain c (by simp [h])).1
      exact List.dropWhile_cons_of_neg (by simp [hc])
  have hspace : trimEnd (' ' :: rest) = if trimEnd rest = [] then [] else ' ' :: trimEnd rest :=
    trimEnd_append [' '] rest
  rw [firstWord, trim, hstart, trimEnd_append, hspace]
  by_cases hrest : trimEnd rest = []
  · have hword := w.takeWhile_append []
    rw [List.append_nil] at hword
    rw [if_pos hrest, if_pos rfl, w.trimEnd_chars, hword]
    simp
  · rw [if_neg hrest, if_neg (List.cons_ne_nil _ _), w.takeWhile_append]
    simp

private theorem Column.firstWord_outline (c : Column) : firstWord c.outline = String.ofList c.name.chars := by
  rw [outline, withType, firstWord_blank_append c.blank_before, c.name.firstWord_append]

private theorem indexOf_append {c : Char} (h : c ∉ cs) (rest : List Char) : indexOf c
    (cs ++ c :: rest) = .ok cs.length := by
  have hne : ∀ d ∈ cs, (d != c) = true := by
    intro d hd
    rw [bne_iff_ne]
    rintro rfl
    exact h hd
  rw [indexOf, if_pos (by simp), List.takeWhile_append_of_pos hne]
  simp [pure, Except.pure]

private theorem columnTexts_ofList {front inside : List Char} (hfront : '(' ∉ front ∧ ')' ∉ front)
    (hinside : ')' ∉ inside) (rest : List Char) :
    columnTexts (String.ofList (front ++ '(' :: (inside ++ ')' :: rest))) =
      .ok ((splitFrom [','] 0 [] (trim inside)).map String.ofList) := by
  have hbefore : ')' ∉ front ++ '(' :: inside := by simp [hfront.2, hinside]
  have hassoc : front ++ '(' :: (inside ++ ')' :: rest) = (front ++ '(' :: inside) ++ ')' :: rest := by simp
  have hstart := indexOf_append hfront.1 (inside ++ ')' :: rest)
  have hstop := indexOf_append hbefore rest
  have htake : ((front ++ '(' :: inside) ++ ')' :: rest).take (front ++ '(' :: inside).length = front ++
      '(' :: inside :=
    List.take_left
  have hdrop : (front ++ '(' :: inside).drop (front.length + 1) = inside := by simp
  rw [hassoc] at hstart ⊢
  simp only [columnTexts, String.toList_ofList, hstart, hstop, bind, Except.bind]
  rw [htake, hdrop, split, strip, String.toList_ofList, String.toList_ofList]
  simp [pure, Except.pure]

/-- White space around a column does not matter, nor does that around all of them. -/
private theorem map_columnName_splitFrom (cs : List Char) :
    ((splitFrom [','] 0 [] (trim cs)).map String.ofList).map columnName =
      (splitFrom [','] 0 [] cs).map firstWord := by
  have hstart : ∀ c cs, isBlank c = true → firstWord (c :: cs) = firstWord cs := by
    intro c cs hc
    rw [firstWord, trim_blank_cons hc, firstWord]
  have hend : ∀ c cs, isBlank c = true → firstWord (cs ++ [c]) = firstWord cs := by
    intro c cs hc
    rw [firstWord, trim_append_blank hc, firstWord]
  calc ((splitFrom [','] 0 [] (trim cs)).map String.ofList).map columnName
      = (splitFrom [','] 0 [] (trim cs)).map firstWord := by
        rw [List.map_map]
        refine List.map_congr_left fun piece _ => ?_
        rw [Function.comp_apply, columnName_ofList]
    _ = (splitFrom [','] 0 [] cs).map firstWord := map_splitFrom_trim rfl hstart hend cs

/-- What stands before the first closing parenthesis and after the first opening one. -/
def inParentheses (cs : List Char) : List Char :=
  (cs.takeWhile (· != ')')).drop ((cs.takeWhile (· != '(')).length + 1)

/-- Without nested types, the names are the first words between the parentheses. -/
theorem columnNames_ofList {cs : List Char} (h : ∀ c ∈ ['(', ')'], c ∈ dropNestedFrom 0 cs) :
    columnNames (String.ofList cs) =
      .ok ((splitFrom [','] 0 [] (inParentheses (dropNestedFrom 0 cs))).map firstWord) := by
  have hfound : ∀ c ∈ ['(', ')'], (dropNested (String.ofList cs)).toList.contains c = true := by
    intro c hc
    rw [dropNested, String.toList_ofList, String.toList_ofList, List.contains_iff_mem]
    exact h c hc
  have htake : ∀ (cs : List Char) (p : Char → Bool), cs.take (cs.takeWhile p).length = cs.takeWhile p :=
    fun cs p => (List.prefix_iff_eq_take.1 (List.takeWhile_prefix p)).symm
  rw [columnNames, columnTexts, indexOf, if_pos (hfound '(' (by simp)), indexOf, if_pos (hfound ')' (by simp))]
  refine congrArg Except.ok ?_
  rw [htake, dropNested, String.toList_ofList, String.toList_ofList, split, strip, String.toList_ofList,
    String.toList_ofList, String.toList_ofList]
  exact map_columnName_splitFrom _

/-- The names of the columns are read off a definition, in order. -/
theorem columnNames_text (d : Definition) :
    columnNames (String.ofList d.text) = .ok (d.columns.map fun c => String.ofList c.name.chars) := by
  have hopening : '(' ∉ d.opening ∧ ')' ∉ d.opening :=
    ⟨fun hm => d.plain_opening _ hm (by simp), fun hm => d.plain_opening _ hm (by simp)⟩
  have hoff : ∀ e ∈ [',', ')'], ∀ piece ∈ d.columns.map Column.outline, e ∉ piece := by
    simp only [List.mem_map]
    rintro e he _ ⟨c, -, rfl⟩
    exact c.not_mem_outline he
  have hcomma := hoff ',' (by decide)
  have hparen := not_mem_intercalate (by decide : ')' ∉ [',']) (hoff ')' (by decide))
  have htexts := columnTexts_ofList hopening hparen (dropNestedFrom 0 d.closing)
  rw [columnNames, dropNested, String.toList_ofList, d.dropNestedFrom_text, Definition.outline, htexts]
  refine congrArg Except.ok ((map_columnName_splitFrom _).trans ?_)
  rw [splitFrom_intercalate (by simpa using d.columns_ne_nil) hcomma, List.map_map]
  exact List.map_congr_left fun c _ => c.firstWord_outline

def ordersDefinition : Definition where
  opening := "CREATE TABLE orders ".toList
  columns :=
    [{ name := ⟨"lines".toList, by decide, forall_mem_of_all (by decide)⟩
       type := .array (.nested "STRUCT<" (by decide)
         { start := "sku: STRING, tags: MAP".toList
           pairs := [("STRING, STRING".toList, [])]
           noAngle_start := by unfold NoAngle; decide
           noAngle_pairs := by unfold NoAngle; decide })
       isRequired := false
       before := ['\n']
       after := []
       blank_before := forall_mem_of_all (by decide)
       blank_after := forall_mem_of_all (by decide) },
     { name := ⟨"id".toList, by decide, forall_mem_of_all (by decide)⟩
       type := .word ⟨"BIGINT".toList, by decide, forall_mem_of_all (by decide)⟩
       isRequired := true
       before := [' ']
       after := ['\n']
       blank_before := forall_mem_of_all (by decide)
       blank_after := forall_mem_of_all (by decide) }]
  closing := ";".toList
  plain_opening := forall_mem_of_all (by decide)
  columns_ne_nil := List.cons_ne_nil _ _

theorem columnNames_text_orders :
    columnNames ("CREATE TABLE orders (\nlines ARRAY<STRUCT<sku: STRING, tags: MAP<STRING, STRING>>>, " ++
      "id BIGINT NOT NULL\n);") = .ok ["lines", "id"] := by
  have htext : String.ofList ordersDefinition.text =
      "CREATE TABLE orders (\nlines ARRAY<STRUCT<sku: STRING, tags: MAP<STRING, STRING>>>, " ++
        "id BIGINT NOT NULL\n);" := by decide
  rw [← htext, columnNames_text]
  rfl

end WarehouseMigration.Deployment
