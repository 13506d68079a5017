import WarehouseMigration.Deployment.TableDefinition

/-!
# Nested types in the definitions of tables

A nested type begins with a keyword and an angle bracket and goes up to the bracket that closes it, with at most one
more pair of brackets around a place inside it (`closingAngle_body`).  Dropping the nested types of a text leaves all
else: a text without brackets that no keyword can reach across (`dropNestedFrom_plain`), and the end of a text in which
nothing is closed that was opened before (`exists_dropNestedFrom_append`).
-/

namespace WarehouseMigration.Deployment

variable {cs rest : List Char} {inside : Bool} {n : Nat}

abbrev keywords : List String := ["STRUCT<", "MAP<"]

/-- What holds for every character of a text can be tested. -/
theorem forall_mem_of_all {p : Char → Prop} [DecidablePred p] (h : (cs.all fun c => decide (p c)) = true) :
    ∀ c ∈ cs, p c := by
  simpa using h

def NoAngle (cs : List Char) : Prop := '<' ∉ cs ∧ '>' ∉ cs

/-! ### The closing bracket -/

private theorem closingAngle_append (h : NoAngle cs) (inside : Bool) (rest : List Char) :
    closingAngle inside (cs ++ rest) = (closingAngle inside rest).map (· + cs.length) := by
  induction cs with
  | nil => simp
  | cons c cs ih =>
    have hopen : c ≠ '<' := fun heq => h.1 (by simp [heq])
    have hclose : c ≠ '>' := fun heq => h.2 (by simp [heq])
    have hcs : NoAngle cs := ⟨fun hm => h.1 (by simp [hm]), fun hm => h.2 (by simp [hm])⟩
    rw [List.cons_append, closingAngle, if_neg hopen, if_neg hclose, ih hcs, Option.map_map]
    rfl

/-- An inner pair of brackets is passed over. -/
private theorem closingAngle_pair (h : NoAngle cs) (rest : List Char) :
    closingAngle false ('<' :: (cs ++ '>' :: rest)) = (closingAngle false rest).map (· + (cs.length + 2)) := by
  have hinner : closingAngle true ('>' :: rest) = (closingAngle false rest).map (· + 1) := rfl
  have houter : closingAngle false ('<' :: (cs ++ '>' :: rest)) =
      (closingAngle true (cs ++ '>' :: rest)).map (· + 1) := rfl
  rw [houter, closingAngle_append h, hinner, Option.map_map, Option.map_map]
  congr 1
  funext k
  simp only [Function.comp]
  omega

/-- What stands between the brackets of a nested type: texts without brackets, and between them such texts in
brackets. -/
structure Body where
  start : List Char
  pairs : List (List Char × List Char)
  noAngle_start : NoAngle start
  noAngle_pairs : ∀ pair ∈ pairs, NoAngle pair.1 ∧ NoAngle pair.2

def Body.text (body : Body) : List Char :=
  body.start ++ body.pairs.flatMap fun pair => '<' :: (pair.1 ++ '>' :: pair.2)

/-- A nested type ends with the first bracket behind what stands between its brackets. -/
theorem closingAngle_body (body : Body) (rest : List Char) :
    closingAngle false (body.text ++ '>' :: rest) = some (body.text.length + 1) := by
  obtain ⟨start, pairs, hstart, hpairs⟩ := body
  simp only [Body.text]
  induction pairs generalizing start with
  | nil =>
    have hclose : closingAngle false ('>' :: rest) = some 1 := rfl
    simp [closingAngle_append hstart, hclose, Nat.add_comm]
  | cons pair pairs ih =>
    obtain ⟨hfirst, hsecond⟩ := hpairs pair List.mem_cons_self
    have hih := ih pair.2 hsecond fun p hp => hpairs p (List.mem_cons_of_mem _ hp)
    simp only [List.flatMap_cons, List.append_assoc, List.cons_append] at hih ⊢
    rw [closingAngle_append hstart, closingAngle_pair hfirst, hih]
    simp only [Option.map_some, List.length_append, List.length_cons, Option.some.injEq]
    omega

/-- A bracket that was opened in a text is closed there, unless the rest of the text can close one. -/
private theorem closingAngle_append_cases (h : closingAngle inside (cs ++ rest) = some n) :
    n ≤ cs.length ∨ ∃ inside' m, closingAngle inside' rest = some m := by
  induction cs generalizing inside n with
  | nil => exact .inr ⟨inside, n, h⟩
  | cons c cs ih =>
    have hmap : ∀ i, (closingAngle i (cs ++ rest)).map (· + 1) = some n →
        n ≤ (c :: cs).length ∨ ∃ inside' m, closingAngle inside' rest = some m := by
      intro i hi
      obtain ⟨m, hm, rfl⟩ := Option.map_eq_some_iff.1 hi
      exact (ih hm).imp_left Nat.succ_le_succ
    rw [List.cons_append, closingAngle] at h
    split at h
    · split at h
      · cases h
      · exact hmap _ h
    · split at h
      · split at h
        · exact hmap _ h
        · cases h
          exact .inl (Nat.le_add_left 1 _)
      · exact hmap _ h

/-! ### Nested types -/

private theorem nestedLength_eq_none (h : ∀ word ∈ keywords, ¬ word.toList <+: cs) : nestedLength cs = none := by
  rw [nestedLength, List.findSome?_eq_none_iff]
  intro word hword
  rw [if_neg fun hp => h word hword (List.isPrefixOf_iff_prefix.1 hp)]

private theorem exists_of_nestedLength (h : nestedLength cs = some n) :
    ∃ word ∈ keywords, ∃ rest m, cs = word.toList ++ rest ∧ closingAngle false rest = some m ∧ n = m + word.length := by
  obtain ⟨word, hword, hfound⟩ := List.exists_of_findSome?_eq_some h
  split at hfound
  case isTrue hp =>
    obtain ⟨rest, rfl⟩ := List.isPrefixOf_iff_prefix.1 hp
    obtain ⟨m, hm, rfl⟩ := Option.map_eq_some_iff.1 hfound
    rw [← String.length_toList, List.drop_left] at hm
    exact ⟨word, hword, rest, m, rfl, hm, rfl⟩
  case isFalse => cases hfound

variable {word : String}

private theorem nestedLength_keyword (h : word ∈ keywords) (rest : List Char) :
    nestedLength (word.toList ++ rest) = (closingAngle false rest).map (· + word.length) := by
  have hself : (if word.toList.isPrefixOf (word.toList ++ rest) then
      (closingAngle false ((word.toList ++ rest).drop word.length)).map (· + word.length) else none) =
      (closingAngle false rest).map (· + word.length) := by
    rw [if_pos (List.isPrefixOf_iff_prefix.2 (List.prefix_append _ rest)), ← String.length_toList, List.drop_left]
  have hword : word = "STRUCT<" ∨ word = "MAP<" := by simpa using h
  rcases hword with rfl | rfl
  · -- a text that begins with the first keyword does not begin with the second one
    have hother : "MAP<".toList.isPrefixOf ("STRUCT<".toList ++ rest) = false := rfl
    rw [nestedLength, List.findSome?_cons, hself]
    cases closingAngle false rest with
    | some m => rfl
    | none => simp only [Option.map_none, List.findSome?_cons, hother, Bool.false_eq_true, if_false, List.findSome?_nil]
  · have hother : "STRUCT<".toList.isPrefixOf ("MAP<".toList ++ rest) = false := rfl
    rw [nestedLength, List.findSome?_cons, hother, if_neg Bool.false_ne_true, List.findSome?_cons, hself]
    cases closingAngle false rest <;> rfl

abbrev keywordLetters : List Char := "STRUCT<MAP".toList

private theorem mem_keywordLetters (h : word ∈ keywords) :
    '<' ∈ word.toList ∧ ∀ c ∈ word.toList, c ∈ keywordLetters := by
  have hword : word = "STRUCT<" ∨ word = "MAP<" := by simpa using h
  rcases hword with rfl | rfl <;> exact ⟨by decide, forall_mem_of_all (by decide)⟩

variable {c : Char}

/-- No keyword reaches across a character that is in none. -/
private theorem not_prefix_of_not_mem (hword : word ∈ keywords) (hcs : '<' ∉ cs)
    (hc : c ∉ keywordLetters) (rest : List Char) : ¬ word.toList <+: cs ++ c :: rest := by
  intro hp
  obtain ⟨hangle, hletters⟩ := mem_keywordLetters hword
  have hend : cs ++ [c] <+: cs ++ c :: rest := ⟨rest, by simp⟩
  rcases List.prefix_or_prefix_of_prefix hp hend with hshort | hlong
  · rcases List.mem_append.1 (hshort.subset hangle) with hmem | hmem
    · exact hcs hmem
    · exact hc (List.mem_singleton.1 hmem ▸ hletters _ hangle)
  · exact hc (hletters c (hlong.subset (by simp)))

/-! ### Dropping nested types -/

private theorem dropNestedFrom_skip (k : Nat) (cs : List Char) : dropNestedFrom k cs = dropNestedFrom 0
    (cs.drop k) := by
  induction k generalizing cs with
  | zero => rfl
  | succ k ih =>
    cases cs with
    | nil => rfl
    | cons c cs => exact ih cs

private theorem dropNestedFrom_cons (h : nestedLength (c :: rest) = none) :
    dropNestedFrom 0 (c :: rest) = c :: dropNestedFrom 0 rest := by
  rw [dropNestedFrom, h]

/-- Characters in no keyword are kept. -/
theorem dropNestedFrom_plain (hcs : '<' ∉ cs) (hc : c ∉ keywordLetters) (rest : List Char) :
    dropNestedFrom 0 (cs ++ c :: rest) = cs ++ c :: dropNestedFrom 0 rest := by
  induction cs with
  | nil =>
    exact dropNestedFrom_cons (nestedLength_eq_none fun word hword => not_prefix_of_not_mem hword hcs hc rest)
  | cons d cs ih =>
    have hnone : nestedLength (d :: (cs ++ c :: rest)) = none :=
      nestedLength_eq_none fun word hword => not_prefix_of_not_mem hword hcs hc rest
    rw [List.cons_append, dropNestedFrom_cons hnone, ih fun hm => hcs (List.mem_cons_of_mem _ hm)]
    rfl

private theorem dropNestedFrom_of_some (h : nestedLength cs = some (n + 1)) : dropNestedFrom 0 cs = dropNestedFrom 0
    (cs.drop (n + 1)) := by
  cases cs with
  | nil => simp [nestedLength] at h
  | cons c cs =>
    rw [dropNestedFrom, h]
    exact dropNestedFrom_skip n cs

/-- A nested type is dropped as a whole. -/
theorem dropNestedFrom_nested (h : word ∈ keywords) (body : Body) (rest : List Char) :
    dropNestedFrom 0 (word.toList ++ (body.text ++ '>' :: rest)) = dropNestedFrom 0 rest := by
  have hlength : nestedLength (word.toList ++ (body.text ++ '>' :: rest)) =
      some (word.length + body.text.length + 1) := by
    rw [nestedLength_keyword h, closingAngle_body, Option.map_some, Option.some.injEq]
    omega
  have hall : word.toList ++ (body.text ++ '>' :: rest) = (word.toList ++ body.text ++ ['>']) ++ rest := by simp
  have hlong : (word.toList ++ body.text ++ ['>']).length = word.length + body.text.length + 1 := by
    simp only [List.length_append, String.length_toList, List.length_singleton]
  rw [dropNestedFrom_of_some hlength, hall, ← hlong, List.drop_left]

/-- A nested type that begins in a text ends in it, if no keyword reaches over its end and nothing is closed behind
it. -/
private theorem nestedLength_append_le (hc : c ∉ keywordLetters) (hrest : ∀ i, closingAngle i (c :: rest) = none)
    (h : nestedLength (cs ++ c :: rest) = some n) : n ≤ cs.length := by
  obtain ⟨word, hword, more, m, heq, hclose, rfl⟩ := exists_of_nestedLength h
  rcases List.append_eq_append_iff.1 heq with ⟨a, hover, hmore⟩ | ⟨a, rfl, rfl⟩
  · rcases List.cons_eq_append_iff.1 hmore with ⟨rfl, rfl⟩ | ⟨a, rfl, -⟩
    · rw [hrest] at hclose
      cases hclose
    · exact absurd ((mem_keywordLetters hword).2 c (by simp [hover])) hc
  · rcases closingAngle_append_cases hclose with hle | ⟨i, k, hk⟩
    · rw [List.length_append, String.length_toList]
      omega
    · rw [hrest] at hk
      cases hk

/-- The end of a text is kept if no keyword reaches over its start and nothing is closed in it that was opened before.
-/
theorem exists_dropNestedFrom_append (hc : c ∉ keywordLetters) (hrest : ∀ i, closingAngle i (c :: rest) = none)
    {k : Nat} (hk : k ≤ cs.length) :
    ∃ front, dropNestedFrom k (cs ++ c :: rest) = front ++ dropNestedFrom 0 (c :: rest) := by
  induction cs generalizing k with
  | nil =>
    obtain rfl : k = 0 := by simpa using hk
    exact ⟨[], rfl⟩
  | cons d cs ih =>
    cases k with
    | succ k => exact ih (Nat.le_of_succ_le_succ hk)
    | zero =>
      cases hlength : nestedLength (d :: (cs ++ c :: rest)) with
      | none =>
        obtain ⟨front, hfront⟩ := ih (Nat.zero_le _)
        exact ⟨d :: front, by rw [List.cons_append, dropNestedFrom_cons hlength, hfront]; rfl⟩
      | some n =>
        have hle : n ≤ (d :: cs).length := nestedLength_append_le hc hrest hlength
        obtain ⟨front, hfront⟩ := ih (k := n - 1) (by simp at hle; omega)
        exact ⟨front, by rw [List.cons_append, dropNestedFrom, hlength]; exact hfront⟩

end WarehouseMigration.Deployment
