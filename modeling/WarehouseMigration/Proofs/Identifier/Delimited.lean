import WarehouseMigration.Connector.Basic
import WarehouseMigration.Proofs.Text.Doubling
import WarehouseMigration.Proofs.Text.Lowering

/-!
# Delimited names

What the operations on delimiters do when each mark is one character, as in every database here: a name `cs` between
the marks `a` and `z` is `a :: cs ++ [z]`, and `quote a z cs` is the name `cs` as it has to be written between them.

The key facts are the spellings of a bare name (`ansiChars_bare`, `sourceChars_bare`), of a quoted one
(`ansiChars_quote`) and of one between backticks (`ansiChars_ansi`).  What is written between backticks is read back
exactly (`quotation_undone`).
-/

namespace WarehouseMigration

open Text (doubled halved)

namespace Delimiters

/-- A name between the marks `a` and `z`, with every closing mark in it doubled. -/
def quote (a z : Char) (name : List Char) : List Char := a :: doubled z name ++ [z]

variable {a z : Char} {cs : List Char}

/-- A name is between marks if it begins with one and ends with the other. -/
theorem surround_iff : surround ⟨[a], [z]⟩ cs = true ↔ cs.head? = some a ∧ cs.getLast? = some z := by
  simp only [surround, Bool.and_eq_true, List.isPrefixOf_iff_prefix, List.isSuffixOf_iff_suffix]
  constructor
  · rintro ⟨⟨xs, rfl⟩, ys, hy⟩
    exact ⟨rfl, by rw [← hy]; simp⟩
  · rintro ⟨h1, h2⟩
    obtain ⟨xs, rfl⟩ := List.head?_eq_some_iff.1 h1
    obtain ⟨ys, hy⟩ := List.getLast?_eq_some_iff.1 h2
    exact ⟨⟨xs, rfl⟩, ys, hy.symm⟩

@[simp] theorem surround_cons_append (xs : List Char) : surround ⟨[a], [z]⟩ (a :: xs ++ [z]) = true :=
  surround_iff.2 ⟨rfl, by rw [List.getLast?_concat]⟩

/-- A name that begins with another character is not between the marks. -/
theorem surround_cons_of_ne {b : Char} (h : b ≠ a) (xs : List Char) : surround ⟨[a], [z]⟩ (b :: xs) = false := by
  rw [← Bool.not_eq_true, surround_iff]
  rintro ⟨h1, -⟩
  exact h (by simpa using h1)

@[simp] theorem inner_cons_append (b c : Char) (xs : List Char) : Text.inner (b :: xs ++ [c]) = xs := by
  simp [Text.inner]

@[simp] theorem unwrap_cons_append (xs : List Char) : unwrap ⟨[a], [z]⟩ (a :: xs ++ [z]) = xs := by
  have h : [z].isSuffixOf (xs ++ [z]) = true := List.isSuffixOf_iff_suffix.2 ⟨xs, rfl⟩
  simp [unwrap, Text.dropStart, Text.dropTail, h]

/-- Escapes are undone by halving the closing mark. -/
theorem unescape_eq_halved : unescape ⟨[a], [z]⟩ cs = halved z cs := Text.replaceChars_halve

/-- Escaping keeps what lies between the outer characters and puts it between the marks. -/
theorem escape_eq_quote (h : cs ≠ []) : escape ⟨[a], [z]⟩ cs = quote a z (Text.inner cs) := by
  have : cs.isEmpty = false := by simpa using h
  simp [escape, this, wrap, quote, Text.replaceChars_double]

/-- A name that is between no marks is put between the wanted ones. -/
private theorem exchange_bare {d wanted : Delimiters} (hne : cs ≠ []) (hw : wanted.surround cs = false)
    (hd : d.surround cs = false) : d.exchange wanted cs = wanted.wrap cs := by
  have : cs.isEmpty = false := by simpa using hne
  simp [exchange, this, hw, hd]

theorem ansi_eq : ansi = ⟨['\x60'], ['\x60']⟩ := rfl

end Delimiters

namespace Identifier

open Delimiters (quote ansi_eq)

variable {a z : Char} {cs : List Char}

/-- A text is no longer the same with a mark before it and one behind it. -/
private theorem cons_append_ne (b c : Char) (xs : List Char) : b :: xs ++ [c] ≠ xs := by
  intro h
  have := congrArg List.length h
  simp at this
  omega

private theorem halved_cons_ne_nil (b : Char) (xs : List Char) : halved z (b :: xs) ≠ [] := by
  cases xs with
  | nil => simp [halved]
  | cons c xs =>
    simp only [halved]
    split <;> simp

/-! ### ANSI spellings -/

/-- A name between backticks is its own ANSI spelling. -/
theorem ansiChars_ansi (d : Delimiters) (xs : List Char) :
    ansiChars d ('\x60' :: xs ++ ['\x60']) = '\x60' :: xs ++ ['\x60'] := by
  have h : d.exchange .ansi ('\x60' :: xs ++ ['\x60']) = '\x60' :: xs ++ ['\x60'] := by
    rw [Delimiters.exchange, ansi_eq, Delimiters.surround_cons_append]
    simp
  simp only [ansiChars, h, ite_true]

/-- A bare name is put between backticks first, and then closing marks are halved in the whole of it: once, or twice
if they are not backticks themselves. -/
theorem ansiChars_bare (hne : cs ≠ []) (ha : Delimiters.ansi.surround cs = false)
    (hd : Delimiters.surround ⟨[a], [z]⟩ cs = false) :
    ansiChars ⟨[a], [z]⟩ cs =
      if z = '\x60' then quote '\x60' '\x60' (Text.inner (halved z ('\x60' :: cs ++ ['\x60'])))
      else quote '\x60' '\x60' (halved z (halved z cs)) := by
  have hx : Delimiters.exchange ⟨[a], [z]⟩ .ansi cs = '\x60' :: cs ++ ['\x60'] := Delimiters.exchange_bare hne ha hd
  simp only [ansiChars, hx, cons_append_ne, ite_false]
  simp only [ansi_eq, Delimiters.unescape_eq_halved, List.cons.injEq, and_true]
  have hnil : halved z ('\x60' :: cs ++ ['\x60']) ≠ [] := halved_cons_ne_nil _ _
  rw [Delimiters.escape_eq_quote hnil]
  by_cases hz : z = '\x60'
  · simp only [hz, ite_true]
  · have hz' : '\x60' ≠ z := fun h => hz h.symm
    simp only [hz, ite_false]
    rw [Text.halved_between hz', Delimiters.inner_cons_append, quote, Text.halved_between hz',
        Text.halved_doubled_of_ne hz',
      quote]

/-- The marks of a quoted name are replaced by backticks, and the closing marks in it are halved twice. -/
theorem ansiChars_quote (ha : a ≠ '\x60') (hz : z ≠ '\x60') :
    ansiChars ⟨[a], [z]⟩ (quote a z cs) = quote '\x60' '\x60' (halved z cs) := by
  have hz' : '\x60' ≠ z := fun h => hz h.symm
  have hx : Delimiters.exchange ⟨[a], [z]⟩ .ansi (quote a z cs) = '\x60' :: doubled z cs ++ ['\x60'] := by
    have h1 : Delimiters.ansi.surround (quote a z cs) = false := Delimiters.surround_cons_of_ne ha _
    have h2 : Delimiters.surround ⟨[a], [z]⟩ (quote a z cs) = true := Delimiters.surround_cons_append _
    have h3 : Delimiters.unwrap ⟨[a], [z]⟩ (quote a z cs) = doubled z cs := Delimiters.unwrap_cons_append _
    simp only [Delimiters.exchange, h1, h2, h3, Bool.false_eq_true, ite_false, ite_true]
    simp [quote, Delimiters.wrap, ansi_eq]
  have hne : '\x60' :: doubled z cs ++ ['\x60'] ≠ quote a z cs := by
    intro h
    simp only [quote, List.cons_append, List.cons.injEq] at h
    exact ha h.1.symm
  simp only [ansiChars, hx, hne, ite_false]
  simp only [ansi_eq, Delimiters.unescape_eq_halved, List.cons.injEq, and_true, hz, ite_false]
  rw [Text.halved_between hz', Text.halved_doubled, Delimiters.escape_eq_quote (by simp), Delimiters.inner_cons_append,
    quote, Text.halved_between hz', Text.halved_doubled_of_ne hz', quote]

/-! ### Spellings of the database -/

/-- A bare name is spelled between the marks of its database. -/
theorem sourceChars_bare (hne : cs ≠ []) (ha : Delimiters.ansi.surround cs = false)
    (hd : Delimiters.surround ⟨[a], [z]⟩ cs = false) : sourceChars ⟨[a], [z]⟩ cs = quote a z cs := by
  have hx : Delimiters.exchange ⟨[a], [z]⟩ .ansi cs = '\x60' :: cs ++ ['\x60'] := Delimiters.exchange_bare hne ha hd
  have hown : Delimiters.exchange ⟨[a], [z]⟩ ⟨[a], [z]⟩ cs = a :: cs ++ [z] := Delimiters.exchange_bare hne hd hd
  simp only [sourceChars, hx, hown, cons_append_ne, ite_false]
  rw [Delimiters.escape_eq_quote (by simp), Delimiters.inner_cons_append]

/-! ### Undoing the quotation -/

/-- A name as it is written between backticks. -/
def quoted (name : String) : String := String.ofList (quote '\x60' '\x60' name.toList)

@[simp] theorem toList_quoted (name : String) : (quoted name).toList = quote '\x60' '\x60' name.toList :=
  String.toList_ofList

private theorem quoted_injective : Function.Injective quoted := by
  intro name other h
  have hchars : quote '\x60' '\x60' name.toList = quote '\x60' '\x60' other.toList := by
    rw [← toList_quoted, h, toList_quoted]
  have hinner := congrArg Text.inner hchars
  rw [quote, quote, Delimiters.inner_cons_append, Delimiters.inner_cons_append] at hinner
  exact String.toList_inj.1 (Text.doubled_injective hinner)

/-- The backticks around a lower-case name keep its white space, so that its written form is a normalised identifier. -/
private theorem ansiOf_quoted {name : String} (h : Text.lower name = name) : ansiOf (quoted name) = quoted name := by
  have hlower : Text.lowerChars (quote '\x60' '\x60' name.toList) = quote '\x60' '\x60' name.toList := by
    rw [Text.lowerChars_eq_self_iff]
    intro c hc
    have hmark : Text.IsLower '\x60' := by decide
    simp only [quote, List.mem_append, List.mem_cons, Text.mem_doubled, List.not_mem_nil, or_false] at hc
    rcases hc with (rfl | hc) | rfl
    · exact hmark
    · exact Text.lower_eq_self_iff.1 h c hc
    · exact hmark
  have htrim : Text.trim (quote '\x60' '\x60' name.toList) = quote '\x60' '\x60' name.toList :=
    Text.trim_cons_append (by decide) (by decide) _
  rw [ansiOf, normalize, toList_quoted, htrim, hlower]
  exact congrArg String.ofList (ansiChars_ansi .ansi _)

/-- A lower-case name, whatever backticks and white space are in it, comes back from its written form; so no two names
are written in the same way. -/
theorem quotation_undone {name : String} (h : Text.lower name = name) :
    ansiOf (quoted name) = quoted name ∧ bare (quoted name) = name ∧
      ∀ other, quoted other = quoted name → other = name := by
  refine ⟨ansiOf_quoted h, ?_, fun other hother => quoted_injective hother⟩
  rw [bare, ansiOf_quoted h, toList_quoted, quote, Delimiters.inner_cons_append, ansi_eq, Delimiters.unescape_eq_halved,
    Text.halved_doubled, String.ofList_toList]

/-- Runs of one, two and three backticks, next to the outer ones and to white space. -/
theorem quotation_undone_runs : Text.lower "\x60 a\x60\x60b\x60\x60\x60" = "\x60 a\x60\x60b\x60\x60\x60" ∧
    ansiOf "\x60\x60\x60 a\x60\x60\x60\x60b\x60\x60\x60\x60\x60\x60\x60" =
      "\x60\x60\x60 a\x60\x60\x60\x60b\x60\x60\x60\x60\x60\x60\x60" ∧
    bare "\x60\x60\x60 a\x60\x60\x60\x60b\x60\x60\x60\x60\x60\x60\x60" = "\x60 a\x60\x60b\x60\x60\x60" := by
  have h : Text.lower "\x60 a\x60\x60b\x60\x60\x60" = "\x60 a\x60\x60b\x60\x60\x60" := by decide
  obtain ⟨hansi, hbare, -⟩ := quotation_undone h
  exact ⟨h, hansi, hbare⟩

end Identifier

end WarehouseMigration
