import WarehouseMigration.Text.Blank
import WarehouseMigration.Text.Utf8
import WarehouseMigration.Text.Word

/-!
# Patterns

What a pattern of characters finds in a text, and how it is written: classes in square brackets, groups in round ones,
repetitions behind a part, a backslash in front of letters for classes and edges.
-/

namespace WarehouseMigration.Text

inductive Pattern where
  | nothing
  /-- a character of a class -/
  | one (accepts : Char → Bool)
  /-- a place between characters -/
  | edge (holds : List Char → Nat → Bool)
  | both (first second : Pattern)
  | either (first second : Pattern)
  | many (least : Nat) (most : Option Nat) (part : Pattern)

namespace Pattern

/-- The places in a text that a pattern leads to from a place. -/
def places (text : List Char) : Pattern → Nat → List Nat
  | nothing, n => [n]
  | one accepts, n => if (text[n]?).any accepts then [n + 1] else []
  | edge holds, n => if holds text n then [n] else []
  | both a b, n => ((a.places text n).flatMap (b.places text)).eraseDups
  | either a b, n => (a.places text n ++ b.places text n).eraseDups
  | many least most part, n =>
    -- no more repetitions than there are characters lead to new places
    let turns := fun k => List.range (min k (text.length + 1))
    let needed := (turns least).foldl (fun ns _ => (ns.flatMap (part.places text)).eraseDups) [n]
    (turns (most.elim (text.length + 1) (· - least))).foldl
      (fun ns _ => (ns ++ ns.flatMap (part.places text)).eraseDups) needed

def begins (p : Pattern) (s : String) : Bool := !(p.places s.toList 0).isEmpty

/-! ### Reading patterns -/

abbrev Reading := StateT (List Char) Option

def next : Reading Char := fun cs => cs.head?.map (·, cs.tail)

def accept (c : Char) : Reading Bool := fun cs => some (if cs.head? = some c then (true, cs.tail) else (false, cs))

def takeSome (isMember : Char → Bool) (most : Nat) : Reading (List Char) := fun cs =>
  let found := (cs.take most).takeWhile isMember
  some (found, cs.drop found.length)

def digitOf (c : Char) : Nat :=
  if c.isDigit then c.toNat - 48 else if c.isLower then c.toNat - 87 else c.toNat - 55

def isHex (c : Char) : Bool := c.isDigit || 'a' ≤ c && c ≤ 'f' || 'A' ≤ c && c ≤ 'F'

def valueOf (base : Nat) (ds : List Char) : Nat := ds.foldl (fun n d => base * n + digitOf d) 0

/-! ### Classes -/

def classOf? : Char → Option (Char → Bool)
  | 'd' => some isDecimal
  | 'D' => some fun c => !isDecimal c
  | 'w' => some isWord
  | 'W' => some fun c => !isWord c
  | 's' => some isBlank
  | 'S' => some fun c => !isBlank c
  | _ => none

def readCode (width : Nat) : Reading Char := do
  let ds ← takeSome isHex width
  if ds.length < width then failure
  charOf? 0 (valueOf 16 ds)

def readEscape : Char → Reading Char
  | 'x' => readCode 2
  | 'u' => readCode 4
  | 'U' => readCode 8
  | c => match ("0afnrtv".toList.zip "\x00\x07\x0c\n\r\t\x0b".toList).lookup c with
    | some d => return d
    | none => if c.isAlphanum then failure else return c

/-- A character or a class of them. -/
abbrev Member := Char ⊕ (Char → Bool)

def Member.accepts : Member → Char → Bool
  | .inl c => (· = c)
  | .inr accepts => accepts

def readMember (c : Char) : Reading Member := do
  if c != '\\' then return .inl c
  let c ← next
  if c = 'b' then return .inl '\x08'
  match classOf? c with
  | some accepts => return .inr accepts
  | none => return .inl (← readEscape c)

/-- Reads the members of a class up to its closing bracket. -/
def readMembers (isFirst : Bool) (found : Char → Bool) : Nat → Reading (Char → Bool)
  | 0 => failure
  | fuel + 1 => do
    let c ← next
    if c = ']' && !isFirst then return found
    let low ← readMember c
    unless ← accept '-' do return ← readMembers false (fun d => found d || low.accepts d) fuel
    if ← accept ']' then return fun d => found d || low.accepts d || d = '-'
    match low, ← readMember (← next) with
    | .inl a, .inl b => if b < a then failure else readMembers false (fun d => found d || a ≤ d && d ≤ b) fuel
    | _, _ => failure

def readSet : Reading Pattern := do
  let isNegative ← accept '^'
  let accepts ← readMembers true (fun _ => false) (← get).length
  return .one (if isNegative then fun c => !accepts c else accepts)

/-! ### Edges -/

def isBoundary (isWanted : Bool) (text : List Char) (n : Nat) : Bool :=
  let before := n != 0 && (text[n - 1]?).any isWord
  let after := (text[n]?).any isWord
  !text.isEmpty && ((before != after) == isWanted)

def isStop (text : List Char) (n : Nat) : Bool :=
  n == text.length || text[n]? == some '\n' && n + 1 == text.length

def edgeOf? : Char → Option (List Char → Nat → Bool)
  | 'A' => some fun _ n => n == 0
  | 'Z' => some fun text n => n == text.length
  | 'b' => some (isBoundary true)
  | 'B' => some (isBoundary false)
  | _ => none

/-! ### Groups and repetitions -/

/-- How often a part is repeated, as it is written behind an opening brace. -/
def readCounts : Reading (Nat × Option Nat) := do
  if ← accept '\x7d' then failure
  let digits := takeSome Char.isDigit (← get).length
  let low ← digits
  let high ← if ← accept ',' then digits else pure low
  unless ← accept '\x7d' do failure
  return (valueOf 10 low, if high.isEmpty then none else some (valueOf 10 high))

/-- A part, and whether it can be repeated: an edge cannot, and a repetition cannot. -/
abbrev Item := Bool × Pattern

/-- Repeats the last of some parts. -/
def repeatLast (least : Nat) (most : Option Nat) : List Item → Reading (List Item)
  | (true, part) :: items => do
    if most.any (· < least) then failure
    -- whether as few as possible are preferred makes no difference to what is found
    let _ ← accept '?'
    return (false, .many least most part) :: items
  | _ => failure

/-- Reads the beginning of a group, from behind its bracket. -/
def readOpening : Reading Unit := do
  unless ← accept '?' do return
  if ← accept ':' then return
  unless (← accept 'P') && (← accept '<') do failure
  let name ← takeSome isWord (← get).length
  unless (← accept '>') && !name.isEmpty && !(name.take 1).any isDecimal do failure

mutual

def readChoice : Nat → Reading Pattern
  | 0 => failure
  | fuel + 1 => do
    let first ← readSequence [] fuel
    if ← accept '|' then return .either first (← readChoice fuel)
    return first

/-- Reads parts that stand one after another; `items` are those read so far, last first. -/
def readSequence (items : List Item) : Nat → Reading Pattern
  | 0 => failure
  | fuel + 1 => do
    if (← get).head?.all fun c => c = '|' || c = ')' then
      return items.foldl (fun p (_, q) => .both q p) .nothing
    let go := fun (item : Item) => readSequence (item :: items) fuel
    let literal := fun (c : Char) => go (true, .one (· = c))
    match ← next with
    | '\\' =>
      let c ← next
      if let some holds := edgeOf? c then go (false, .edge holds)
      else if let some accepts := classOf? c then go (true, .one accepts)
      else literal (← readEscape c)
    | '[' => go (true, ← readSet)
    | '*' => readSequence (← repeatLast 0 none items) fuel
    | '+' => readSequence (← repeatLast 1 none items) fuel
    | '?' => readSequence (← repeatLast 0 (some 1) items) fuel
    | '\x7b' =>
      let rest ← get
      match readCounts rest with
      | some ((least, most), rest) =>
        set rest
        readSequence (← repeatLast least most items) fuel
      | none => literal '\x7b'
    | '.' => go (true, .one (· != '\n'))
    | '^' => go (false, .edge fun _ n => n == 0)
    | '$' => go (false, .edge isStop)
    | '(' =>
      readOpening
      let part ← readChoice fuel
      unless ← accept ')' do failure
      go (true, part)
    | c => literal c

end

def parse (s : String) : Option Pattern :=
  match readChoice (3 * s.length + 8) s.toList with
  | some (p, []) => some p
  | _ => none

end Pattern

end WarehouseMigration.Text
