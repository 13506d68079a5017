import WarehouseMigration.Yaml.Word

/-!
# Writing documents

Mappings and lists are written as blocks, texts plainly or in quotes; the entries of a mapping are written in the order
of their keys.
-/

namespace WarehouseMigration.Yaml.Printer

def lineWidth : Nat := 80

def isWritable (c : Char) : Bool := c = '\n' || ' ' ≤ c && c ≤ '~'

def hasMark : Char → List Char → Bool
  | _, [] => false
  | previous, c :: rest =>
    let followed := match rest with
      | [] => true
      | d :: _ => d = ' ' || d = '\t' || isBreak d
    c = ':' && followed || c = '#' && (previous = ' ' || previous = '\t' || isBreak previous) ||
      hasMark c rest

def beginsWithMark (cs : List Char) : Bool :=
  match cs with
  | [] => false
  | c :: rest =>
    let followed := match rest with
      | [] => true
      | d :: _ => d = ' ' || d = '\t' || isBreak d
    "#,[]\x7b\x7d&*!|>'\"%@\x60".toList.contains c || (c = '?' || c = ':' || c = '-') && followed ||
      ['-', '-', '-'].isPrefixOf cs || ['.', '.', '.'].isPrefixOf cs

def isPlain (s : String) : Bool :=
  let cs := s.toList
  Tag.ofWord s == .text &&
  cs.all (fun c => isWritable c && c != '\n') && cs.head? != some ' ' && cs.getLast? != some ' ' &&
  !beginsWithMark cs && !hasMark (cs.headD ' ') cs.tail

def escape (c : Char) : List Char :=
  match c with
  | '"' => ['\\', '"']
  | '\\' => ['\\', '\\']
  | '\x00' => ['\\', '0']
  | '\x07' => ['\\', 'a']
  | '\x08' => ['\\', 'b']
  | '\t' => ['\\', 't']
  | '\n' => ['\\', 'n']
  | '\x0b' => ['\\', 'v']
  | '\x0c' => ['\\', 'f']
  | '\r' => ['\\', 'r']
  | '\x1b' => ['\\', 'e']
  | '\u0085' => ['\\', 'N']
  | '\u00a0' => ['\\', '_']
  | '\u2028' => ['\\', 'L']
  | '\u2029' => ['\\', 'P']
  | c =>
    let n := c.toNat
    let digits := fun width => (Text.hexDigits width n).map Char.toUpper
    if isWritable c then [c]
    else if n ≤ 0xFF then ['\\', 'x'] ++ digits 2
    else if n ≤ 0xFFFF then ['\\', 'u'] ++ digits 4
    else ['\\', 'U'] ++ digits 8

def fold (indent : Nat) (column : Nat) : List Char → List Char
  | [] => []
  | c :: rest =>
    if c = ' ' && lineWidth < column && rest.head? != some ' ' && !rest.isEmpty then
      '\n' :: List.replicate indent ' ' ++ fold indent indent rest
    else c :: fold indent (column + 1) rest

/-- A text on one line or, if it is long, on several ones: plain if nothing speaks against it, else in quotes. -/
def scalar (indent column : Nat) (s : String) : String :=
  if isPlain s then String.ofList (fold indent column s.toList)
  else if s.toList.all fun c => isWritable c && c != '\n' then
    let doubled := s.toList.flatMap fun c => if c = '\'' then ['\'', '\''] else [c]
    String.ofList (['\''] ++ fold indent (column + 1) doubled ++ ['\''])
  else String.ofList (['"'] ++ s.toList.flatMap escape ++ ['"'])

def inline (indent column : Nat) (v : Value) : String :=
  match v with
  | .text s => scalar indent column s
  | .float x =>
    if x.isNaN then ".nan"
    else if x.isInf then (if x < 0 then "-.inf" else ".inf")
    else
      let s := (Json.render v).toList
      let front := s.takeWhile fun c => c != 'e'
      String.ofList (if front.contains '.' then s else front ++ ['.', '0'] ++ s.drop front.length)
  | .map _ => "\x7b\x7d"
  | .list _ => "[]"
  | v => Json.render v

def indentation (indent : Nat) : String := String.ofList (List.replicate indent ' ')

mutual

def block (indent : Nat) : Value → List String
  | .map entries => blockEntries indent entries
  | .list items => blockItems indent items
  | _ => []

def blockEntries (indent : Nat) : List (String × Value) → List String
  | [] => []
  | (key, v) :: rest =>
    let head := scalar indent indent key ++ ":"
    (match v with
      | .map (entry :: more) => head :: (block (indent + 2) (.map (entry :: more))).map (indentation 2 ++ ·)
      | .list (item :: more) => head :: block indent (.list (item :: more))
      | v => [head ++ " " ++ inline (indent + 2) (indent + head.length + 1) v]) ++ blockEntries indent rest

def blockItems (indent : Nat) : List Value → List String
  | [] => []
  | v :: rest =>
    (match block (indent + 2) v with
      | [] => ["- " ++ inline (indent + 2) (indent + 2) v]
      | first :: more => ("- " ++ first) :: more.map (indentation 2 ++ ·)) ++ blockItems indent rest

end

mutual

def sorted : Value → Value
  | .map entries => .map ((sortedEntries entries).mergeSort fun a b => a.1 ≤ b.1)
  | .list items => .list (sortedItems items)
  | v => v

def sortedEntries : List (String × Value) → List (String × Value)
  | [] => []
  | (key, v) :: rest => (key, sorted v) :: sortedEntries rest

def sortedItems : List Value → List Value
  | [] => []
  | v :: rest => sorted v :: sortedItems rest

end

def render (v : Value) : String :=
  match block 0 (sorted v) with
  | [] => inline 0 0 v ++ "\n"
  | lines => String.join (lines.map (· ++ "\n"))

end WarehouseMigration.Yaml.Printer
