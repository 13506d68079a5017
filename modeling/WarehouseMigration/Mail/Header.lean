import WarehouseMigration.Failure
import WarehouseMigration.Mail.Transfer
import WarehouseMigration.Text.Charset
import WarehouseMigration.Text.Search

/-!
# Header values

The value of a header that tells about content is a word followed by parameters.  Between their parts blanks and
comments in round brackets may stand; values may be quoted, spelt in another character set, or spread over numbered
sections.  Reading such a value first brings it into a standard form, from which the parameters are then taken.
-/

namespace WarehouseMigration.Mail

/-! ### Characters -/

variable (c : Char)

def isSpace : Bool := c = ' ' || c = '\t'

def isSpecial : Bool := "()<>@,:;.\\\"[]".contains c

def endsAtom : Bool := isSpecial c || isSpace c

def endsPhrase : Bool := isSpecial c && c != '.' && c != '"' && c != '('

def endsToken : Bool := isSpecial c && c != '.' || "/?=".contains c || isSpace c

def endsValue : Bool := endsToken c || c = '*' || c = '\''

def endsName : Bool := endsValue c || c = '%'

/-- Why a value cannot be read: it does not have the form that it should, it ends where it must go on, or bytes in it
spell no text. -/
inductive Flaw where
  | form
  | tooShort
  | undecodable

/-! ### Gaps and quotes -/

/-- Splits off printable characters up to one that ends them or a blank; a backslash takes away the meaning of the
character behind it. -/
def readPlain (isEnd : Char → Bool) (isEscaped : Bool) : List Char → List Char × List Char
  | [] => ([], [])
  | c :: rest =>
    if isSpace c then ([], c :: rest)
    else if c = '\\' && !isEscaped then readPlain isEnd true rest
    else if !isEscaped && isEnd c then ([], c :: rest)
    else
      let (front, back) := readPlain isEnd false rest
      (c :: front, back)

def commentText (cs : List Char) : List Char :=
  cs.flatMap fun c => if c = '\\' || c = '(' || c = ')' then ['\\', c] else [c]

def readComment : Nat → List Char → List Char × List Char
  | 0, cs => ([], cs)
  | _, [] => ([], [])
  | fuel + 1, c :: rest =>
    if c = ')' then ([], rest)
    else
      let (here, after) : List Char × List Char :=
        if isSpace c then ((c :: rest).takeWhile Text.isBlank, (c :: rest).dropWhile Text.isBlank)
        else if c = '(' then
          let (inside, after) := readComment fuel rest
          ('(' :: inside ++ [')'], after)
        else
          let (plain, after) := readPlain (fun d => d = '(' || d = ')') false (c :: rest)
          (commentText plain, after)
      let (more, after) := readComment fuel after
      (here ++ more, after)

def readGap : Nat → List Char → List Char × List Char
  | 0, cs => ([], cs)
  | _, [] => ([], [])
  | fuel + 1, c :: rest =>
    if isSpace c then
      let (more, after) := readGap fuel ((c :: rest).dropWhile Text.isBlank)
      ((c :: rest).takeWhile Text.isBlank ++ more, after)
    else if c = '(' then
      let (inside, after) := readComment (rest.length + 1) rest
      let (more, after) := readGap fuel after
      ('(' :: inside ++ ')' :: more, after)
    else ([], c :: rest)

def gap (cs : List Char) : List Char × List Char := readGap (cs.length + 1) cs

def inQuotes (cs : List Char) : List Char :=
  '"' :: cs.flatMap (fun c => if c = '\\' || c = '"' then ['\\', c] else [c]) ++ ['"']

def splitAt? (mark : List Char) : List Char → Option (List Char × List Char)
  | [] => none
  | c :: rest =>
    if mark.isPrefixOf (c :: rest) then some ([], (c :: rest).drop mark.length)
    else (splitAt? mark rest).map fun (front, back) => (c :: front, back)

def wordBytes : List Nat → List Nat
  | 61 :: a :: b :: rest =>
    match hexByte? a, hexByte? b with
    | some x, some y => (16 * x + y) :: wordBytes rest
    | _, _ => 61 :: wordBytes (a :: b :: rest)
  | 95 :: rest => 32 :: wordBytes rest
  | b :: rest => b :: wordBytes rest
  | [] => []

variable (codecs : Text.Codecs)

def decodeWord (word : List Char) : Option (List Char) :=
  match Text.split (String.ofList word) "?" with
  | [charset, encoding, text] =>
    let charset := ((Text.split charset "*").headD "")
    let bytes? := if !text.toList.all (·.toNat < 128) then none
      else match Text.lower encoding with
        | "q" => some (wordBytes (text.toList.map Char.toNat))
        | "b" => some (base64 (text.toList.map Char.toNat))
        | _ => none
    bytes?.bind (Text.Charset.decodeKeeping (Text.Charset.ofName? codecs charset))
  | _ => none

def readEncodedWord (cs : List Char) : Except Flaw (List Char × List Char) := do
  match splitAt? ['?', '='] cs with
  | none => throw .form
  | some (word, rest) =>
    let isHex := fun (c : Char) => (Json.hexValue? c).isSome
    let (word, rest) := match rest with
      | a :: b :: _ =>
        if isHex a && isHex b && word.count '?' < 2 then
          match splitAt? ['?', '='] rest with
          | some (more, after) => (word ++ ['?', '='] ++ more, after)
          | none => (word ++ ['?', '='] ++ rest, [])
        else (word, rest)
      | _ => (word, rest)
    match decodeWord codecs word with
    | some text => return (text, rest)
    | none => throw .form

inductive Piece where
  | blanks (cs : List Char)
  | word (cs : List Char)
  | plain (cs : List Char)

def Piece.join (later : List Char) : List Piece → List Char
  | word b :: blanks _ :: word a :: rest => join (b ++ later) (word a :: rest)
  | word cs :: rest | blanks cs :: rest | plain cs :: rest => join (cs ++ later) rest
  | [] => later

/-- Reads the inside of quotes up to the closing one; `pieces` come last first. -/
def readQuoted (codecs : Text.Codecs) (pieces : List Piece) : Nat → List Char → List Char × List Char
  | 0, cs => (Piece.join [] pieces, cs)
  | _, [] => (Piece.join [] pieces, [])
  | fuel + 1, c :: rest =>
    if c = '"' then (Piece.join [] pieces, rest)
    else if isSpace c then
      readQuoted codecs (.blanks ((c :: rest).takeWhile Text.isBlank) :: pieces) fuel ((c :: rest).dropWhile Text.isBlank)
    else
      let (plain, after) := readPlain (· = '"') false (c :: rest)
      match c, rest with
      | '=', '?' :: more =>
        match readEncodedWord codecs more with
        | .ok (text, after) => readQuoted codecs (.word text :: pieces) fuel after
        | .error _ => readQuoted codecs (.plain plain :: pieces) fuel after
      | _, _ => readQuoted codecs (.plain plain :: pieces) fuel after

def quoted (cs : List Char) : List Char × List Char := readQuoted codecs [] (cs.length + 1) cs

/-! ### Words and phrases -/

def readToken (isEnd : Char → Bool) (cs : List Char) : Except Flaw ((List Char × List Char) × List Char) := do
  let (before, cs) := gap cs
  let word := cs.takeWhile (!isEnd ·)
  if word.isEmpty then throw .form
  let (after, rest) := gap (cs.drop word.length)
  return ((word, before ++ word ++ after), rest)

def readWord (cs : List Char) : Except Flaw (List Char × List Char) := do
  let (before, cs) := gap cs
  match cs with
  | [] => throw .form
  | '"' :: rest =>
    let (inside, rest) := quoted codecs rest
    let (after, rest) := gap rest
    return (before ++ inQuotes inside ++ after, rest)
  | c :: rest =>
    if isSpecial c then throw .form
    let plain := (c :: rest).takeWhile (!endsAtom ·)
    let (word, rest) := match c, rest with
      | '=', '?' :: more =>
        match readEncodedWord codecs more with
        | .ok (text, rest) => (text, rest)
        | .error _ => (plain, (c :: rest).drop plain.length)
      | _, _ => (plain, (c :: rest).drop plain.length)
    let (after, rest) := gap rest
    return (before ++ word ++ after, rest)

def readPhrase (codecs : Text.Codecs) : Nat → List Char → List Char × List Char
  | 0, cs => ([], cs)
  | _, [] => ([], [])
  | fuel + 1, c :: rest =>
    if endsPhrase c then ([], c :: rest)
    else
      let (here, after) : List Char × List Char :=
        if c = '.' then (['.'], rest)
        else match readWord codecs (c :: rest) with
          | .ok read => read
          | .error _ => gap (c :: rest)
      let (more, after) := readPhrase codecs fuel after
      (here ++ more, after)

def readJunk (codecs : Text.Codecs) : Nat → List Char → List Char × List Char
  | 0, cs => ([], cs)
  | _, [] => ([], [])
  | fuel + 1, c :: rest =>
    if c = ';' then ([], c :: rest)
    else
      let (here, after) := if endsPhrase c then ([c], rest) else readPhrase codecs (rest.length + 2) (c :: rest)
      let (more, after) := readJunk codecs fuel after
      (here ++ more, after)

/-- Skips anything up to a semicolon. -/
def junk (cs : List Char) : List Char × List Char := readJunk codecs (cs.length + 1) cs

/-! ### Parameters -/

structure Parameter where
  name : String
  number : Nat := 0
  /-- whether bytes are written with percent signs -/
  isExtended : Bool := false
  charset : String := "us-ascii"
  value : List Char := []

def readValue (cs : List Char) : Except Flaw (List Char × List Char) := do
  let (_, cs) := gap cs
  match cs with
  | [] => throw .form
  | '"' :: rest =>
    let (inside, rest) := quoted codecs rest
    return (inside, (gap rest).2)
  | cs =>
    let ((word, _), rest) ← readToken endsValue cs
    return (word, rest)

def readBare (isEnd : Char → Bool) (cs : List Char) : Except Flaw (List Char × List Char) :=
  let word := cs.takeWhile (!isEnd ·)
  if word.isEmpty then throw .form else return (word, cs.drop word.length)

def readSection : List Char → Option (Nat × List Char)
  | '*' :: rest =>
    let digits := rest.takeWhile Text.isDecimal
    if digits.isEmpty then none
    else some (digits.foldl (fun n d => 10 * n + (Text.digitValue? d).getD 0) 0, rest.drop digits.length)
  | _ => none

def readExtended (p : Parameter) (charset : Option (List Char))
    (readRest : List Char → Except Flaw (List Char × List Char)) :
    List Char → Except Flaw (Parameter × List Char)
  | '\'' :: rest => do
    let p := match charset with
      | some name => { p with charset := String.ofList name }
      | none => p
    let rest ← match rest with
      | [] => pure []
      | '\'' :: rest => pure rest
      | rest => do
        match ← readBare endsName rest with
        | (_, '\'' :: rest) => pure rest
        | _ => throw .form
    let (value, rest) ← readRest rest
    return ({ p with value := value }, rest)
  | _ => throw .form

def readUnquoted (value : List Char) : Nat → List Char → Except Flaw (List Char × List Char)
  | 0, _ => throw .form
  | _, [] => if value.isEmpty then throw .tooShort else return (value, [])
  | fuel + 1, c :: rest =>
    if isSpace c then readUnquoted (value ++ [' ']) fuel ((c :: rest).dropWhile Text.isBlank)
    else if c = '"' then readUnquoted (value ++ ['"']) fuel rest
    else
      let (plain, after) := readPlain (· = '"') false (c :: rest)
      readUnquoted (value ++ plain) fuel after

def isExtendedInside (number : Nat) (inside : List Char) : Except Flaw Bool := do
  if number = 0 then
    if inside.head? = some '\'' then return true
    let (_, rest) ← readBare endsName inside
    return rest.head? = some '\''
  else
    match readBare endsValue inside with
    | .ok (_, []) => return true
    | _ => return false

def readParameterValue (p : Parameter) (cs : List Char) : Except Flaw (Parameter × List Char) := do
  let (_, cs) := gap cs
  let (inside, after) ← match p.isExtended, cs with
    | true, '"' :: rest => do
      let (inside, rest) := quoted codecs rest
      if ← isExtendedInside p.number inside then pure (inside, some (gap rest).2) else pure (cs, none)
    | _, _ => pure (cs, none)
  let (word, rest) ← match inside with
    | '\'' :: _ => pure (none, inside)
    | _ => do
      let (word, rest) ← readValue codecs inside
      pure (some word, rest)
  if (!p.isExtended || p.number > 0) && rest.head? != some '\'' then
    return ({ p with value := word.getD [] }, after.getD rest)
  match rest, after with
  | [], _ => return ({ p with value := word.getD [] }, after.getD [])
  | rest, none => readExtended p word (readValue codecs) rest
  | rest, some after =>
    let (p, _) ← readExtended p word (readUnquoted [] (rest.length + 1)) rest
    return (p, after)

def readParameter (cs : List Char) : Except Flaw (Parameter × List Char) := do
  let ((name, _), rest) ← readToken endsName cs
  let p : Parameter := { name := Text.strip (String.ofList name) }
  match rest with
  | [] | ';' :: _ => return (p, rest)
  | _ =>
    let (p, rest) := match readSection rest with
      | some (number, rest) => ({ p with number := number }, rest)
      | none => (p, rest)
    if rest.isEmpty then throw .form
    let (p, rest) := match rest with
      | '*' :: rest => ({ p with isExtended := true }, rest)
      | _ => (p, rest)
    match rest with
    | [] => throw .tooShort
    | '=' :: rest => readParameterValue codecs p rest
    | _ => throw .form

def readParameters (codecs : Text.Codecs) : Nat → List Char → Except Flaw (List Parameter)
  | 0, _ => return []
  | _, [] => return []
  | fuel + 1, cs => do
    let (found, rest) ← match readParameter codecs cs with
      | .ok (p, rest) => pure ([p], rest)
      | .error .form => pure ([], (gap cs).2)
      | .error flaw => throw flaw
    return found ++ (← readParameters codecs fuel ((junk codecs rest).2.drop 1))

/-- A text with `spell` of the bytes that are written with percent signs in it. -/
def unescaped (spell : Nat → Char ⊕ Nat) : List (Char ⊕ Nat) → List (Char ⊕ Nat)
  | .inl '%' :: .inl a :: .inl b :: rest =>
    match Json.hexValue? a, Json.hexValue? b with
    | some x, some y => spell (16 * x + y) :: unescaped spell rest
    | _, _ => .inl '%' :: unescaped spell (.inl a :: .inl b :: rest)
  | piece :: rest => piece :: unescaped spell rest
  | [] => []

/-- The text of an extended section.  If it has stray bytes, the bytes that are written in it are characters. -/
def extendedText (charset : Option Text.Charset) (value : List Char) : Except Flaw (List Char) :=
  let pieces := Text.Charset.unmarked value
  if pieces.any Sum.isRight then return (unescaped (.inl ∘ Char.ofNat) pieces).flatMap Text.Charset.marked
  else match Text.Charset.decodeKeeping charset ((unescaped .inr pieces).flatMap (Sum.elim Text.utf8Char ([·]))) with
    | some cs => return cs
    | none => throw .undecodable

/-- The sections that count, in order, when `next` is the number expected. -/
def counted (next : Nat) : List Parameter → List Parameter
  | [] => []
  | p :: rest =>
    if p.number != next && !p.isExtended then counted next rest else p :: counted (next + 1) rest

def joinSections (sections : List Parameter) : Except Flaw (List Char) := do
  let sections := sections.mergeSort fun a b => a.number ≤ b.number
  match sections with
  | [] => return []
  | first :: rest =>
    let sections := if !first.isExtended && rest.head?.any (·.number == 0) then [first] else sections
    let charset := Text.Charset.ofName? codecs first.charset
    let texts ← (counted 0 sections).mapM fun p => if p.isExtended then extendedText charset p.value else pure p.value
    return texts.flatten

def writeParameters (parameters : List Parameter) : Except Flaw (List Char) := do
  let written ← (parameters.map (·.name)).eraseDups.mapM fun name => do
    let value ← joinSections codecs (parameters.filter (·.name == name))
    return if value.isEmpty then name.toList else name.toList ++ '=' :: inQuotes value
  return if written.isEmpty then [] else ' ' :: [';', ' '].intercalate written

/-! ### Values -/

def standardRest (cs : List Char) : Except Flaw (List Char) := do
  let (written, rest) := junk codecs cs
  match rest with
  | ';' :: rest =>
    return written ++ ';' :: (← writeParameters codecs (← readParameters codecs (rest.length + 1) rest))
  | _ => return written

def standardKind (cs : List Char) : Except Flaw (List Char) := do
  match readToken endsToken cs with
  | .ok ((_, main), '/' :: rest) =>
    match readToken endsToken rest with
    | .ok ((_, sub), rest) => return main ++ '/' :: sub ++ (← standardRest codecs rest)
    | .error _ => return main ++ '/' :: (← standardRest codecs rest)
  | .ok ((_, main), rest) => return main ++ (← standardRest codecs rest)
  | .error _ => standardRest codecs cs

def standardDisposition (cs : List Char) : Except Flaw (List Char) := do
  match readToken endsToken cs with
  | .ok ((_, word), rest) => return word ++ (← standardRest codecs rest)
  | .error _ => standardRest codecs cs

def readLoose (codecs : Text.Codecs) : Nat → List Char → List Char
  | 0, cs => cs
  | _, [] => []
  | fuel + 1, c :: rest =>
    let (here, after) := if endsPhrase c then ([c], rest) else readPhrase codecs (rest.length + 2) (c :: rest)
    here ++ readLoose codecs fuel after

def standardTransfer (cs : List Char) : List Char :=
  match readToken endsToken cs with
  | .ok ((_, word), rest) => word ++ readLoose codecs (rest.length + 1) rest
  | .error _ => readLoose codecs (cs.length + 1) cs

/-- The standard form of a value, in which `standard` sees stray bytes only as marks. -/
def standardForm (standard : List Char → Except Flaw (List Char)) (value : String) : Outcome String :=
  match standard (value.toList.flatMap (Text.Charset.marked ∘ .inl)) with
  | .ok cs => return Text.Charset.mended cs
  | .error .undecodable => throw (.badEncoding "bytes that spell no text")
  | .error _ => throw (.noIndex "string index out of range")

/-! ### Parameters of a standard form -/

def occurrences (part : List Char) (cs : List Char) : Nat :=
  (Text.split (String.ofList cs) (String.ofList part)).length - 1

/-- Splits a text at its semicolons; those inside quotes do not count.  `piece` is what was read since the last one,
last first. -/
def splitParameters (piece : List Char) : List Char → List (List Char)
  | [] => [piece.reverse]
  | ';' :: rest =>
    let here := piece.reverse
    let isOpen := (occurrences ['"'] here + occurrences ['\\', '"'] here) % 2 = 1
    if isOpen && !piece.isEmpty then splitParameters (';' :: piece) rest else here :: splitParameters [] rest
  | c :: rest => splitParameters (c :: piece) rest

/-- A value without the quotes or brackets around it. -/
def unquote (s : String) : String :=
  match s.toList, s.toList.getLast? with
  | '"' :: _ :: _, some '"' =>
    Text.replace (Text.replace (String.ofList (Text.inner s.toList)) "\\\\" "\\") "\\\"" "\""
  | '<' :: _ :: _, some '>' => String.ofList (Text.inner s.toList)
  | _, _ => s

def parametersOf (form : String) : List (String × String) :=
  let pairs := (splitParameters [] form.toList).map fun piece =>
    let name := piece.takeWhile (· != '=')
    (Text.lower (Text.strip (String.ofList name)), Text.strip (String.ofList (piece.drop (name.length + 1))))
  match pairs with
  | [] => []
  | first :: rest => first :: rest.map fun (name, v) => (name, String.ofList (inQuotes (unquote v).toList))

def parameter? (form name : String) : Option String := ((parametersOf form).lookup name).map unquote

end WarehouseMigration.Mail
