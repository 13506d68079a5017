import WarehouseMigration.Yaml.Token
import WarehouseMigration.Yaml.Word

/-!
# Nodes

A document is a tree of scalars, lists and mappings, read from its tokens.  A node can be given a name, under which it
can be used again later.
-/

namespace WarehouseMigration.Yaml

/-- A part of a document, with its tag and its place. -/
inductive Node where
  | scalar (tag : Tag) (text : String) (mark : Mark)
  | list (tag : Tag) (items : List Node) (mark : Mark)
  | map (tag : Tag) (entries : List (Node × Node)) (mark : Mark)
  /-- a node that is used inside itself -/
  | loop (mark : Mark)
  /-- a node that cannot be made -/
  | broken (fault : Fault)

namespace Node

def mark : Node → Mark
  | scalar _ _ m | list _ _ m | map _ _ m | loop m => m
  | broken _ => {}

def kind : Node → String
  | scalar .. => "scalar"
  | list .. => "sequence"
  | _ => "mapping"

def empty (mark : Mark) : Node := scalar .null "" mark

end Node

/-! ### Reading -/

/-- What is known while nodes are read. -/
structure Reading where
  lexer : Lexer
  /-- the names given so far, each with the node's place, and with the node once it is read -/
  anchors : List (String × Mark × Option Node) := []
  /-- what the handles of tags stand for -/
  handles : List (String × String)

abbrev Reader := StateT Reading (Except Fault)

def misplaced (context : Option (String × Option Mark)) (problem : String) (mark : Mark) : Fault :=
  .broken .grammar context problem mark

def peek : Reader Token := do
  let s ← get
  let lexer ← s.lexer.ready
  set { s with lexer := lexer }
  return lexer.tokens.headD ⟨.streamEnd, lexer.mark, lexer.mark⟩

def take : Reader Token := do
  let t ← peek
  modify fun s => { s with lexer := { s.lexer with tokens := s.lexer.tokens.tail, taken := s.lexer.taken + 1 } }
  return t

def aliased (name : String) (mark : Mark) : Reader Node := do
  match (← get).anchors.lookup name with
  | none => throw (.broken .anchors none s!"found undefined alias {Text.quote name}" mark)
  | some (_, some node) => return node
  | some (place, none) => return .loop place

def declare (anchor : Option String) (mark : Mark) : Reader Unit := do
  match anchor with
  | none => return
  | some name =>
    if let some (first, _) := (← get).anchors.lookup name then
      throw (.broken .anchors (some (s!"found duplicate anchor {Text.quote name}; first occurrence", some first))
        "second occurrence" mark)
    modify fun s => { s with anchors := (name, mark, none) :: s.anchors }

def keep (anchor : Option String) (node : Node) : Reader Node := do
  if let some name := anchor then
    modify fun s => { s with anchors := s.anchors.map fun (n, place, old) =>
      if n == name then (n, place, some node) else (n, place, old) }
  return node

/-- What stands before a node: its name and its tag, the latter with its place. -/
structure Properties where
  anchor : Option String := none
  tag : Option (Option String × String × Mark) := none

def readProperty (p : Properties) : Reader Properties := do
  let t ← peek
  match t.kind, p.anchor, p.tag with
  | .anchor name, none, _ => (fun _ => { p with anchor := name }) <$> take
  | .tag handle suffix, _, none => (fun _ => { p with tag := (handle, suffix, t.start) }) <$> take
  | _, _, _ => return p

def tagUri (p : Properties) (start : Mark) : Reader (Option String) := do
  match p.tag with
  | none => return none
  | some (none, uri, _) => return some uri
  | some (some handle, suffix, mark) =>
    match (← get).handles.lookup handle with
    | some before => return some (before ++ suffix)
    | none => throw (misplaced (some ("while parsing a node", some start))
        s!"found undefined tag handle {Text.quote handle}" mark)

/-- The tag of a node for which `usual` is meant where there is no other. -/
def tagOf (uri : Option String) (usual : Tag) : Tag :=
  match uri with
  | none | some "!" => usual
  | some uri => .ofUri uri

def tooDeep : Fault := .unmade (.runtime "nested too deeply")

mutual

def readNode (block bare : Bool) : Nat → Reader Node
  | 0 => throw tooDeep
  | fuel + 1 => do
    let first ← peek
    if let .reference name := first.kind then
      let _ ← take
      return ← aliased name first.start
    let p ← readProperty (← readProperty {})
    let start := first.start
    let uri ← tagUri p start
    let t ← peek
    let collect := fun (node : Reader Node) => do
      declare p.anchor start
      keep p.anchor (← node)
    let listTag := tagOf uri .list
    let mapTag := tagOf uri .map
    match t.kind, block, bare with
    | .item, _, true => collect do return .list listTag (← readBareItems fuel) start
    | .scalar text plain, _, _ => do
      let _ ← take
      let usual := if plain || uri.isSome then .ofWord text else .text
      collect (pure (.scalar (tagOf uri usual) text start))
    | .openList, _, _ => collect do
      let _ ← take
      return .list listTag ((← readFlow .closeList t.start true fuel).map fun (key, value, mark) =>
        value.elim key fun value => .map .map [(key, value)] mark) start
    | .openMap, _, _ => collect do
      let _ ← take
      return .map mapTag ((← readFlow .closeMap t.start true fuel).map fun (key, value, mark) =>
        (key, value.getD (.empty mark))) start
    | .blockList, true, _ => collect do
      let _ ← take
      return .list listTag (← readItems t.start fuel) start
    | .blockMap, true, _ => collect do
      let _ ← take
      return .map mapTag (← readEntries t.start fuel) start
    | kind, _, _ =>
      if p.anchor.isSome || p.tag.isSome then collect (pure (.scalar (tagOf uri .null) "" start))
      else
        let style := if block then "block" else "flow"
        throw (misplaced (some (s!"while parsing a {style} node", some start))
          s!"expected the node content, but found {Text.quote kind.name}" t.start)

def readItems (start : Mark) : Nat → Reader (List Node)
  | 0 => throw tooDeep
  | fuel + 1 => do
    let t ← take
    match t.kind with
    | .item => do
      let item ← match (← peek).kind with
        | .item | .blockEnd => pure (.empty t.stop)
        | _ => readNode true false fuel
      return item :: (← readItems start fuel)
    | .blockEnd => return []
    | kind => throw (misplaced (some ("while parsing a block collection", some start))
        s!"expected <block end>, but found {Text.quote kind.name}" t.start)

def readBareItems : Nat → Reader (List Node)
  | 0 => throw tooDeep
  | fuel + 1 => do
    let t ← peek
    match t.kind with
    | .item => do
      let _ ← take
      let item ← match (← peek).kind with
        | .item | .key | .value | .blockEnd => pure (.empty t.stop)
        | _ => readNode true false fuel
      return item :: (← readBareItems fuel)
    | _ => return []

def readEntries (start : Mark) : Nat → Reader (List (Node × Node))
  | 0 => throw tooDeep
  | fuel + 1 => do
    let t ← take
    let part := fun (stop : Mark) => do
      match (← peek).kind with
      | .key | .value | .blockEnd => pure (.empty stop)
      | _ => readNode true true fuel
    match t.kind with
    | .key => do
      let key ← part t.stop
      let t ← peek
      let value ← match t.kind with
        | .value => do
          let _ ← take
          part t.stop
        | _ => pure (.empty t.start)
      return (key, value) :: (← readEntries start fuel)
    | .blockEnd => return []
    | kind => throw (misplaced (some ("while parsing a block mapping", some start))
        s!"expected <block end>, but found {Text.quote kind.name}" t.start)

/-- Reads what is left of a collection in brackets: its parts, each with its value if it has one, and with a place. -/
def readFlow (close : TokenKind) (start : Mark) (isFirst : Bool) : Nat → Reader (List (Node × Option Node × Mark))
  | 0 => throw tooDeep
  | fuel + 1 => do
    let t ← peek
    if t.kind = close then
      let _ ← take
      return []
    else if isFirst then readFlowPart close start fuel
    else if t.kind = .comma then
      let _ ← take
      readFlowPart close start fuel
    else
      let what := if close = .closeMap then "mapping" else "sequence"
      throw (misplaced (some ("while parsing a flow " ++ what, some start))
        s!"expected ',' or '{close.name}', but got {Text.quote t.kind.name}" t.start)

def readFlowPart (close : TokenKind) (start : Mark) : Nat → Reader (List (Node × Option Node × Mark))
  | 0 => throw tooDeep
  | fuel + 1 => do
    let part := fun (isKey : Bool) (stop : Mark) => do
      let kind := (← peek).kind
      if kind = close || kind = .comma || isKey && kind = .value then pure (.empty stop)
      else readNode false false fuel
    let t ← peek
    if t.kind = close then
      let _ ← take
      return []
    else if t.kind = .key then
      let _ ← take
      let key ← part true t.stop
      let v ← peek
      let value ← if v.kind = .value then do
          let _ ← take
          part false v.stop
        else pure (.empty v.start)
      return (key, some value, t.start) :: (← readFlow close start false fuel)
    else
      let only ← readNode false false fuel
      return (only, none, (← peek).start) :: (← readFlow close start false fuel)

end

/-! ### Documents -/

def skipEnds : Nat → Reader Unit
  | 0 => throw tooDeep
  | fuel + 1 => do
    match (← peek).kind with
    | .documentEnd => do
      let _ ← take
      skipEnds fuel
    | _ => return

def standardHandles : List (String × String) := [("!", "!"), ("!!", Tag.standardUri)]

def readDirectives (versioned : Bool) (handles : List (String × String)) : Nat → Reader (List (String × String))
  | 0 => throw tooDeep
  | fuel + 1 => do
    let t ← peek
    let refuse := fun (problem : String) => throw (misplaced none problem t.start)
    let .directive content := t.kind | return handles
    let _ ← take
    match content with
    | .version major _ =>
      if versioned then refuse "found duplicate YAML directive"
      if major != 1 then refuse "found incompatible YAML document (version 1.* is required)"
      readDirectives true handles fuel
    | .handle handle uri =>
      if (handles.lookup handle).isSome then refuse s!"duplicate tag handle {Text.quote handle}"
      readDirectives versioned (handles ++ [(handle, uri)]) fuel
    | .unknown => readDirectives versioned handles fuel

def readHead (fuel : Nat) : Reader (Option Mark) := do
  skipEnds fuel
  let first ← peek
  if let .streamEnd := first.kind then return none
  let handles ← readDirectives false [] fuel
  let t ← peek
  match t.kind with
  | .documentStart => do
    let _ ← take
    modify fun s => { s with handles := handles ++ standardHandles }
    return some first.start
  | kind => throw (misplaced none s!"expected '<document start>', but found {Text.quote kind.name}" t.start)

def readContent (fuel : Nat) : Reader Node := do
  let t ← peek
  match t.kind with
  | .directive _ | .documentStart | .documentEnd | .streamEnd => return .empty t.start
  | _ => readNode true false fuel

def readFirst (fuel : Nat) : Reader (Option Node) := do
  let _ ← take
  let t ← peek
  match t.kind with
  | .directive _ | .documentStart | .streamEnd => do
    match ← readHead fuel with
    | none => return none
    | some _ => return some (← readContent fuel)
  | _ => return some (← readNode true false fuel)

def readDocument (fuel : Nat) : Reader (Option Node) := do
  match ← readFirst fuel with
  | none => return none
  | some node =>
    match ← readHead fuel with
    | none => return some node
    | some place => throw (.broken .anchors
        (some ("expected a single document in the stream", some node.mark)) "but found another document" place)

def isAllowed (c : Char) : Bool :=
  c = '\t' || c = '\n' || c = '\r' || ' ' ≤ c && c ≤ '~' || c = '\u0085' ||
    0xA0 ≤ c.toNat && c.toNat != 0xFFFE && c.toNat != 0xFFFF

def Node.ofText (text : String) : Except Fault (Option Node) := do
  let cs := text.toList
  let index := cs.findIdx (!isAllowed ·)
  if let some c := cs[index]? then throw (.character c index)
  let (node, _) ← (readDocument (8 * cs.length + 32)).run { lexer := .ofText cs, handles := standardHandles }
  return node

end WarehouseMigration.Yaml
