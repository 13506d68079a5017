import WarehouseMigration.FileTree
import WarehouseMigration.Text.Ascii
import WarehouseMigration.Text.Blank
import WarehouseMigration.Text.LetterCase

/-!
# Requests and answers

What a browser sends, and what the server answers: a page, a document, or the advice to look elsewhere.
-/

namespace WarehouseMigration.Web

structure Upload where
  name : String
  content : Content

structure Request where
  method : String
  host : String
  path : String
  /-- what stands behind the path, with its question mark -/
  query : String := ""
  form : List (String × String) := []
  files : List (String × List Upload) := []

def Request.address (r : Request) : String := r.host ++ r.path ++ r.query

structure Answer where
  status : Nat := 200
  document : Option Value := none
  location : Option String := none
  /-- the pages that were drawn, each with its values -/
  pages : List (String × Value) := []
  /-- what the next page tells the reader -/
  messages : List String := []

namespace Answer

def page (name : String) (values : Value := .map []) : Answer := { pages := [(name, values)] }

def ofDocument (v : Value) : Answer := { document := some v }

def bare (status : Nat) : Answer := { status := status }

def back (r : Request) (message : String) : Answer :=
  { status := 302, location := some r.address, messages := [message] }

def failure (what : String) (e : Failure) : Answer :=
  ofDocument (.map [("success", .bool false), ("message", s!"{what} error: {e.message}"), ("errors", [e.message])])

end Answer

/-! ### Names of uploaded files

A browser sends the name of a file in quotes.  Only files with certain endings are taken, and they are stored under a
name that has no meaning to the file system.
-/

def quotedChars : List Char → List Char
  | [] => []
  | '\\' :: '\\' :: rest => '\\' :: '\\' :: quotedChars rest
  | '\\' :: '"' :: rest => '\\' :: '"' :: quotedChars rest
  | '"' :: _ => []
  | c :: rest => c :: quotedChars rest

def receivedName (name : String) : String :=
  let quoted := String.ofList (quotedChars name.toList)
  Text.replace (Text.replace (Text.replace quoted "\\\\" "\\") "\\\"" "\"") "%22" "\""

def endings : List String := ["sql", "txt", "zip", "dtsx", "ispac"]

def isAllowed (name : String) : Bool :=
  name.toList.contains '.' && endings.contains (Text.lower ((Text.split name ".").getLast?.getD ""))

def isSafe (c : Char) : Bool := c.isAlphanum || ['_', '.', '-'].contains c

/-- Cuts dots and underscores off both ends. -/
def bare (cs : List Char) : List Char :=
  let isEdge := fun c => c == '.' || c == '_'
  ((cs.dropWhile isEdge).reverse.dropWhile isEdge).reverse

def storedName (name : String) : String :=
  let spaced := (Text.toAscii name).map fun c => if c == '/' then ' ' else c
  String.ofList (bare (("_".intercalate (Text.words (String.ofList spaced))).toList.filter isSafe))

end WarehouseMigration.Web
