import WarehouseMigration.Text.Quoted

/-!
# Failures

The causes for which an operation stops.  `Failure.message` is the one place where a cause is put into words.
-/

namespace WarehouseMigration

/-- Why the file system refused an operation. -/
inductive FileFault where
  | notFound
  | notADirectory
  | isADirectory
  | exists
  | notEmpty
  | denied
  | nameTooLong
deriving DecidableEq

/-- Which rules of YAML a text breaks. -/
inductive YamlRule where
  /-- those on characters -/
  | characters
  /-- those on single signs -/
  | tokens
  /-- those on the order of signs -/
  | grammar
  /-- those on names of nodes and on the number of documents -/
  | anchors
  /-- those on values and their tags -/
  | values
deriving DecidableEq

/-- What stopped an operation. -/
inductive Failure where
  /-- a value of a kind that the operation cannot work with -/
  | wrongKind (reason : String)
  /-- a part that a value of this kind does not have -/
  | noMember (reason : String)
  /-- a position outside a list -/
  | noIndex (reason : String)
  /-- a key that a map does not have -/
  | noKey (key : String)
  /-- a key that is no text, as it is shown -/
  | noEntry (key : String)
  /-- a value that breaks a rule -/
  | invalid (reason : String)
  /-- a promise of the caller that does not hold -/
  | broken (reason : String)
  | notImplemented (reason : String)
  | runtime (reason : String)
  | divisionByZero (reason : String)
  /-- a search that found nothing -/
  | nothingFound (reason : String)
  | exit (reason : String)
  /-- a question for which the script holds no answer -/
  | exhausted (question : String)
  | file (fault : FileFault) (path : String)
  /-- a missing file or folder, in the program's own words -/
  | missing (fault : FileFault) (reason : String)
  | system (reason : String)
  | badArchive (reason : String)
  | badJson (reason : String)
  | badMarkup (reason : String)
  | badYaml (rule : YamlRule) (reason : String)
  | badBase64 (reason : String)
  | badEncoding (reason : String)
  | badSource (reason : String)
  | badPattern (reason : String)
  /-- a text that is indented where it must not be -/
  | badIndent
  | unknownEncoding (name : String)
  /-- an encoding that is known but spells no texts -/
  | noTextEncoding (name : String)
  /-- an answer of a web server that is not the wanted document -/
  | http (code : Nat) (reason : String)
  | unreachable (reason : String)
  | connection (reason : String)
  | process (command : String) (code : Int)
  | dataSource (reason : String)
  /-- a comparison that failed, with the text of the report on it -/
  | reconciliation (reason report : String)
  | invalidInput (reason : String)
  | thresholdModel (reason : String)
  | thresholdBounds (reason : String)
  | columnMismatch (reason : String)
  | writeToTable (reason : String)
  | volumeAccess (reason : String)
  | volumeClean (reason : String)
  | privateKey (reason : String)
  | illegalState (reason : String)
  /-- a failure that a remote service or library reports under a name of its own -/
  | remote (kind reason : String)
deriving DecidableEq

def Failure.message : Failure → String
  | wrongKind reason | noMember reason | noIndex reason | invalid reason | broken reason | notImplemented reason
  | runtime reason | divisionByZero reason | nothingFound reason | exit reason | missing _ reason | system reason
  | badArchive reason | badJson reason | badMarkup reason | badYaml _ reason | badBase64 reason | badEncoding reason
  | badSource reason | badPattern reason
  | unreachable reason | connection reason | dataSource reason | invalidInput reason
  | thresholdModel reason | thresholdBounds reason | columnMismatch reason | writeToTable reason
  | volumeAccess reason | volumeClean reason | privateKey reason | illegalState reason | remote _ reason => reason
  | badIndent => "unexpected indent"
  | noKey key => Text.quote key
  | noEntry key => key
  | unknownEncoding name => s!"unknown encoding: {name}"
  | noTextEncoding name =>
    Text.quote name ++ " is not a text encoding; use codecs.decode() to handle arbitrary codecs"
  | reconciliation reason report => "(" ++ Text.quote reason ++ ", " ++ report ++ ")"
  | exhausted question => question
  | http code reason => s!"HTTP Error {code}: {reason}"
  | process command code => s!"Command '{command}' returned non-zero exit status {code}."
  | file .notFound path => s!"[Errno 2] No such file or directory: '{path}'"
  | file .notADirectory path => s!"[Errno 20] Not a directory: '{path}'"
  | file .isADirectory path => s!"[Errno 21] Is a directory: '{path}'"
  | file .exists path => s!"[Errno 17] File exists: '{path}'"
  | file .notEmpty path => s!"[Errno 39] Directory not empty: '{path}'"
  | file .denied path => s!"[Errno 13] Permission denied: '{path}'"
  | file .nameTooLong path => s!"[Errno 36] File name too long: '{path}'"

def Failure.isInvalid : Failure → Bool
  | invalid _ | badJson _ | badBase64 _ | badEncoding _ => true
  | _ => false

def Failure.isNoKey : Failure → Bool
  | noKey _ | noEntry _ => true
  | _ => false

def Failure.isRemote (kinds : List String) : Failure → Bool
  | remote kind _ => kinds.contains kind
  | _ => false

/-- What an operation gives: a result or the reason why there is none. -/
abbrev Outcome (α : Type) := Except Failure α

end WarehouseMigration
