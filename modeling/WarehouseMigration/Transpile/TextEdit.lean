import WarehouseMigration.Sequence
import WarehouseMigration.Transpile.Problem

/-!
# Text edits

A language server answers with edits, each the replacement of a stretch of the document by a new text.  Edits are
applied one after the other to the lines of the document.
-/

namespace WarehouseMigration

/-- The replacement of a stretch of a document. -/
structure TextEdit where
  extent : Extent
  newText : String

namespace TextEdit

def lines (text : String) : List (List Char) := Text.splitFrom ['\n'] 0 [] text.toList

def unlines (lines : List (List Char)) : String := String.ofList (['\n'].intercalate lines)

def coversDocument (edit : TextEdit) (document : List (List Char)) : Bool :=
  edit.extent.start.line == 0 && edit.extent.start.character == 0 &&
    document.length ≤ edit.extent.stop.line && 0 ≤ edit.extent.stop.character

def prepend (text : List Char) : List (List Char) → List (List Char)
  | [] => []
  | line :: rest => (text ++ line) :: rest

def append (text : List Char) : List (List Char) → List (List Char)
  | [] => []
  | [line] => [line ++ text]
  | line :: rest => line :: append text rest

/-- The new lines together with what is kept of the first and of the last line of the stretch; fails when one of
them is needed and is not a line of the document. -/
def withEdges (edit : TextEdit) (document : List (List Char)) : Option (List (List Char)) := do
  let start := edit.extent.start
  let stop := edit.extent.stop
  let last ← Sequence.at? document stop.line
  let fresh := lines edit.newText
  let fresh ← if 0 < start.character then do
      let first ← Sequence.at? document start.line
      pure (prepend (Sequence.before first start.character) fresh)
    else pure fresh
  if start.character ≤ 0 && last.length ≤ stop.character then pure fresh
  else if stop.character < last.length then pure (append (Sequence.since last stop.character) fresh)
  else pure fresh

def apply (edit : TextEdit) (document : List (List Char)) : Option (List (List Char)) :=
  if edit.coversDocument document then some (lines edit.newText)
  else do
    let fresh ← edit.withEdges document
    let kept := if edit.extent.start.line ≤ 0 then [] else Sequence.before document edit.extent.start.line
    let rest := if edit.extent.stop.line < (document.length : Int) - 1
      then Sequence.since document (edit.extent.stop.line + 1) else []
    pure (kept ++ fresh ++ rest)

def applyAll (edits : List TextEdit) (document : List (List Char)) : Option (List (List Char)) :=
  edits.foldlM (fun lines edit => edit.apply lines) document

def misfit (path : String) : Problem :=
  ⟨"INTERNAL_ERROR", .internal, .error, path, "Internal error, failed to apply changes", none⟩

/-- The document after the edits, with the problems found.  If an edit does not fit, the document is left as it was
and that is reported as one more problem. -/
def revise (source : String) (edits : List TextEdit) (problems : List Problem) (path : String) : Transpiled :=
  match applyAll edits (lines source) with
  | some result => ⟨unlines result, 1, problems⟩
  | none => ⟨source, 1, problems ++ [misfit path]⟩

def read : Value → Outcome TextEdit
  | .list [extent, .text text] => do return ⟨← Extent.read extent, text⟩
  | _ => throw (.wrongKind "not an edit")

end TextEdit

/-! ### Diagnostics -/

structure Diagnostic where
  code : Value
  severity : Value
  message : String
  extent : Option Extent

namespace Diagnostic

def read (v : Value) : Outcome Diagnostic := do
  let given := v.getD "severity"
  let severity := if ["Error", "Warning", "Information", "Hint"].contains given.shown then
    .constant s!"DiagnosticSeverity.{given.shown}" else given
  return ⟨v.getD "code", severity, (v.getOr "message" "").shown, ← Extent.read? (v.getD "range")⟩

def severityOf : Value → Severity
  | .constant "DiagnosticSeverity.Warning" => .warning
  | .constant "DiagnosticSeverity.Error" => .error
  | _ => .info

def stageAndCode (code : String) : Stage × String :=
  match Text.split code "-" with
  | first :: second :: rest =>
    match Stage.ofName? first with
    | some stage => (stage, "-".intercalate (second :: rest))
    | none => (.internal, code)
  | _ => (.internal, code)

def toProblem (path : String) (d : Diagnostic) : Problem :=
  let (stage, code) := stageAndCode d.code.shown
  ⟨code, stage, severityOf d.severity, path, d.message, d.extent⟩

end Diagnostic

end WarehouseMigration
