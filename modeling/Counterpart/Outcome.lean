import Counterpart.Checked
import Counterpart.Lookup
import Counterpart.Record

/-! What a navigation came to, and the report on one candidate. Both are written as records. -/

namespace Counterpart

inductive Status where
  | opened
  /-- The counterpart is open, but the action was not located in it. -/
  | partly
  | failed
deriving DecidableEq

inductive MessageLevel where
  | info
  | error
deriving DecidableEq

structure Outcome where
  status : Status
  message : Text
  errorKind : Option ErrorKind
  targetPath : Option Text
  action : Option Text
  cursorOffset : Option Int
  line : Option Int
  column : Option Int
deriving DecidableEq

structure CandidateReport where
  precedence : Int
  path : Text
  status : ProbeStatus
  error : Option Text
deriving DecidableEq

def Status.word : Status → Text
  | .opened => "opened"
  | .partly => "partial"
  | .failed => "failed"

def MessageLevel.word : MessageLevel → Text
  | .info => "info"
  | .error => "error"

def MessageLevel.ofWord? (s : Text) : Option MessageLevel :=
  [MessageLevel.info, .error].find? (·.word == s)

def Status.ofWord? (s : Text) : Option Status :=
  [Status.opened, .partly, .failed].find? (·.word == s)

def ErrorKind.ofWord? (s : Text) : Option ErrorKind :=
  [ErrorKind.environment, .classification, .pattern, .heuristicMiss, .notFound].find? (·.word == s)

def ProbeStatus.ofWord? (s : Text) : Option ProbeStatus :=
  [ProbeStatus.present, .missing, .failed].find? (·.word == s)

namespace Outcome

def level (o : Outcome) : MessageLevel := if o.status = .failed then .error else .info

def failure (message : Text) (kind : Option ErrorKind) : Outcome :=
  ⟨.failed, message, kind, none, none, none, none, none⟩

/-- The outcome of opening a document, with its cursor. -/
def ofDocument (status : Status) (message : Text) (doc : Document) (action : Text) : Outcome :=
  let place := positionOf doc.text doc.cursor
  ⟨status, message, none, some doc.path, some action, some doc.cursor, some place.line,
    some place.column⟩

def record (o : Outcome) : Record := [
  ("status", .text o.status.word),
  ("message", .text o.message),
  ("error_kind", .ofText? (o.errorKind.map ErrorKind.word)),
  ("target_path", .ofText? o.targetPath),
  ("action", .ofText? o.action),
  ("cursor_offset", .ofInteger? o.cursorOffset),
  ("line", .ofInteger? o.line),
  ("column", .ofInteger? o.column)]

def ofFields (fields : Fields) : Checked Outcome :=
  open Checked in
  let o := (required (Value.asWord Status.ofWord?) "status" fields).map mk
  let o := ap o (required Value.asText "message" fields)
  let o := ap o (optional (Value.asWord ErrorKind.ofWord?) "error_kind" fields)
  let o := ap o (optional Value.asText "target_path" fields)
  let o := ap o (optional Value.asText "action" fields)
  let o := ap o (optional Value.asInteger "cursor_offset" fields)
  let o := ap o (optional Value.asInteger "line" fields)
  let o := ap o (optional Value.asInteger "column" fields)
  let known := only ["status", "message", "error_kind", "target_path", "action", "cursor_offset",
    "line", "column"] fields
  sorted (ap (o.map fun o _ => o) known)

end Outcome

namespace CandidateReport

def ofResults (results : List ProbeResult) : List CandidateReport :=
  results.mapIdx fun i r => ⟨i, r.path.text, r.status, r.error⟩

def record (r : CandidateReport) : Record := [
  ("precedence", .integer r.precedence),
  ("path", .text r.path),
  ("status", .text r.status.word),
  ("error", .ofText? r.error)]

def ofFields (fields : Fields) : Checked CandidateReport :=
  open Checked in
  let r := (required Value.asInteger "precedence" fields).map mk
  let r := ap r (required Value.asText "path" fields)
  let r := ap r (required (Value.asWord ProbeStatus.ofWord?) "status" fields)
  sorted (ap r (optional Value.asText "error" fields))

end CandidateReport
end Counterpart
