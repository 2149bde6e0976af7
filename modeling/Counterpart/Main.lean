import Counterpart.CommandLine
import Counterpart.Template.Value
import Std.Time.Format

/-! The program: it gathers the settings and the files that a command line is about, runs the
command line on them, and passes on the output, the journal and the exit code. -/

namespace Counterpart

/-- Takes what a path names into a tree, under its real path and as it is spelled. -/
def observe (files : FileTree) (path : Path) : IO FileTree := do
  let add (files : FileTree) (place : Place) (entry : Entry) : FileTree :=
    ((Change.makeDirectories (Path.above ⟨.root, place⟩)).run.run files).2.put place entry
  try
    let spelled := String.ofList path.text
    let real := (Path.ofText (toString (← IO.FS.realPath spelled)).toList).segments
    let entry : Entry ← try pure (.file (← IO.FS.readBinFile spelled).toList)
      catch
        | .permissionDenied .. => pure (.sealed .denied)
        | .hardwareFault .. => pure (.sealed .broken)
        | _ => pure .directory
    let files := if real = [] then files else add files real entry
    let place := files.placeOf path
    return if place = real then files
      else add files place (.link ('/' :: Text.joinWith "/" real))
  catch _ => return files

/-- Takes in a path and all that lies on the way to it. -/
def observeAlong (files : FileTree) (path : Path) : IO FileTree :=
  (List.range path.segments.length).foldlM (fun files n =>
    observe files { path with segments := path.segments.take (n + 1) }) files

/-- The files that a run may look at. -/
def observeAll (files : FileTree) (log : Option Path) (args : List Text) : IO FileTree := do
  match CommandLine.Request.ofCommandLine? args with
  | none => return files
  | some request =>
    let named := request.file :: request.workspaces ++ log.toList
    let files ← named.foldlM observeAlong files
    (CommandLine.candidatePaths files request).foldlM observeAlong files

/-- The variables that settings are read from. -/
def environment : IO Environment := do
  let names : List Text := ["LOG_LEVEL", "LOG_FILE", "QUIET", "JSON_OUTPUT"]
  let spellings := names.flatMap fun name =>
    let whole := variableStem ++ name
    [whole, whole.map Char.toLower]
  let found ← spellings.mapM fun name => do
    return (← IO.getEnv (String.ofList name)).map fun value => (name, value.toList)
  return found.filterMap id

def journalLine (event : Event) : Text :=
  event.level.word ++ List.replicate (8 - event.level.word.length) ' ' ++ " | " ++ event.text ++
    ['\n']

def writeJournal (log : Option Path) (run : CommandLine.Run) : IO Unit := do
  let shown := run.journal.filter fun event => run.threshold.admits event.level
  let text := String.ofList (shown.flatMap journalLine)
  (← IO.getStderr).putStr text
  match log with
  | none => return
  | some path =>
    IO.FS.createDirAll (String.ofList path.above.text)
    (← IO.FS.Handle.mk (String.ofList path.text) .append).putStr text

def report (ending : CommandLine.Ending) : IO Unit := do
  let out ← IO.getStdout
  let err ← IO.getStderr
  match ending with
  | .usage _ => err.putStr (String.ofList CommandLine.usageText)
  | .help => out.putStr (String.ofList CommandLine.usageText)
  | .died e => err.putStrLn (String.ofList e.message)
  | .finished _ output => out.putStr (String.ofList output)

/-- The moment of the call. -/
def now : IO Moment := do
  let t := Std.Time.PlainDateTime.ofWallTime ((← Std.Time.Timestamp.now).toWallTime .zero)
  return {
    year := t.year.toInt.toNat
    month := t.month.val.toNat
    day := t.day.val.toNat
    hour := t.hour.val.toNat
    minute := t.minute.val.toNat
    second := t.second.val.toNat
    microsecond := t.nanosecond.val.toNat / 1000
    isUniversal := true }

/-- How wide the page is, if the environment says so. -/
def display : IO Display := do
  match (← IO.getEnv "COLUMNS").bind String.toNat? with
  | none => return {}
  | some width => return { width }

def program (args : List Text) : IO UInt32 := do
  match Settings.ofEnvironment (← environment) with
  | .error problems =>
    let names := problems.map fun (name, problem) => name ++ ": " ++ problem.word
    (← IO.getStderr).putStrLn (String.ofList (Text.joinWith "\n" names))
    return 1
  | .ok settings =>
    let naming := Template.fill Template.Value.answers "time" (.stamp (← now))
    let log := (CommandLine.logPath settings naming).toOption.join
    let here := Path.ofText (toString (← IO.currentDir)).toList
    let files ← observeAll ⟨[], here.segments⟩ log args
    let files ← observeAlong files here
    let run := CommandLine.run { settings with display := ← display } naming files args
    report run.ending
    try writeJournal log run catch _ => pure ()
    return run.ending.exitCode.toUInt32

end Counterpart

def main (args : List String) : IO UInt32 := Counterpart.program (args.map String.toList)
