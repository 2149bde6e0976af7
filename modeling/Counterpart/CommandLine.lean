import Counterpart.Arguments
import Counterpart.CandidateTable
import Counterpart.LocalHost
import Counterpart.Settings
import Counterpart.Text.Number
import Counterpart.Threshold

/-! The command line: `toggle` navigates once from a file, `candidates` lists where its counterpart
may lie. The options before the command are read first, then the command is looked up, then the
threshold of the journal is settled, and only then the arguments of the command are read. -/

namespace Counterpart.CommandLine

inductive GlobalOption where
  | quiet
  | verbose
  | help
deriving DecidableEq

inductive CommandOption where
  | line
  | column
  | offset
  | workspace
  | json
  | help
deriving DecidableEq

inductive Command where
  | toggle
  | candidates
deriving DecidableEq

/-- How a run ends. -/
inductive Ending where
  | usage (e : UsageError)
  | help
  /-- A failure that nothing answers for; nothing is printed. -/
  | died (e : Failure)
  | finished (succeeded : Bool) (output : Text)

def Ending.exitCode : Ending → Nat
  | .usage _ => 2
  | .help => 0
  | .died _ => 1
  | .finished succeeded _ => if succeeded then 0 else 1

def usageText : Text :=
  "Usage: [--quiet] [--verbose] (toggle [--json] | candidates) FILE\n" ++
  "       [--line N [--column N] | --offset N] [--workspace PATH]...\n"

structure Run where
  ending : Ending
  journal : List Event
  threshold : Threshold

def globalForms : List (OptionForm GlobalOption) := [
  { option := .quiet, long := "--quiet", short := 'q' },
  { option := .verbose, long := "--verbose", short := 'v' },
  { option := .help, long := "--help" }]

def commandForms (command : Command) : List (OptionForm CommandOption) := [
  { option := .line, long := "--line", short := 'l', takesValue := true },
  { option := .column, long := "--column", short := 'c', takesValue := true },
  { option := .offset, long := "--offset", takesValue := true },
  { option := .workspace, long := "--workspace", short := 'w', takesValue := true },
  { option := .help, long := "--help" }] ++
  match command with
  | .toggle => [{ option := .json, long := "--json" }]
  | .candidates => []

def Command.ofWord? (s : Text) : Option Command :=
  if s = ("toggle" : Text) then some .toggle
  else if s = ("candidates" : Text) then some .candidates
  else none

/-- What a command is asked to do. -/
structure Request where
  file : Path
  line : Option Int
  column : Int
  offset : Option Int
  /-- No workspace stands for the working directory. -/
  workspaces : List Path
  json : Bool

/-- An integer not below a bound. It may be written as liberally as in a record: "3.0" and "0_3" are
both three, and digits of other scripts are none. -/
def integerFrom (least : Int) (s : Text) : Except UsageError Int :=
  match Text.integer s with
  | .error _ => .error (.badInteger s)
  | .ok n => if n < least then .error (.outOfRange n) else .ok n

/-- The last value given for an option. -/
def lastInteger (least : Int) (option : CommandOption) (a : Arguments CommandOption) :
    Except UsageError (Option Int) :=
  match (a.values option).getLast? with
  | none => .ok none
  | some s => (integerFrom least s).map some

def Request.ofArguments (a : Arguments CommandOption) : Except UsageError Request := do
  let line ← lastInteger 1 .line a
  let column ← lastInteger 1 .column a
  let offset ← lastInteger 0 .offset a
  match a.positionals with
  | [] => .error .missingFile
  | [file] => return {
      file := .ofText file
      line
      column := column.getD 1
      offset
      workspaces := (a.values .workspace).map Path.ofText
      json := a.has .json }
  | _ => .error .extraArgument

/-- The request in the arguments of a whole command line. -/
def Request.ofCommandLine? (args : List Text) : Option Request := do
  let a ← (Arguments.read globalForms false args).toOption
  let name :: rest := a.positionals | none
  let command ← Command.ofWord? name
  let b ← (Arguments.read (commandForms command) true rest).toOption
  (Request.ofArguments b).toOption

/-- A message in red ends the run without success. -/
def fail (d : Display) (message : Text) : Ending :=
  match Style.line ⟨.red, .bold⟩ d message with
  | .ok line => .finished false line
  | .error e => .died (.markup e)

/-- Puts the cursor where the request says. -/
def placeCursor (request : Request) (doc : Document) : Act LocalHost Unit :=
  match request.line, request.offset with
  | some line, _ =>
    LocalHost.edit fun d => { d with cursor := offsetOf doc.text line request.column }
  | none, some offset => LocalHost.reveal doc.path offset
  | none, none => return

/-- What a failure to read the file comes to. -/
def unreadable (d : Display) (file : Path) (e : Failure) : Ending :=
  match e with
  | .file _ | .encoding _ => fail d ("Cannot read " ++ file.text ++ ": " ++ e.message)
  | e => .died e

/-- A host with the requested file in focus, or how the run ends without one. -/
def openHost (d : Display) (files : FileTree) (request : Request) (withConsole : Bool) :
    Except (Ending × List Event) (Journaled LocalHost) :=
  if request.line.isSome ∧ request.offset.isSome then
    .error (fail d "Use either --offset or --line/--column, not both.", [])
  else
    let folders := if request.workspaces = [] then [⟨.root, files.workingDirectory⟩]
      else request.workspaces
    match LocalHost.create d files folders withConsole with
    | .error e => .error (.died e, [])
    | .ok host =>
      match (LocalHost.focus request.file 0 >>= placeCursor request).run.run host.journaled with
      | (.error e, w) => .error (unreadable d request.file e, w.journal)
      | (.ok _, w) => .ok w

def navigator : Navigator LocalHost := LocalHost.navigator .standard {}

/-- The candidates that a request leads to. -/
def candidatePaths (files : FileTree) (request : Request) : List Path :=
  match openHost {} files request false with
  | .error _ => []
  | .ok w =>
    match (navigator.report.run.run w).1 with
    | .ok reports => reports.map fun r => Path.ofText r.path
    | .error _ => []

def toggle (d : Display) (files : FileTree) (request : Request) (json : Bool) :
    Ending × List Event :=
  match openHost d files request (!json) with
  | .error ended => ended
  | .ok w =>
    match navigator.toggle.run.run w with
    | (.error e, w) => (.died e, w.journal)
    | (.ok outcome, w) =>
      let output := if json then outcome.record.indented ++ ['\n'] else w.state.console.getD []
      (.finished (outcome.status ≠ .failed) output, w.journal)

def candidates (d : Display) (files : FileTree) (request : Request) : Ending × List Event :=
  match openHost d files request true with
  | .error ended => ended
  | .ok w =>
    match navigator.report.run.run w with
    | (.error (.navigation e), w) => (fail d ("No candidates: " ++ e.message), w.journal)
    | (.error e, w) => (.died e, w.journal)
    | (.ok reports, w) =>
      match candidateTable d reports >>= Table.text with
      | .ok output => (.finished true output, w.journal)
      | .error e => (.died (.markup e), w.journal)

/-- Runs a command on its own arguments. -/
def runCommand (settings : Settings) (files : FileTree) (command : Command) (args : List Text) :
    Ending × List Event :=
  match Arguments.read (commandForms command) true args with
  | .error e => (.usage e, [])
  | .ok a =>
    if a.has .help then (.help, [])
    else match Request.ofArguments a with
      | .error e => (.usage e, [])
      | .ok request =>
        match command with
        | .toggle => toggle settings.display files request (request.json || settings.jsonOutput)
        | .candidates => candidates settings.display files request

def threshold (settings : Settings) (a : Arguments GlobalOption) : Except Failure Threshold :=
  if a.has .quiet || settings.quiet then .ok .error
  else if a.has .verbose then .ok .debug
  else match Threshold.ofWord? settings.logLevel with
    | some t => .ok t
    | none => .error (.unknownLevel (settings.logLevel.flatMap Threshold.capital))

/-- What names the file of the journal: it turns what the settings say into a name, which may tell
the time. -/
abbrev Naming := Text → Except TemplateError Text

/-- The file that the journal goes to. -/
def logPath (settings : Settings) (naming : Naming) : Except TemplateError (Option Path) :=
  match settings.logFile with
  | none => .ok none
  | some path => (naming path.text).map fun name => some (.ofText name)

/-- Makes sure of the file that the journal goes to. -/
def openLog (settings : Settings) (naming : Naming) (files : FileTree) : Except Failure FileTree :=
  match logPath settings naming with
  | .error e => .error (.template e)
  | .ok none => .ok files
  | .ok (some path) =>
    let real : Path := ⟨.root, files.placeOf path⟩
    let opening : Change Unit := do
      Change.makeDirectories real.above
      Change.append real []
    match opening.run.run files with
    | (.ok _, files) => .ok files
    | (.error e, _) => .error (.file e)

/-- A name that no command has. It may stand after `--` and look like an option; then it is read
as one with all that follows it, and a request for help is served. -/
def unknown (name : Text) (rest : List Text) : Ending :=
  match Arguments.read globalForms false (name :: rest) with
  | .error e => .usage e
  | .ok a => if a.has .help then .help else .usage (.unknownCommand name)

/-- Runs a command line. -/
def run (settings : Settings) (naming : Naming) (files : FileTree) (args : List Text) : Run :=
  let silent (ending : Ending) : Run := ⟨ending, [], .error⟩
  match Arguments.read globalForms false args with
  | .error e => silent (.usage e)
  | .ok a =>
    if a.has .help then silent .help
    else match a.positionals with
      | [] => silent (.usage .missingCommand)
      | name :: rest =>
        match Command.ofWord? name with
        | none => silent (unknown name rest)
        | some command =>
          match threshold settings a with
          | .error e => silent (.died e)
          | .ok threshold =>
            match openLog settings naming files with
            | .error e => silent (.died e)
            | .ok files =>
              let (ending, journal) := runCommand settings files command rest
              ⟨ending, journal, threshold⟩

end Counterpart.CommandLine
