import Counterpart.LocalHost

/-! Sessions: what can be done at a local host, step by step. A step that fails leaves what it did
before, and the session goes on. -/

namespace Counterpart

inductive Step where
  | focus (path : Path) (offset : Int) (text : Option Text)
  | openDocument (path : Path)
  | toggle
  | candidates
  | probe (path : Path)
  | reveal (path : Text) (offset : Int)
  /-- Puts the cursor anywhere, even outside the text. -/
  | setCursor (offset : Int)
  | setPosition (line column : Int)
  /-- Replaces the active text and leaves the cursor as it is. -/
  | setText (text : Text)
  | close
  | rootFor (path : Text)
  /-- The level is given by its word. -/
  | showMessage (level message : Text)
  /-- Makes an entry, with the directories that lead to it. -/
  | write (path : Path) (entry : Entry)
  | remove (path : Path)

inductive StepResult where
  | nothing
  | document (doc : Document)
  | outcome (o : Outcome)
  | reports (reports : List CandidateReport)
  | probed (result : ProbeResult)
  | root (path : Option Path)

namespace Session

def probeOne (nav : Navigator LocalHost) (path : Path) : Act LocalHost ProbeResult := do
  let answer := nav.probe (← Act.state) path
  Act.note (nav.probeJournal [⟨path, answer⟩])
  match answer with
  | .ok result => return result
  | .error e => throw e

/-- What a change did before it failed stays. -/
def changeFiles (change : Change Unit) : Act LocalHost Unit := do
  let (result, files) := change.run.run (← Act.state).files
  Act.update fun h => { h with files }
  match result with
  | .ok _ => return
  | .error e => throw (.file e)

def perform (nav : Navigator LocalHost) : Step → Act LocalHost StepResult
  | .focus path offset none => return .document (← LocalHost.focus path offset)
  | .focus path offset (some text) => return .document (← LocalHost.focusText path offset text)
  | .openDocument path => return .document (← nav.host.openDocument path)
  | .toggle => return .outcome (← nav.toggle)
  | .candidates => return .reports (← nav.report)
  | .probe path => return .probed (← probeOne nav path)
  | .reveal path offset => do nav.host.reveal path offset; return .nothing
  | .setCursor offset => do
    LocalHost.edit fun doc => { doc with cursor := offset }
    return .nothing
  | .setPosition line column => do
    LocalHost.edit fun doc => { doc with cursor := offsetOf doc.text line column }
    return .nothing
  | .setText text => do
    LocalHost.edit fun doc => { doc with text }
    return .nothing
  | .close => do
    Act.update fun h => { h with active := none }
    return .nothing
  | .rootFor path => return .root (← nav.host.workspaceRootFor path)
  | .showMessage level message => do
    match MessageLevel.ofWord? level with
    | some level => nav.host.showMessage level message
    | none => throw (.unknownMessageLevel level)
    return .nothing
  | .write path entry => do changeFiles (.place path entry); return .nothing
  | .remove path => do changeFiles (.remove path); return .nothing

/-- One step from a state: what came of it, and the state after it. -/
def step (nav : Navigator LocalHost) (w : Journaled LocalHost) (s : Step) :
    Except Failure StepResult × Journaled LocalHost :=
  (perform nav s).run.run w

/-- What came of each step, with the state after it. -/
def run (nav : Navigator LocalHost) (w : Journaled LocalHost) :
    List Step → List (Except Failure StepResult × Journaled LocalHost)
  | [] => []
  | s :: rest =>
    let (result, w) := step nav w s
    (result, w) :: run nav w rest

end Session
end Counterpart
