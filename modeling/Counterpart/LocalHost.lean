import Counterpart.FileTree.Change
import Counterpart.Navigator
import Counterpart.Style

/-! An editor over a file tree: workspace folders, one active document, the messages shown so far,
and a console if there is one. Paths of folders and documents are real paths with forward
slashes. -/

namespace Counterpart

structure LocalHost where
  files : FileTree
  folders : List Text
  active : Option Document
  messages : List (MessageLevel × Text)
  /-- What the console shows. -/
  console : Option Text
  display : Display := {}

def messageStyle : MessageLevel → Style
  | .error => ⟨.red, .bold⟩
  | .info => ⟨.green, .bold⟩

/-- Checks a candidate in a file tree. -/
def FileTree.probe (tree : FileTree) : Probe := fun path =>
  .ok <| match tree.find path with
    | .ok _ => ⟨path, .present, none⟩
    | .error e => if e.fault = .missing then ⟨path, .missing, none⟩
      else ⟨path, .failed, some e.message⟩

/-- The probes that could not tell. -/
def failedProbes (settled : List Settled) : List Event :=
  settled.filterMap fun s => match s.answer with
    | .ok result => result.error.map (.probeFailed result.path)
    | .error _ => none

namespace LocalHost

def create (display : Display) (files : FileTree) (folders : List Path) (withConsole : Bool) :
    Except Failure LocalHost := do
  let real ← folders.mapM files.resolve
  return {
    files
    folders := real.map fun p => forwardSlashes p.text
    active := none
    messages := []
    console := if withConsole then some [] else none
    display }

/-- What the journal of a new host starts with. -/
def journaled (host : LocalHost) : Journaled LocalHost := ⟨host, [.hostReady host.folders]⟩

/-- Makes a document the active one. -/
def focusText (path : Path) (offset : Int) (text : Text) : Act LocalHost Document := do
  match (← Act.state).files.resolve path with
  | .error e => throw e
  | .ok real =>
    let doc : Document := ⟨forwardSlashes real.text, text, clampOffset text offset⟩
    Act.update fun h => { h with active := some doc }
    return doc

def focus (path : Path) (offset : Int) : Act LocalHost Document := do
  match (← Act.state).files.readText path with
  | .error e => throw e
  | .ok text => focusText path offset text

def openDocument (path : Path) : Act LocalHost Document := do
  Act.note [.documentOpening path.text]
  match (← Act.state).files.readText path with
  | .error e =>
    Act.note [.documentUnreadable path.text e.message]
    throw e
  | .ok text => focusText path 0 text

/-- Any other document than the active one is left alone. -/
def reveal (path : Text) (offset : Int) : Act LocalHost Unit := do
  match (← Act.state).active with
  | none => return
  | some doc =>
    if doc.path = forwardSlashes path then
      let cursor := clampOffset doc.text offset
      Act.update fun h => { h with active := some { doc with cursor } }
      Act.note [.cursorMoved cursor path]

/-- The message is kept before it is printed. -/
def showMessage (level : MessageLevel) (message : Text) : Act LocalHost Unit := do
  Act.update fun h => { h with messages := h.messages ++ [(level, message)] }
  let host ← Act.state
  match host.console with
  | none => return
  | some shown =>
    match (messageStyle level).line host.display message with
    | .error e => throw (.markup e)
    | .ok line => Act.update fun h => { h with console := some (shown ++ line) }

def workspaceRootFor (path : Text) : Act LocalHost (Option Path) :=
  return (innermostRoot? path (← Act.state).folders).map Path.ofText

def editor : EditorHost LocalHost where
  activeEditor := return (← Act.state).active
  workspaceRootFor := workspaceRootFor
  openDocument := openDocument
  reveal := reveal
  showMessage := showMessage

def navigator (conventions : Conventions) (faults : Faults) : Navigator LocalHost where
  host := editor.withFaults faults
  conventions := conventions
  probe host := host.files.probe
  probeJournal := failedProbes

/-- Changes the active document, if there is one. -/
def edit (change : Document → Document) : Act LocalHost Unit :=
  Act.update fun h => { h with active := h.active.map change }

end LocalHost
end Counterpart
