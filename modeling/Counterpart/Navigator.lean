import Counterpart.Host

/-! Navigation from the focused document to its counterpart. A controller opens the view of the
action around the cursor; a view opens its controller and puts the cursor on the action. Every
navigation comes to one outcome, which is shown once. -/

namespace Counterpart

structure Navigator (σ : Type) where
  host : EditorHost σ
  conventions : Conventions
  /-- How a candidate is checked while the editor is in a given state. -/
  probe : σ → Probe
  /-- What the probes themselves leave in the journal. -/
  probeJournal : List Settled → List Event

namespace Navigator

variable {σ : Type} (nav : Navigator σ)

/-- The focused document and the workspace root that contains it. -/
def focused : Act σ (Document × Path) := do
  match ← nav.host.activeEditor with
  | none => throw (.navigation .noActiveEditor)
  | some doc =>
    match ← nav.host.workspaceRootFor (forwardSlashes doc.path) with
    | none => throw (.navigation .outsideWorkspace)
    | some root => return (doc, root)

def lookup (doc : Document) (root : Path) : Act σ Lookup := do
  Act.note (Lookup.journal nav.conventions doc root)
  match Lookup.find nav.conventions doc root with
  | .ok found => return found
  | .error e => throw (.navigation e)

def probeAll (candidates : List Path) : Act σ (List ProbeResult) := do
  let settled := gather (nav.probe (← Act.state)) candidates (List.range candidates.length)
  Act.note (nav.probeJournal settled ++ Event.ofProbes settled)
  match collect settled with
  | .ok results => return results
  | .error e => throw e

def firstExisting (candidates : List Path) : Act σ (Option Path) := do
  let found := firstFound? (← nav.probeAll candidates)
  Act.note [.ofFirstFound candidates found]
  return found

def notFound (found : Lookup) : NavigationError :=
  match found.kind with
  | .controller => .viewNotFound found.identity found.action
  | _ => .controllerNotFound found.identity

/-- Puts the cursor of a controller just opened on the definition of an action. -/
def jumpTo (doc : Document) (action : Text) : Act σ Outcome := do
  let offset := methodOffset? nav.conventions doc.text action
  Act.note [.ofMethodOffset action offset]
  match offset with
  | none =>
    return .ofDocument .partly ("Opened controller (action " ++ action ++ " not found)") doc action
  | some offset =>
    nav.host.reveal doc.path offset
    return .ofDocument .opened ("Jumped to action: " ++ action) { doc with cursor := offset } action

/-- Notes where a navigation starts, which takes a cursor that can be written. -/
def start (doc : Document) : Act σ Unit :=
  if doc.isSpelled then Act.note [.navigationStarted doc.path doc.cursor] else throw .longNumeral

def attempt : Act σ Outcome := do
  let (doc, root) ← nav.focused
  start doc
  let found ← nav.lookup doc root
  match ← nav.firstExisting found.candidates with
  | none => throw (.navigation (notFound found))
  | some path =>
    let opened ← nav.host.openDocument path
    match found.kind with
    | .controller =>
      return .ofDocument .opened ("Opened view: " ++ found.action) opened found.action
    | _ => nav.jumpTo opened found.action

/-- What a failure leaves in the journal. A cancellation is not to be caught, and a navigation error
must have a kind. -/
def entryOf : Failure → Except Failure Event
  | .cancelled message => .error (.cancelled message)
  | .navigation e =>
    match e.kind with
    | some kind => .ok (.navigationFailed kind e.message)
    | none => .error (.noKind e.className)
  | e => .ok (.navigationBroke e.message)

def outcomeOf : Failure → Outcome
  | .navigation e => .failure e.message e.kind
  | e => .failure ("Unexpected error: " ++ e.message) none

/-- A failure becomes an outcome once it is in the journal. -/
def navigate : Act σ Outcome :=
  tryCatch nav.attempt fun e => do
    match entryOf e with
    | .error raised => throw raised
    | .ok event =>
      Act.note [event]
      return outcomeOf e

def toggle : Act σ Outcome := do
  let outcome ← nav.navigate
  nav.host.showMessage outcome.level outcome.message
  Act.note [.navigationFinished outcome.status.word outcome.message]
  return outcome

/-- Every candidate of the focused document with what its probe came to. -/
def report : Act σ (List CandidateReport) := do
  let (doc, root) ← nav.focused
  let found ← nav.lookup doc root
  return CandidateReport.ofResults (← nav.probeAll found.candidates)

end Navigator

/-- A failure that becomes an outcome. -/
def Failure.IsHandled (e : Failure) : Prop := ∃ event, Navigator.entryOf e = .ok event

theorem Failure.isHandled_or (e : Failure) :
    e.IsHandled ∨ ∃ raised, Navigator.entryOf e = .error raised := by
  rw [IsHandled]
  cases Navigator.entryOf e with
  | error raised => exact .inr ⟨raised, rfl⟩
  | ok event => exact .inl ⟨event, rfl⟩

theorem Failure.isHandled_navigation {e : NavigationError} {kind : ErrorKind}
    (h : e.kind = some kind) : (Failure.navigation e).IsHandled :=
  ⟨_, by rw [Navigator.entryOf, h]⟩

theorem Navigator.notFound_kind (found : Lookup) : (notFound found).kind = some .notFound := by
  rw [notFound]
  split <;> rfl

end Counterpart
