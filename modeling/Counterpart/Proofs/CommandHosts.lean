import Counterpart.Proofs.Listing
import Counterpart.Proofs.PositionArguments

/-! The host that a command works at. It has the requested file in focus, with the cursor where the
position is in its text, and how the command ends is read off that host alone. -/

namespace Counterpart

namespace LocalHost

open Act

/-- The outcome of a toggle depends neither on the messages shown so far nor on the console. -/
theorem outcome_congr {conv : Conventions} {host host' : LocalHost}
    (hfiles : host.files = host'.files) (hfolders : host.folders = host'.folders)
    (hactive : host.active = host'.active) :
    (host.toggled conv).1 = (host'.toggled conv).1 := by
  have hfocused : host.focused = host'.focused := by rw [focused, focused, hactive, hfolders]
  have hstarted : host.started conv = host'.started conv := by rw [started, started, hfocused]
  rw [toggled, toggled, attempted_congr hstarted hfiles]
  cases host'.attempted conv <;> rfl

theorem console_toggled (conv : Conventions) {host : LocalHost} {before line : Text}
    (hc : host.console = some before)
    (hl : (messageStyle (host.toggled conv).1.level).line host.display
      (host.toggled conv).1.message = .ok line) :
    (host.toggled conv).2.console = some (before ++ line) := by
  rw [toggled] at hl ⊢
  cases ha : host.attempted conv with
  | error e =>
    rw [ha] at hl
    simp [shown, hc, hl, Except.toOption]
  | ok arrived =>
    rw [ha] at hl
    simp [shown, hc, hl, Except.toOption]

end LocalHost

namespace CommandLine

open Act

/-- The offset that a position stands for in a text. -/
def Placement.cursorIn (text : Text) : Placement → Nat
  | .position line column => offsetOf text line column
  | .offset n => clampOffset text n

theorem placeCursor_gives {host : LocalHost} {doc : Document} (p : Placement) (file : Text)
    (workspaces : List Text) (json : Bool) (hactive : host.active = some doc)
    (hslash : forwardSlashes doc.path = doc.path) :
    Gives (placeCursor (p.request file workspaces json) doc) host (.ok ())
      { host with active := some { doc with cursor := (p.cursorIn doc.text : Int) } } := by
  cases p with
  | position line column =>
    have hedit := Gives.update (s := host) fun h : LocalHost => { h with
      active := h.active.map fun d => { d with cursor := offsetOf doc.text line column } }
    rw [hactive] at hedit
    exact hedit
  | offset n => exact LocalHost.reveal_clamps hactive hslash n

/-- The folders of a host: the workspaces, or else the working directory. -/
def folders (files : FileTree) (workspaces : List Text) : List Path :=
  if workspaces.map Path.ofText = [] then [files.workingDirectory.path]
  else workspaces.map Path.ofText

def newHost (display : Display) (files : FileTree) (places : List Path) (withConsole : Bool) :
    LocalHost where
  files
  folders := places.map fun p => forwardSlashes p.text
  active := none
  messages := []
  console := if withConsole then some [] else none
  display

def hostAt (display : Display) (files : FileTree) (places : List Path) (doc : Document)
    (withConsole : Bool) : LocalHost :=
  { newHost display files places withConsole with active := some doc }

section

variable {display : Display} {files : FileTree} {places : List Path} {withConsole : Bool}

theorem create_eq {folders : List Path} (h : folders.mapM files.resolve = .ok places) :
    LocalHost.create display files folders withConsole =
      .ok (newHost display files places withConsole) := by
  rw [LocalHost.create, h]
  rfl

theorem openHost_eq {file text : Text} {workspaces : List Text} {real : Path}
    (hfolders : (folders files workspaces).mapM files.resolve = .ok places)
    (hread : files.readText (.ofText file) = .ok text)
    (hreal : files.resolve (.ofText file) = .ok real) (p : Placement) (json : Bool) :
    ∃ journal, openHost display files (p.request file workspaces json) withConsole = .ok
      ⟨hostAt display files places ⟨forwardSlashes real.text, text, p.cursorIn text⟩ withConsole,
        journal⟩ := by
  have hone : ¬ ((p.request file workspaces json).line.isSome ∧
      (p.request file workspaces json).offset.isSome) := by
    cases p <;> simp [Placement.request]
  have hworkspaces : (p.request file workspaces json).workspaces =
      workspaces.map Path.ofText := by cases p <;> rfl
  have hfile : (p.request file workspaces json).file = .ofText file := by cases p <;> rfl
  have hplaced : Gives (LocalHost.focus (.ofText file) 0 >>=
        placeCursor (p.request file workspaces json)) (newHost display files places withConsole)
      (.ok ())
      (hostAt display files places ⟨forwardSlashes real.text, text, p.cursorIn text⟩ withConsole) :=
    .bind (LocalHost.focus_gives hread hreal) (placeCursor_gives p file workspaces json rfl
      (forwardSlashes_forwardSlashes real.text))
  obtain ⟨journal, hrun⟩ := hplaced [.hostReady (newHost display files places withConsole).folders]
  have hcreate := @create_eq display files places withConsole _ hfolders
  rw [folders, Place.path] at hcreate
  refine ⟨journal, ?_⟩
  rw [openHost, if_neg hone, hworkspaces, hfile]
  dsimp only
  rw [hcreate]
  dsimp only
  rw [LocalHost.journaled, hrun]

def Ending.ofOutcome (outcome : Outcome) (output : Text) : Ending :=
  .finished (outcome.status ≠ .failed) output

theorem exitCode_ofOutcome (outcome : Outcome) (output : Text) :
    (Ending.ofOutcome outcome output).exitCode = if outcome.status = .failed then 1 else 0 := by
  by_cases h : outcome.status = .failed <;> simp [Ending.ofOutcome, Ending.exitCode, h]

variable {request : Request} {host : LocalHost} {journal : List Event} {json : Bool}

theorem toggle_eq (h : openHost display files request (!json) = .ok ⟨host, journal⟩) :
    (toggle display files request json).1 = .ofOutcome (host.toggled .standard).1
      (if json then (host.toggled .standard).1.record.indented ++ ['\n']
        else (host.toggled .standard).2.console.getD []) := by
  obtain ⟨after, hrun⟩ := @LocalHost.toggle_gives .standard host journal
  rw [toggle, h]
  dsimp only
  rw [navigator, hrun]
  rfl

/-- A toggle prints its outcome as a record, or else the line for its message. -/
theorem toggle_ending {outcome : Outcome} {line : Text}
    (h : openHost display files request (!json) = .ok ⟨host, journal⟩)
    (hc : host.console = if json then none else some [])
    (ho : (host.toggled .standard).1 = outcome)
    (hl : (messageStyle outcome.level).line host.display outcome.message = .ok line) :
    (toggle display files request json).1 =
      .ofOutcome outcome (if json then outcome.record.indented ++ ['\n'] else line) := by
  subst ho
  rw [toggle_eq h]
  cases json with
  | true => rfl
  | false =>
    have hshown := LocalHost.console_toggled .standard hc hl
    rw [hshown]
    rfl

/-- How listing the candidates of a host ends. -/
def listed (display : Display) (host : LocalHost) : Ending :=
  match host.sought .standard with
  | .error e => fail display ("No candidates: " ++ e.message)
  | .ok found =>
    let results := found.candidates.map host.files.answer
    match candidateTable display (CandidateReport.ofResults results) >>= Table.text with
    | .ok output => .finished true output
    | .error e => .died (.markup e)

theorem candidates_eq (h : openHost display files request true = .ok ⟨host, journal⟩) :
    (candidates display files request).1 = listed display host := by
  obtain ⟨after, hrun⟩ := @LocalHost.report_gives .standard host journal
  rw [candidates, h, listed]
  dsimp only
  rw [navigator, hrun]
  cases host.sought .standard with
  | error e => rfl
  | ok found =>
    dsimp only
    cases candidateTable display
      (CandidateReport.ofResults (found.candidates.map host.files.answer)) >>= Table.text <;> rfl

theorem listed_exitCode (display : Display) (host : LocalHost) :
    (listed display host).exitCode ≠ 2 := by
  rw [listed]
  split
  · rw [fail]
    split <;> simp [Ending.exitCode]
  · dsimp only
    split <;> simp [Ending.exitCode]

end

end CommandLine
end Counterpart
