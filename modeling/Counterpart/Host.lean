import Counterpart.Lookup
import Counterpart.Outcome

/-! What a navigation asks of an editor. A request may change the editor and may fail; what was
changed and noted before a failure stays. -/

namespace Counterpart

/-- A state with the journal kept along with it. -/
structure Journaled (σ : Type) where
  state : σ
  journal : List Event

abbrev Act (σ α : Type) := ExceptT Failure (StateM (Journaled σ)) α

namespace Act

variable {σ α : Type}

def note (events : List Event) : Act σ Unit :=
  modify fun w => { w with journal := w.journal ++ events }

def state : Act σ σ := return (← get).state

def update (f : σ → σ) : Act σ Unit := modify fun w => { w with state := f w.state }

def orFail : Option Failure → Act σ α → Act σ α
  | some e, _ => throw e
  | none, act => act

end Act

structure EditorHost (σ : Type) where
  activeEditor : Act σ (Option Document)
  /-- The workspace root that contains a document. -/
  workspaceRootFor : Text → Act σ (Option Path)
  /-- Opens a file and gives it focus, with the cursor at its start. -/
  openDocument : Path → Act σ Document
  /-- Moves the cursor of an open document. -/
  reveal : Text → Int → Act σ Unit
  showMessage : MessageLevel → Text → Act σ Unit

/-- Requests that fail at once instead of being served. -/
structure Faults where
  activeEditor : Option Failure := none
  workspaceRootFor : Option Failure := none
  openDocument : Option Failure := none
  reveal : Option Failure := none
  showMessage : Option Failure := none

def EditorHost.withFaults {σ : Type} (host : EditorHost σ) (faults : Faults) : EditorHost σ where
  activeEditor := .orFail faults.activeEditor host.activeEditor
  workspaceRootFor path := .orFail faults.workspaceRootFor (host.workspaceRootFor path)
  openDocument path := .orFail faults.openDocument (host.openDocument path)
  reveal path offset := .orFail faults.reveal (host.reveal path offset)
  showMessage level message := .orFail faults.showMessage (host.showMessage level message)

end Counterpart
