import Counterpart.Failure

/-! Checking which candidates exist. All are probed at once and may finish in any order; each result
is kept in the slot of its candidate, and the slots are read in order of precedence. -/

namespace Counterpart

inductive ProbeStatus where
  | present
  | missing
  | failed
deriving DecidableEq

def ProbeStatus.word : ProbeStatus → Text
  | .present => "exists"
  | .missing => "missing"
  | .failed => "error"

structure ProbeResult where
  path : Path
  status : ProbeStatus
  error : Option Text
deriving DecidableEq

def ProbeResult.found (r : ProbeResult) : Bool := r.status == .present

/-- A probe answers for a path or fails. -/
abbrev Probe := Path → Except Failure ProbeResult

/-- A candidate with what its probe came to. -/
structure Settled where
  path : Path
  answer : Except Failure ProbeResult

/-- Puts the answer of candidate `i` into its slot. -/
def settle (probe : Probe) (candidates : List Path) (slots : List (Option Settled)) (i : Nat) :
    List (Option Settled) :=
  match candidates[i]? with
  | some path => slots.set i (some ⟨path, probe path⟩)
  | none => slots

/-- The answers of all candidates in order of precedence, once the probes have finished in the
given order. -/
def gather (probe : Probe) (candidates : List Path) (completion : List Nat) : List Settled :=
  (completion.foldl (settle probe candidates) (candidates.map fun _ => none)).filterMap id

/-- A failed probe is a result of its own; only a cancelled one calls the others off, and why it was
cancelled is not told. -/
def collect : List Settled → Except Failure (List ProbeResult)
  | [] => .ok []
  | ⟨_, .ok result⟩ :: rest => (collect rest).map (result :: ·)
  | ⟨path, .error e⟩ :: rest =>
    if e.isCancelled then .error (.cancelled "")
    else (collect rest).map (⟨path, .failed, some e.message⟩ :: ·)

/-- The failures met before the first cancelled probe. -/
def raisedProbes : List Settled → List (Path × Failure)
  | [] => []
  | ⟨_, .ok _⟩ :: rest => raisedProbes rest
  | ⟨path, .error e⟩ :: rest => if e.isCancelled then [] else (path, e) :: raisedProbes rest

def probeAll (probe : Probe) (candidates : List Path) (completion : List Nat) :
    Except Failure (List ProbeResult) :=
  collect (gather probe candidates completion)

def firstFound? (results : List ProbeResult) : Option Path :=
  (results.find? ProbeResult.found).map ProbeResult.path

end Counterpart
