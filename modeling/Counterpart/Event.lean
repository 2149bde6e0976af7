import Counterpart.Failure
import Counterpart.Method
import Counterpart.Probe
import Counterpart.Target

/-! The journal: what happened during a navigation, event by event, with the level and the text of
each. -/

namespace Counterpart

inductive Level where
  | debug
  | info
  | warning
  | error
deriving DecidableEq

def Level.word : Level → Text
  | .debug => "DEBUG"
  | .info => "INFO"
  | .warning => "WARNING"
  | .error => "ERROR"

inductive Event where
  | rootsResolved (identity : Text) (roots : List Path)
  | candidatesBuilt (kind : FileKind) (count : Nat) (target : Text)
  | probeFailed (path : Path) (error : Text)
  | probeRaised (path : Path) (error : Text)
  | firstFound (path : Path)
  | noneFound (count : Nat)
  | noDefinition (cursor : Nat)
  | methodClosed (name : Text) (line cursor : Nat)
  | insideMethod (cursor : Nat) (name : Text)
  | methodLocated (name : Text) (offset : Nat)
  | methodNotLocated (name : Text)
  | classified (path : Text) (kind : FileKind)
  | navigationStarted (path : Text) (cursor : Int)
  | navigationFailed (kind : ErrorKind) (message : Text)
  | navigationBroke (message : Text)
  | navigationFinished (status message : Text)
  | hostReady (folders : List Text)
  | documentOpening (path : Text)
  | documentUnreadable (path error : Text)
  | cursorMoved (offset : Nat) (path : Text)

namespace Event

def level : Event → Level
  | probeRaised .. => .warning
  | navigationStarted .. | navigationFailed .. | navigationFinished .. | documentOpening .. => .info
  | navigationBroke .. | documentUnreadable .. => .error
  | _ => .debug

def text : Event → Text
  | rootsResolved identity roots =>
    "Resolved " ++ Text.ofNat roots.length ++ " root(s) for '" ++ identity ++ "': " ++
      Text.quotedList (roots.map Path.text)
  | candidatesBuilt kind count target =>
    "Built " ++ Text.ofNat count ++ " " ++ kind.word ++ " candidate(s) for '" ++ target ++ "'"
  | probeFailed path error => "Existence probe failed for " ++ path.text ++ ": " ++ error
  | probeRaised path error => "Existence probe raised for " ++ path.text ++ ": " ++ error
  | firstFound path => "First existing candidate: " ++ path.text
  | noneFound count => "None of " ++ Text.ofNat count ++ " candidate(s) exist"
  | noDefinition cursor => "No method definition before offset " ++ Text.ofNat cursor
  | methodClosed name line cursor =>
    "Method '" ++ name ++ "' closed at line " ++ Text.ofNat line ++ " before offset " ++
      Text.ofNat cursor
  | insideMethod cursor name =>
    "Cursor at offset " ++ Text.ofNat cursor ++ " is inside '" ++ name ++ "'"
  | methodLocated name offset => "Located 'def " ++ name ++ "' at offset " ++ Text.ofNat offset
  | methodNotLocated name => "No 'def " ++ name ++ "' in document"
  | classified path kind => "Classified " ++ path ++ " as " ++ kind.word
  | navigationStarted path cursor =>
    "Toggling from " ++ path ++ " (cursor " ++ Text.ofInt cursor ++ ")"
  | navigationFailed kind message => "Navigation failed (" ++ kind.word ++ "): " ++ message
  | navigationBroke message => "Navigation failed (unexpected): " ++ message
  | navigationFinished status message => "Navigation finished (" ++ status ++ "): " ++ message
  | hostReady folders =>
    "Local editor host with workspace folders: " ++ Text.quotedList folders
  | documentOpening path => "Opening document " ++ path
  | documentUnreadable path error => "Could not read " ++ path ++ ": " ++ error
  | cursorMoved offset path =>
    "Cursor moved to offset " ++ Text.ofNat offset ++ " in " ++ path

/-- What the search around a cursor found. -/
def ofEnclosure (cursor : Nat) : Enclosure → Event
  | .outside => noDefinition cursor
  | .closed name line => methodClosed name line cursor
  | .inside name => insideMethod cursor name

theorem ofEnclosure_eq_methodClosed_iff {cursor line : Nat} {name : Text} {e : Enclosure} :
    ofEnclosure cursor e = methodClosed name line cursor ↔ e = .closed name line := by
  cases e <;> simp [ofEnclosure]

def ofMethodOffset (name : Text) : Option Nat → Event
  | some offset => methodLocated name offset
  | none => methodNotLocated name

/-- What probing came to; nothing is settled when the probes were called off. -/
def ofProbes (settled : List Settled) : List Event :=
  (raisedProbes settled).map fun (path, e) => probeRaised path e.message

def ofFirstFound (candidates : List Path) : Option Path → Event
  | some path => firstFound path
  | none => noneFound candidates.length

end Event
end Counterpart
