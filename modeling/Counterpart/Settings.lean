import Counterpart.Checked
import Counterpart.Display
import Counterpart.Path

/-! Settings taken from environment variables. Names are read without regard to case, and of two
spellings of one name the later counts. The console is set up apart from them. -/

namespace Counterpart

structure Settings where
  logLevel : Text := "WARNING"
  logFile : Option Path := none
  quiet : Bool := false
  jsonOutput : Bool := false
  display : Display := {}

/-- The variables of an environment with their values. -/
abbrev Environment := List (Text × Text)

/-- What the name of every variable begins with. -/
def variableStem : Text := "RAILS_NAV_"

def truthWords : List Text := ["1", "true", "t", "yes", "y", "on"]

def falsityWords : List Text := ["0", "false", "f", "no", "n", "off"]

/-- A truth value by one of its words, in any case but without margins. -/
def readBoolean (s : Text) : Except Problem Bool :=
  let word := s.map Char.toLower
  if truthWords.contains word then .ok true
  else if falsityWords.contains word then .ok false
  else .error .unreadableBoolean

namespace Environment

def valueOf? (env : Environment) (name : Text) : Option Text :=
  (env.reverse.find? fun v => v.1.map Char.toLower == (variableStem ++ name).map Char.toLower).map
    Prod.snd

def boolean (env : Environment) (name : Text) : Checked Bool :=
  match env.valueOf? name with
  | none => .ok false
  | some s => Checked.named name (readBoolean s)

end Environment

def Settings.ofEnvironment (env : Environment) : Checked Settings :=
  let texts : Settings := {
    logLevel := (env.valueOf? "LOG_LEVEL").getD "WARNING"
    logFile := (env.valueOf? "LOG_FILE").map Path.ofText }
  Checked.sorted <|
    .ap ((env.boolean "QUIET").map fun quiet jsonOutput => { texts with quiet, jsonOutput })
      (env.boolean "JSON_OUTPUT")

end Counterpart
