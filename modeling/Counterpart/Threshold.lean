import Counterpart.Event

/-! The level from which on the journal is shown. -/

namespace Counterpart

inductive Threshold where
  | trace
  | debug
  | info
  | success
  | warning
  | error
  | critical
deriving DecidableEq

namespace Threshold

def all : List Threshold := [.trace, .debug, .info, .success, .warning, .error, .critical]

def word : Threshold → Text
  | trace => "TRACE"
  | debug => "DEBUG"
  | info => "INFO"
  | success => "SUCCESS"
  | warning => "WARNING"
  | error => "ERROR"
  | critical => "CRITICAL"

/-- Capitals of the letters that occur in level names. -/
def capital (c : Char) : Text :=
  if c = 'ı' then "I" else if c = 'ſ' then "S" else if c = 'ß' then "SS" else [c.toUpper]

/-- A threshold by its name in any case. -/
def ofWord? (s : Text) : Option Threshold := all.find? (·.word == s.flatMap capital)

def rank : Threshold → Nat
  | trace => 5
  | debug => 10
  | info => 20
  | success => 25
  | warning => 30
  | error => 40
  | critical => 50

def ofLevel : Level → Threshold
  | .debug => debug
  | .info => info
  | .warning => warning
  | .error => error

def admits (t : Threshold) (level : Level) : Bool := t.rank ≤ (ofLevel level).rank

end Threshold
end Counterpart
