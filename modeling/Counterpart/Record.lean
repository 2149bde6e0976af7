import Counterpart.Text.Quoted

/-! Records written as JSON objects. Characters beyond ASCII stand for themselves; control
characters, the double quote and the backslash are escaped. -/

namespace Counterpart

inductive Scalar where
  | null
  | text (s : Text)
  | integer (n : Int)
deriving DecidableEq

def Scalar.ofText? : Option Text → Scalar
  | some s => .text s
  | none => .null

def Scalar.ofInteger? : Option Int → Scalar
  | some n => .integer n
  | none => .null

/-- The members of an object in the order in which they are written. -/
abbrev Record := List (Text × Scalar)

namespace Record

def escapedChar (c : Char) : Text :=
  if c = '"' then "\\\""
  else if c = '\\' then "\\\\"
  else if c = '\n' then "\\n"
  else if c = '\r' then "\\r"
  else if c = '\t' then "\\t"
  else if c.toNat = 8 then "\\b"
  else if c.toNat = 12 then "\\f"
  else if c.toNat < 32 then "\\u" ++ Text.hex 4 c.toNat
  else [c]

def string (s : Text) : Text := ['"'] ++ s.flatMap escapedChar ++ ['"']

def scalar : Scalar → Text
  | .null => "null"
  | .text s => string s
  | .integer n => Text.ofInt n

def compact (r : Record) : Text :=
  ['\x7b'] ++ Text.joinWith "," (r.map fun (k, v) => string k ++ ":" ++ scalar v) ++ ['\x7d']

/-- One member to a line, indented by two blanks. -/
def indented (r : Record) : Text :=
  ['\x7b', '\n'] ++ Text.joinWith ",\n" (r.map fun (k, v) => "  " ++ string k ++ ": " ++ scalar v)
    ++ ['\n', '\x7d']

end Record
end Counterpart
