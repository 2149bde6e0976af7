import Counterpart.Text.Basic
import Counterpart.Text.Class

/-! Integers as people write them. A numeral proper is an optional minus sign and digits without
leading zeros. Around it there may be white space; before it a plus sign, and before its digits
zeros; in it single underscores between digits; after it a fraction of zeros. All that is taken
away, then the numeral is read. -/

namespace Counterpart.Text

/-- The zeros of the decimal digits beyond ASCII; each begins a run of ten. -/
def decimalZeros : List Nat := [
  0x660, 0x6F0, 0x7C0, 0x966, 0x9E6, 0xA66, 0xAE6, 0xB66, 0xBE6, 0xC66, 0xCE6, 0xD66, 0xDE6, 0xE50,
  0xED0, 0xF20, 0x1040, 0x1090, 0x17E0, 0x1810, 0x1946, 0x19D0, 0x1A80, 0x1A90, 0x1B50, 0x1BB0,
  0x1C40, 0x1C50, 0xA620, 0xA8D0, 0xA900, 0xA9D0, 0xA9F0, 0xAA50, 0xABF0, 0xFF10, 0x104A0, 0x10D30,
  0x11066, 0x110F0, 0x11136, 0x111D0, 0x112F0, 0x11450, 0x114D0, 0x11650, 0x116C0, 0x11730, 0x118E0,
  0x11950, 0x11C50, 0x11D50, 0x11DA0, 0x11F50, 0x16A60, 0x16AC0, 0x16B50, 0x1D7CE, 0x1D7D8, 0x1D7E2,
  0x1D7EC, 0x1D7F6, 0x1E140, 0x1E2F0, 0x1E4F0, 0x1E950, 0x1FBF0]

/-- The value of a decimal digit of any script. -/
def digit? (c : Char) : Option Nat :=
  if c.isDigit then some (c.toNat - 48)
  else (decimalZeros.find? fun z => z ≤ c.toNat && c.toNat ≤ z + 9).map (c.toNat - ·)

/-- The number that digits stand for. -/
def ofDigits (digits : Text) : Nat :=
  digits.foldl (fun n c => 10 * n + (digit? c).getD 0) 0

inductive NumeralError where
  | malformed
  /-- More digits than a number may have. -/
  | tooLong
deriving DecidableEq

/-- Numerals of more digits are refused. -/
def numeralLimit : Nat := 4300

/-- Digits alone. A zero in front stands alone. -/
def magnitude (s : Text) : Except NumeralError Nat :=
  let digits := s.takeWhile Char.isDigit
  if digits = [] then .error .malformed
  else if digits.head? = some '0' then (if s = ['0'] then .ok 0 else .error .malformed)
  else if numeralLimit < digits.length then .error .tooLong
  else if digits = s then .ok (ofDigits s)
  else .error .malformed

/-- Reads a numeral proper. -/
def numeral : Text → Except NumeralError Int
  | '-' :: rest => (magnitude rest).map fun n => -n
  | s => (magnitude s).map fun n => n

/-- White space allowed around a number; the information separators are not. -/
def isMargin (c : Char) : Bool := isBlank c && !(0x1C ≤ c.toNat && c.toNat ≤ 0x1F)

/-- A plus sign goes, unless a minus sign follows. -/
def dropPlus? : Text → Option Text
  | '+' :: '-' :: _ => none
  | '+' :: rest => some rest
  | s => some s

/-- What can begin a numeral after zeros: a minus sign, or a digit that counts. -/
def isLeading (c : Char) : Bool := c == '-' || (c.isDigit && c != '0')

/-- Drops zeros, and underscores among them, after the zero or underscore `last`; it stays if it is
the whole number or stands before the fraction. -/
def dropZerosAfter? (last : Char) : Text → Option Text
  | [] => some [last]
  | c :: rest =>
    if c = '0' ∨ c = '_' then dropZerosAfter? c rest
    else if isLeading c then some (c :: rest)
    else if c = '.' then some (last :: c :: rest)
    else none

def dropZeros? : Text → Option Text
  | [] => none
  | c :: rest =>
    if c = '0' then dropZerosAfter? c rest
    else if isLeading c then some (c :: rest)
    else none

/-- A point with nothing but zeros after it goes; a bare point does not. -/
def dropFraction (s : Text) : Text :=
  let whole := s.takeWhile (· != '.')
  let zeros := s.drop (whole.length + 1)
  if zeros != [] && zeros.all (· == '0') then whole else s

/-- Underscores go if each is a single one between other characters. -/
def dropGrouping (s : Text) : Text :=
  if (s.splitOn '_').any List.isEmpty then s else s.filter (· != '_')

/-- Digits without the zeros, the fraction and the grouping that add nothing to them. -/
def plainDigits? (s : Text) : Option Text :=
  (dropZeros? s).map fun rest => dropGrouping (dropFraction rest)

/-- The numeral that a liberal spelling stands for. -/
def plainNumeral? (s : Text) : Option Text := do
  match ← dropPlus? (trim isMargin s) with
  | '-' :: digits => (plainDigits? digits).map ('-' :: ·)
  | digits => plainDigits? digits

/-- Only a numeral proper can be found too long; a liberal spelling of one is malformed. -/
def integer (s : Text) : Except NumeralError Int :=
  match numeral s with
  | .error .malformed =>
    match (plainNumeral? s).map numeral with
    | some (.ok n) => .ok n
    | _ => .error .malformed
  | read => read

end Counterpart.Text
