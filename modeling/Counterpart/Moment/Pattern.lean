import Counterpart.Moment.Directive

/-! Moments written by patterns: a run of letters asks for a part of the moment, and its length for
the form of the part. What is no such run stands for itself, and so does a run in square
brackets. -/

namespace Counterpart.Moment

/-- The parts that a pattern may ask for. Of two that begin alike the longer one comes first. -/
def parts (m : Moment) : List (String × Text) := [
  ("YYYY", Text.digits 4 m.year),
  ("YY", Text.digits 2 (m.year % 100)),
  ("Q", Text.ofNat m.quarter),
  ("MMMM", m.monthName),
  ("MMM", m.monthName.take 3),
  ("MM", Text.digits 2 m.month),
  ("M", Text.ofNat m.month),
  ("DDDD", Text.digits 3 m.dayOfYear),
  ("DDD", Text.ofNat m.dayOfYear),
  ("DD", Text.digits 2 m.day),
  ("D", Text.ofNat m.day),
  ("dddd", m.weekdayName),
  ("ddd", m.weekdayName.take 3),
  ("d", Text.ofNat m.mondayDay),
  ("E", Text.ofNat (m.mondayDay + 1)),
  ("HH", Text.digits 2 m.hour),
  ("H", Text.ofNat m.hour),
  ("hh", Text.digits 2 m.clockHour),
  ("h", Text.ofNat m.clockHour),
  ("mm", Text.digits 2 m.minute),
  ("m", Text.ofNat m.minute),
  ("ss", Text.digits 2 m.second),
  ("s", Text.ofNat m.second),
  ("SSSSSS", Text.digits 6 m.microsecond),
  ("SSSSS", Text.digits 5 (m.microsecond / 10)),
  ("SSSS", Text.digits 4 (m.microsecond / 100)),
  ("SSS", Text.digits 3 (m.microsecond / 1000)),
  ("SS", Text.digits 2 (m.microsecond / 10000)),
  ("S", Text.ofNat (m.microsecond / 100000)),
  ("A", m.half),
  ("ZZ", m.zoneOffset []),
  ("Z", m.zoneOffset ":"),
  ("zz", m.zoneName),
  ("X", Text.ofInt m.seconds),
  ("x", Text.ofInt (m.seconds * 1000000 + m.microsecond))]

/-- What follows the first of some texts that a text begins with, and what that one stands for. -/
def afterFirst? (s : Text) (table : List (Text × Text)) : Option (Text × Text) :=
  table.findSome? fun (key, value) => (key.isPrefixOf? s).map fun rest => (value, rest)

/-- Fills a pattern, from the table of its parts. -/
def fillParts (table : List (Text × Text)) : Nat → Text → Text
  | 0, _ => []
  | _, [] => []
  | steps + 1, c :: rest =>
    match afterFirst? (c :: rest) table with
    | some (value, rest) => value ++ fillParts table steps rest
    | none => c :: fillParts table steps rest

/-- The suffix that asks for universal time. -/
def universalSuffix : Text := "!UTC"

def fillPattern (m : Moment) (pattern : Text) : Text :=
  let table := m.parts.map fun (key, value) => (key.toList, value)
  let literals := (universalSuffix :: [] :: table.map Prod.fst).map fun s => ('[' :: s ++ [']'], s)
  fillParts (table ++ literals) pattern.length pattern

/-- Whether a part of a second is asked for with more digits than it has. -/
def asksTooMuch (pattern : Text) : Bool :=
  (Text.after? "SSSSSSS" (fun _ => true) pattern).isSome

/-- A moment in a form that is a format with directives if it has a percent sign, and else a
pattern. -/
def format? (m : Moment) (form : Text) : Option Text :=
  let form := (universalSuffix.reverse.isPrefixOf? form.reverse).map List.reverse |>.getD form
  if form = [] then some (m.fill "%Y-%m-%dT%H:%M:%S.%f%z")
  else if '%' ∈ form then some (m.fill form)
  else if asksTooMuch form then none
  else some (m.fillPattern form)

end Counterpart.Moment
