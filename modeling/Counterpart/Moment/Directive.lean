import Counterpart.Moment

/-! Moments written by directives: after a percent sign a letter asks for a part of the moment.
Between the two there may be flags, a width and a modifier. What is no directive stands for
itself. -/

namespace Counterpart

structure Directive where
  /-- What numbers are filled up with; `_` stands for a blank, and `-` for nothing but what the
  width asks for. -/
  fill : Option Char := none
  capitals : Bool := false
  otherCase : Bool := false
  width : Nat := 0
  modifier : Option Char := none
  letter : Char
  /-- How the directive is written. -/
  source : Text

inductive MomentPiece where
  | char (c : Char)
  | directive (d : Directive)

namespace Directive

/-- Reads a directive on from its flags, its width, its modifier. No width counts beyond `most`. -/
def flags (most : Nat) (d : Directive) : Text → Directive × Text
  | '_' :: rest => flags most { d with fill := some '_' } rest
  | '-' :: rest => flags most { d with fill := some '-' } rest
  | '0' :: rest => flags most { d with fill := some '0' } rest
  | '^' :: rest => flags most { d with capitals := true } rest
  | '#' :: rest => flags most { d with otherCase := true } rest
  | rest =>
    let digits := rest.takeWhile Char.isDigit
    let number := digits.foldl (fun n c => min most (10 * n + (c.toNat - 48))) 0
    ({ d with width := number }, rest.drop digits.length)

/-- Reads a directive from after its percent sign. -/
def read (most : Nat) (s : Text) : Directive × Text :=
  let (d, rest) := flags most { letter := '%', source := [] } s
  let (modifier, rest) := match rest with
    | 'E' :: rest => (some 'E', rest)
    | 'O' :: rest => (some 'O', rest)
    | rest => (none, rest)
  let after := rest.drop 1
  ({ d with
      modifier
      letter := rest.head?.getD '\x00'
      source := '%' :: s.take (s.length - after.length) }, after)

/-- The pieces of a format, of which there are no more than `steps`. -/
def pieces (most : Nat) : Nat → Text → List MomentPiece
  | 0, _ => []
  | _, [] => []
  | steps + 1, '%' :: rest =>
    let (d, after) := read most rest
    .directive d :: pieces most steps after
  | steps + 1, c :: rest => .char c :: pieces most steps rest

/-- The letters that a modifier may stand before. -/
def allows (letter : Char) : Option Char → Bool
  | none => true
  | some 'E' => "cnprstuxyzCPRTXYZ%".toList.contains letter
  | some _ => "bdeghjklmnprstuwyzBCGHIMPRSTUVWZ%".toList.contains letter

/-- A text in the asked case, filled up to the width. -/
def word (d : Directive) (s : Text) : Text :=
  Text.padLeft (if d.fill = some '0' then '0' else ' ') d.width
    (if d.capitals then s.map Char.toUpper else s)

/-- A name, in capitals also if the other case is asked for. -/
def name (d : Directive) (s : Text) : Text :=
  { d with capitals := d.capitals || d.otherCase }.word s

/-- A name that comes in small letters if the other case is asked for. -/
def smallName (d : Directive) (small : Bool) (s : Text) : Text :=
  if small || d.otherCase then { d with capitals := false }.word (s.map Char.toLower) else d.word s

/-- A number of so many digits at least. -/
def number (d : Directive) (least : Nat) (fill : Char) (n : Int) : Text :=
  let digits := Text.ofNat n.natAbs
  let sign : Text := if n < 0 then ['-'] else []
  let width := max least d.width
  match d.fill.getD fill with
  | '-' => Text.padLeft ' ' d.width (sign ++ digits)
  | '_' => Text.padLeft ' ' width (sign ++ digits)
  | _ => sign ++ Text.padLeft '0' (width - sign.length) digits

/-- A directive with a modifier that its letter does not allow. -/
def refused (d : Directive) : Text :=
  if d.letter ∈ ['b', 'h', 'B'] then d.name d.source else d.word d.source

/-- The format that a directive for several parts stands for. -/
def whole? : Char → Option Text
  | 'c' => some "%a %b %e %H:%M:%S %Y"
  | 'x' | 'D' => some "%m/%d/%y"
  | 'F' => some "%Y-%m-%d"
  | 'r' => some "%I:%M:%S %p"
  | 'R' => some "%H:%M"
  | 'T' | 'X' => some "%H:%M:%S"
  | _ => none

/-- What a directive for a single part stands for. Of the zone nothing more is told here. -/
def part (m : Moment) (d : Directive) : Text :=
  match d.letter with
  | 'a' => d.name (m.weekdayName.take 3)
  | 'A' => d.name m.weekdayName
  | 'b' | 'h' => d.name (m.monthName.take 3)
  | 'B' => d.name m.monthName
  | 'C' => d.number 1 '0' (m.year / 100)
  | 'd' => d.number 2 '0' m.day
  | 'e' => d.number 2 '_' m.day
  | 'g' => d.number 2 '0' (m.weekOf.1 % 100)
  | 'G' => d.number 1 '0' m.weekOf.1
  | 'H' => d.number 2 '0' m.hour
  | 'I' => d.number 2 '0' m.clockHour
  | 'j' => d.number 3 '0' m.dayOfYear
  | 'k' => d.number 2 '_' m.hour
  | 'l' => d.number 2 '_' m.clockHour
  | 'm' => d.number 2 '0' m.month
  | 'M' => d.number 2 '0' m.minute
  | 'n' => d.word ['\n']
  | 'p' => d.smallName false m.half
  | 'P' => d.smallName true m.half
  | 's' => d.word (Text.ofInt m.seconds)
  | 'S' => d.number 2 '0' m.second
  | 't' => d.word ['\t']
  | 'u' => d.number 1 '0' (m.mondayDay + 1)
  | 'U' => d.number 2 '0' (m.weekFrom m.weekday)
  | 'V' => d.number 2 '0' m.weekOf.2
  | 'w' => d.number 1 '0' m.weekday
  | 'W' => d.number 2 '0' (m.weekFrom m.mondayDay)
  | 'y' => d.number 2 '0' (m.year % 100)
  | 'Y' => d.number 1 '0' m.year
  | 'z' => []
  | 'Z' => if d.fill = some '-' then [] else d.word []
  | '%' => d.word ['%']
  | _ => d.word d.source

/-- What the pieces of a format stand for; `inner` tells that of a format within. -/
def fillPieces (m : Moment) (inner : Text → Text) (pieces : List MomentPiece) : Text :=
  pieces.flatMap fun
    | .char c => [c]
    | .directive d =>
      if !allows d.letter d.modifier then d.refused
      else match whole? d.letter with
        | some format => d.word (inner format)
        | none => d.part m

end Directive

/-- Puts in the fraction of the second and the zone. They have no flags and no width. -/
def Moment.tellZone (m : Moment) : Text → Text
  | '%' :: 'f' :: rest => Text.digits 6 m.microsecond ++ m.tellZone rest
  | '%' :: 'z' :: rest => m.zoneOffset [] ++ m.tellZone rest
  | '%' :: 'Z' :: rest => m.zoneName ++ m.tellZone rest
  | '%' :: c :: rest => '%' :: c :: m.tellZone rest
  | c :: rest => c :: m.tellZone rest
  | [] => []

/-- A moment as a format with directives tells it. If that is longer than there is room for, it is
nothing. -/
def Moment.fill (m : Moment) (format : Text) : Text :=
  let format := m.tellZone format
  let room := roomFor format.length
  let told (inner : Text → Text) (format : Text) :=
    Directive.fillPieces m inner (Directive.pieces room format.length format)
  let filled := told (told id) format
  if filled.length < room then filled else []
where
  /-- The first of 1024, 2048, 4096 and so on that is at least 256 times a length. -/
  roomFor (length : Nat) : Nat :=
    1024 * Nat.pow 2 (if length ≤ 4 then 0 else Nat.log2 ((length - 1) / 4) + 1)

end Counterpart
