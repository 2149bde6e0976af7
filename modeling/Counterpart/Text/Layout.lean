import Counterpart.Text.Number

/-! Layouts bring a text or a number to a form: an alignment with a character to fill up with, a
sign, a width, a separator of groups of digits, a precision, and a letter for the presentation. -/

namespace Counterpart

inductive Side where
  | left
  | right
  | middle
  /-- Between the sign of a number and its digits. -/
  | inside
deriving DecidableEq

def Side.ofChar? : Char → Option Side
  | '<' => some .left
  | '>' => some .right
  | '^' => some .middle
  | '=' => some .inside
  | _ => none

structure Layout where
  fill : Char
  side : Side
  sign : Option Char
  /-- A zero shall have no minus sign. -/
  unsignedZero : Bool
  /-- The base of a number or its point shall be shown. -/
  alternate : Bool
  width : Option Nat
  separator : Option Char
  precision : Option Nat
  presentation : Char
deriving DecidableEq

namespace Layout

/-- Widths and precisions are less than this. -/
def countLimit : Nat := 9223372036854775808

/-- A count in front of a text: nothing if there are no digits. -/
def count? (s : Text) : Option (Option Nat × Text) :=
  let digits := s.takeWhile fun c => (Text.digit? c).isSome
  if digits = [] then some (none, s)
  else if Text.ofDigits digits < countLimit then
    some (some (Text.ofDigits digits), s.drop digits.length)
  else none

/-- Takes a character off a text if it is one of some. -/
def take (p : Char → Bool) : Text → Option Char × Text
  | c :: rest => if p c then (some c, rest) else (none, c :: rest)
  | [] => (none, [])

/-- The presentations of numbers in which a separator may part the digits. -/
def allowsSeparator (separator presentation : Char) : Bool :=
  "defgEG%F".toList.contains presentation ||
    (separator == '_' && "boxX".toList.contains presentation)

/-- Reads the layout of a text or a number that would stand on the side `usual`, with the letter of
its own presentation. -/
def ofText? (usual : Side) (presentation : Char) (s : Text) : Option Layout := do
  let (fill, side, s) : Option Char × Option Side × Text := match s with
    | c :: d :: rest => match Side.ofChar? d, Side.ofChar? c with
      | some side, _ => (some c, some side, rest)
      | none, some side => (none, some side, d :: rest)
      | none, none => (none, none, s)
    | [c] => match Side.ofChar? c with
      | some side => (none, some side, [])
      | none => (none, none, s)
    | [] => (none, none, [])
  let (sign, s) := take (fun c => c == ' ' || c == '+' || c == '-') s
  let (unsignedZero, s) := take (· == 'z') s
  let (alternate, s) := take (· == '#') s
  let (zero, s) := if fill.isSome then (none, s) else take (· == '0') s
  let (width, s) ← count? s
  let (comma, s) := take (· == ',') s
  let (bar, s) := take (· == '_') s
  if (comma.isSome && bar.isSome) || (bar.isSome && s.head? == some ',') then none
  let (precision, s) ← match s with
    | '.' :: rest => match ← count? rest with
      | (some n, s) => some (some n, s)
      | (none, _) => none
    | s => some (none, s)
  let presentation ← match s with
    | [] => some presentation
    | [c] => some c
    | _ => none
  let separator := comma.or bar
  if separator.any fun c => !allowsSeparator c presentation then none
  return {
    fill := (fill.or zero).getD ' '
    side := side.getD (if zero.isSome && usual = .right then .inside else usual)
    sign, unsignedZero := unsignedZero.isSome, alternate := alternate.isSome
    width, separator, precision, presentation }

/-- No text is filled up to more than this; longer ones are of no use. -/
def widest : Nat := 1000000

/-- Fills a text up to the width of a layout; `front` is what stays on the left of it. -/
def filled (l : Layout) (front s : Text) : Text :=
  let missing := min widest (l.width.getD 0) - (front.length + s.length)
  let fillers (n : Nat) := List.replicate n l.fill
  match l.side with
  | .left => front ++ s ++ fillers missing
  | .right => fillers missing ++ front ++ s
  | .middle => fillers (missing / 2) ++ front ++ s ++ fillers (missing - missing / 2)
  | .inside => front ++ fillers missing ++ s

/-- A text in the layout that another text describes. -/
def text? (form s : Text) : Option Text := do
  let l ← ofText? .left 's' form
  if l.presentation ≠ 's' ∨ l.sign.isSome ∨ l.unsignedZero ∨ l.alternate ∨ l.side = .inside then
    none
  return l.filled [] (match l.precision with
    | some n => s.take n
    | none => s)

/-- Digits in groups of a size, the last one full. -/
def grouped (size : Nat) (separator : Char) (digits : Text) : Text :=
  match digits.drop size with
  | [] => digits
  | _ =>
    let first := (digits.length - 1) % size + 1
    (digits.take first) ++ (digits.drop first).zipIdx.flatMap fun (c, i) =>
      if i % size = 0 then [separator, c] else [c]

/-- The least number of digits that takes a width when they are in groups. A separator is not the
first character. -/
def digitsFor (size width : Nat) : Nat :=
  width - width / (size + 1) + if width % (size + 1) = 0 then 1 else 0

/-- A number by its sign and digits, and what stands after them. -/
def number (l : Layout) (negative : Bool) (base digits rest : Text) : Text :=
  let sign : Text := if negative then ['-'] else match l.sign with
    | some '-' | none => []
    | some c => [c]
  let front := sign ++ base
  match l.separator with
  | none => l.filled front (digits ++ rest)
  | some separator =>
    let size := if "boxX".toList.contains l.presentation then 4 else 3
    let zeros := if l.fill = '0' ∧ l.side = .inside then
        digitsFor size (min widest (l.width.getD 0) - front.length - rest.length) - digits.length
      else 0
    l.filled front (grouped size separator (List.replicate zeros '0' ++ digits) ++ rest)

/-- The digits of a number in a base. -/
def digitsIn (base n : Nat) : Text := Nat.toDigits base n

/-- A whole number rounded to so many digits, a half to the even neighbour: the digits, and how many
follow the first. -/
def rounded (count n : Nat) : Text × Nat :=
  let digits := Text.ofNat n
  if digits.length ≤ count then
    (digits ++ List.replicate (count - digits.length) '0', digits.length - 1)
  else
    let unit := Nat.pow 10 (digits.length - count)
    let q := n / unit
    let up := unit < 2 * (n % unit) ∨ (unit = 2 * (n % unit) ∧ q % 2 = 1)
    let digits' := Text.ofNat (if up then q + 1 else q)
    (digits'.take count, digits.length - 1 + (digits'.length - count))

/-- Digits before and after a point; without the latter it is left out, unless it shall be shown. -/
def pointed (l : Layout) (s : Text) : Text := if s = [] ∧ !l.alternate then [] else '.' :: s

def exponent (e : Nat) : Text :=
  'e' :: '+' :: List.replicate (2 - (Text.ofNat e).length) '0' ++ Text.ofNat e

/-- The digits of a whole number as a decimal fraction, and what follows them. -/
def fraction? (l : Layout) (n : Nat) : Option (Text × Text) :=
  let places := min widest (l.precision.getD 6)
  let trimmed (s : Text) := if l.alternate then s else Text.trimEnd (· == '0') s
  match l.presentation.toLower with
  | 'f' => some (Text.ofNat n, l.pointed (List.replicate places '0'))
  | '%' => some (Text.ofNat (100 * n), l.pointed (List.replicate places '0') ++ ['%'])
  | 'e' =>
    let (digits, e) := rounded (places + 1) n
    some (digits.take 1, l.pointed (digits.drop 1) ++ exponent e)
  | 'g' =>
    let places := max 1 places
    let (digits, e) := rounded places n
    if e < places then some (digits.take (e + 1), l.pointed (trimmed (digits.drop (e + 1))))
    else some (digits.take 1, l.pointed (trimmed (digits.drop 1)) ++ exponent e)
  | _ => none

/-- A whole number in the layout that a text describes. -/
def number? (form : Text) (n : Int) : Option Text := do
  let l ← ofText? .right 'd' form
  let upper (s : Text) := if l.presentation.isUpper then s.map Char.toUpper else s
  let whole (base : Nat) (mark : Text) : Option Text :=
    if l.precision.isSome || l.unsignedZero then none
    else some (l.number (n < 0) (upper (if l.alternate then mark else []))
      (upper (digitsIn base n.natAbs)) [])
  match l.presentation with
  | 'd' | 'n' => whole 10 []
  | 'b' => whole 2 "0b"
  | 'o' => whole 8 "0o"
  | 'x' | 'X' => whole 16 "0x"
  | 'c' =>
    if l.precision.isSome ∨ l.unsignedZero ∨ l.sign.isSome ∨ l.alternate ∨ n < 0 ∨
        0x110000 ≤ n then none
    else some (l.filled [] [Char.ofNat n.toNat])
  | _ => do
    if l.precision.any (2147483648 ≤ ·) then none
    let (digits, rest) ← l.fraction? n.natAbs
    return l.number (n < 0) [] digits (upper rest)

end Layout
end Counterpart
