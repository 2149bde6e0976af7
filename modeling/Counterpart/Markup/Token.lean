import Counterpart.Text.Basic
import Counterpart.Text.Class
import Counterpart.Text.Number

/-! The tokens of constants: numbers, quoted texts, names, and marks. Of a number or a quoted text
only the kind is kept, for only whether a text is a constant matters. -/

namespace Counterpart.Markup

inductive Token where
  | real
  | imaginary
  | chars
  | bytes
  | name (s : Text)
  /-- Any other character on its own. -/
  | mark (c : Char)
deriving DecidableEq

namespace Token

/-- What follows digits that may be parted by single underscores. -/
def afterDigits (isDigit : Char → Bool) : Text → Text
  | [] => []
  | [c] => if isDigit c then [] else [c]
  | c :: d :: rest =>
    if isDigit c then afterDigits isDigit (d :: rest)
    else if c = '_' ∧ isDigit d then afterDigits isDigit rest
    else c :: d :: rest

def isHexDigit (c : Char) : Bool := c.isDigit || ('a' ≤ c.toLower && c.toLower ≤ 'f')

def startsWith (p : Char → Bool) (s : Text) : Bool := s.head?.any p

/-- What follows the exponent of a number, if there is one. -/
def afterExponent? (s : Text) : Option Text :=
  match s with
  | e :: rest =>
    let digits := match rest with
      | '+' :: rest | '-' :: rest => rest
      | rest => rest
    if e.toLower = 'e' ∧ startsWith Char.isDigit digits then some (afterDigits Char.isDigit digits)
    else none
  | [] => none

/-- A number with a base of its own, after the zero and the letter of the base. -/
def readBased (isDigit : Char → Bool) (s : Text) : Option (Token × Text) :=
  let rest := match s with
    | '_' :: rest => afterDigits isDigit rest
    | s => afterDigits isDigit s
  if (s.take (s.length - rest.length)).any isDigit then some (.real, rest) else none

def readDecimal (s : Text) : Option (Token × Text) :=
  let whole := afterDigits Char.isDigit s
  let digits := s.take (s.length - whole.length)
  let fraction := match whole with
    | '.' :: rest => if startsWith Char.isDigit rest then afterDigits Char.isDigit rest else rest
    | whole => whole
  let rest := (afterExponent? fraction).getD fraction
  match rest with
  | c :: after =>
    if c.toLower = 'j' then some (.imaginary, after) else finish digits whole rest
  | [] => finish digits whole rest
where
  /-- A whole number does not begin with a zero, unless it is zero; its digits are limited. -/
  finish (digits whole rest : Text) : Option (Token × Text) :=
    let digits := digits.filter (· != '_')
    if whole ≠ rest ∨ digits.all (· = '0') then some (.real, rest)
    else if digits.head? = some '0' ∨ Text.numeralLimit < digits.length then none
    else some (.real, rest)

/-- Reads a number, after which no name may begin. -/
def readNumber (s : Text) : Option (Token × Text) :=
  let read := match s with
    | '0' :: base :: rest =>
      if base.toLower = 'x' then readBased isHexDigit rest
      else if base.toLower = 'o' then readBased (fun c => '0' ≤ c && c ≤ '7') rest
      else if base.toLower = 'b' then readBased (fun c => c == '0' || c == '1') rest
      else readDecimal s
    | s => readDecimal s
  read.filter fun (_, rest) => !startsWith isWord rest

/-- How a quoted text is written. -/
structure Quotation where
  mark : Char
  tripled : Bool
  raw : Bool
  bytes : Bool

/-- The value of hexadecimal digits. -/
def hexValue (s : Text) : Nat :=
  s.foldl (fun n c => 16 * n + (if c.isDigit then c.toNat - 48 else c.toLower.toNat - 87)) 0

/-- Whether the escape of a letter is complete; `rest` follows the letter. Characters cannot be
given by name. -/
def Quotation.escapeHolds (q : Quotation) (letter : Char) (rest : Text) : Bool :=
  let digits (n : Nat) := (rest.take n).length == n && (rest.take n).all isHexDigit
  if q.raw then true
  else if letter = 'x' then digits 2
  else if q.bytes then true
  else if letter = 'u' then digits 4
  else if letter = 'U' then digits 8 && hexValue (rest.take 8) ≤ 0x10FFFF
  else letter != 'N'

/-- What follows the closing quotation mark. -/
def Quotation.close? (q : Quotation) : Text → Option Text
  | [] => none
  | [c] => if c = q.mark ∧ !q.tripled then some [] else none
  | c :: d :: rest =>
    if c = q.mark ∧ (!q.tripled ∨ [q.mark, q.mark].isPrefixOf (d :: rest)) then
      some (if q.tripled then rest.drop 1 else d :: rest)
    else if (c = '\n' ∧ !q.tripled) ∨ (q.bytes ∧ 128 ≤ c.toNat) then none
    else if c = '\\' then
      if q.escapeHolds d rest && !(q.bytes && 128 ≤ d.toNat) then q.close? rest else none
    else q.close? (d :: rest)

/-- Reads a quoted text from its quotation mark on; `stem` stands before it. -/
def readQuoted (stem : Text) (quote : Char) (rest : Text) : Option (Token × Text) :=
  let stem := stem.map Char.toLower
  if stem ∈ ([[], ['r'], ['u'], ['b'], ['b', 'r'], ['r', 'b']] : List Text) then
    let tripled := [quote, quote].isPrefixOf rest
    let q : Quotation := ⟨quote, tripled, 'r' ∈ stem, 'b' ∈ stem⟩
    (q.close? (if tripled then rest.drop 2 else rest)).map fun rest =>
      (if q.bytes then .bytes else .chars, rest)
  else none

def isQuote (c : Char) : Bool := c == '\'' || c == '"'

/-- Reads the next token, which begins with `c`. -/
def read (c : Char) (rest : Text) : Option (Token × Text) :=
  if c.isDigit || (c == '.' && startsWith Char.isDigit rest) then readNumber (c :: rest)
  else if isQuote c then readQuoted [] c rest
  else if isWord c then
    let word := (c :: rest).takeWhile isWord
    match (c :: rest).drop word.length with
    | next :: after => if isQuote next then readQuoted word next after
      else some (.name word, next :: after)
    | [] => some (.name word, [])
  else if (['.', '.'] : Text).isPrefixOf rest && c == '.' then some (.name "None", rest.drop 2)
  else some (.mark c, rest)

/-- The letter of a name that a letter of another shape stands for, as far as the name of sets may
hold it. -/
def plainLetter (c : Char) : Char :=
  let n := c.toNat
  if c ∈ ['ſ', 'ˢ', 'ₛ'] then 's'
  else if c ∈ ['ᵉ', 'ₑ', 'ℯ', 'ⅇ'] then 'e'
  else if c ∈ ['ᵗ', 'ₜ'] then 't'
  else if 0xFF41 ≤ n ∧ n ≤ 0xFF5A then Char.ofNat (n - 0xFF41 + 97)
  else if 0x1D400 ≤ n ∧ n ≤ 0x1D6A3 ∧ n ≠ 0x1D4BA ∧ 26 ≤ (n - 0x1D400) % 52 then
    Char.ofNat ((n - 0x1D400) % 52 + 71)
  else c

/-- White space between tokens. -/
def isSpace (c : Char) : Bool := c == ' ' || c == '\t' || c == '\x0c'

/-- What stands in a line after its indentation, and the column where it begins. A form feed begins
the line anew; if a line is carried on from another one, the first column other than 0 is `held`. -/
def afterIndent? (held column : Nat) : Text → Option (Nat × Text)
  | ' ' :: rest => afterIndent? held (column + 1) rest
  | '\t' :: rest => afterIndent? held (column / 8 * 8 + 8) rest
  | '\x0c' :: rest => afterIndent? held 0 rest
  | '\\' :: '\n' :: c :: rest =>
    afterIndent? (if held = 0 then column else held) column (c :: rest)
  | '\\' :: _ => none
  | rest => some (if held = 0 then column else held, rest)

/-- Begins a line outside of brackets. Only a line without tokens may be indented. -/
def beginLine? (s : Text) : Option Text :=
  match afterIndent? 0 0 s with
  | some (column, rest) =>
    if column = 0 ∨ rest.head? = some '\n' ∨ rest.head? = some '#' then some rest else none
  | none => none

/-- Brackets may be open inside each other up to this number. -/
def bracketLimit : Nat := 200

/-- Splits a text into tokens, taking so many steps at most. Lines may end between brackets only;
`depth` counts those that are open. -/
def split (depth : Nat) : Nat → Text → Option (List Token)
  | 0, _ => none
  | _, [] => some []
  | steps + 1, c :: rest =>
    if isSpace c ∨ (c = '\n' ∧ depth ≠ 0) then split depth steps rest
    else if c = '\n' then do
      return .mark c :: (← split depth steps (← beginLine? rest))
    else if c = '\\' ∧ rest.head? = some '\n' ∧ rest.length ≠ 1 then
      split depth steps (rest.drop 1)
    else if c = '#' then split depth steps (rest.dropWhile (· != '\n'))
    else do
      let (token, after) ← read c rest
      if c = '(' ∨ c = '\x7b' then
        if depth < bracketLimit then return token :: (← split (depth + 1) steps after) else none
      else if c = ')' ∨ c = '\x7d' then return token :: (← split (depth - 1) steps after)
      else return token :: (← split depth steps after)

/-- The tokens of a text. -/
def ofText? (s : Text) : Option (List Token) := do
  let s := Text.unifyNewlines s
  split 0 (s.length + 1) (← beginLine? s)

end Token

end Counterpart.Markup
