import Counterpart.Text.Class
import Counterpart.Text.Cluster
import Counterpart.Text.Printed

/-! A text broken into lines of a given number of cells. Words are kept whole where a line has room
for them; a word longer than a line is folded over several lines, or shortened. -/

namespace Counterpart.Text

/-- What becomes of a word that is longer than a line. -/
inductive Overflow where
  | fold
  | ellipsis
deriving DecidableEq

/-- The words of a text, each with the blanks after it, when `word` was read before. The first one
takes the blanks in front of it too. -/
def wordsAfter (word : Text) : Text → List Text
  | [] => if word.all isBlank then [] else [word]
  | c :: rest =>
    if !isBlank c && !word.all isBlank && word.getLast?.any isBlank then
      word :: wordsAfter [c] rest
    else wordsAfter (word ++ [c]) rest

def words (s : Text) : List Text := wordsAfter [] s

/-- Lines in the making: the finished ones, in reverse, and the one that still grows, with the
cells it takes. -/
structure Lines where
  finished : List Text := []
  current : Text := []
  cells : Nat := 0

namespace Lines

def append (lines : Lines) (piece : Text) : Lines :=
  { lines with current := lines.current ++ piece, cells := lines.cells + piece.width }

/-- Goes on to a new line, unless nothing was written yet. -/
def next (lines : Lines) (piece : Text) : Lines where
  finished := if lines.current = [] then lines.finished else lines.current :: lines.finished
  current := piece
  cells := piece.width

/-- The blanks after a word need not fit. -/
def place (overflow : Overflow) (cells : Nat) (lines : Lines) (word : Text) : Lines :=
  let size := (trimEnd isBlank word).width
  if lines.cells + size ≤ cells then lines.append word
  else if cells < size ∧ overflow = .fold then (chop cells word).foldl next lines
  else lines.next word

def all (lines : Lines) : List Text := (lines.current :: lines.finished).reverse

end Lines

/-- Drops blanks at the end of a line as far as it has more characters than cells. -/
def dropExcess (cells : Nat) (line : Text) : Text :=
  let trailing := line.length - (trimEnd isBlank line).length
  line.take (line.length - min trailing (line.length - cells))

/-- Cuts a line to a number of cells, and marks that if words are not folded. -/
def cutLine (overflow : Overflow) (cells : Nat) (line : Text) : Except CutError Text :=
  match overflow with
  | .fold => fit cells line
  | .ellipsis => (fit (cells - 1) line).map (· ++ ['…'])

/-- A line without tabs, broken where a new line begins. -/
def breakLine (overflow : Overflow) (cells : Nat) (line : Text) : List Text :=
  match words line with
  | [] => [line]
  | words => (words.foldl (Lines.place overflow cells) {}).all

/-- The cells of parts that are measured each on its own. -/
def partsWidth (parts : List Text) : Nat := (parts.map width).foldl (· + ·) 0

/-- As many parts as there is room for; the last of them is cut. -/
def takeParts (cells : Nat) : List Text → Except CutError (List Text)
  | [] => .ok []
  | part :: rest =>
    if part.width < cells then (takeParts (cells - part.width) rest).map (part :: ·)
    else (fit cells part).map ([·])

/-- Parts that have no more than a number of cells. -/
def cropParts (cells : Nat) (parts : List Text) : Except CutError (List Text) :=
  if partsWidth parts ≤ cells then .ok parts else takeParts cells parts

/-- Brings parts to a number of cells all together. -/
def fitParts (cells : Nat) (parts : List Text) : Except CutError (List Text) :=
  if partsWidth parts ≤ cells then .ok (parts ++ [blanks (cells - partsWidth parts)])
  else takeParts cells parts

/-- The characters that end a line when the size of a text is taken. -/
def endsLine (c : Char) : Bool :=
  c == '\n' || (0x1C ≤ c.toNat && c.toNat ≤ 0x1E) || c.toNat == 0x85 || c.toNat == 0x2028
    || c.toNat == 0x2029

/-- The cells of the widest line of a text. A tab takes none here. -/
def span (s : Text) : Nat := ((s.splitOnP endsLine).map width).foldl max 0

end Counterpart.Text
