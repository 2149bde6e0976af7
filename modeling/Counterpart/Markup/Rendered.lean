import Counterpart.Markup.TagStyle
import Counterpart.Text.Wrap

/-! What a markup prints: a text, and the stretches of it that tags give a style. When it is wrapped
every line keeps its part of each stretch. -/

namespace Counterpart.Markup

/-- A stretch of printed text, and what a tag says about its looks. -/
structure Span where
  start : Nat
  stop : Nat
  style : Text
deriving DecidableEq

/-- A style is looked up only when its stretch is shown; then it must not be a colour of which a
part is no number. -/
def Span.isFaulty (span : Span) : Bool :=
  match TagStyle.ofText span.style with
  | .error .badNumber => true
  | _ => false

/-- What is printed, and the stretches of it that tags give a style. -/
structure Rendered where
  text : Text
  spans : List Span
deriving DecidableEq

namespace Rendered

/-- Adds text in front that was counted by the spans already. -/
def after (text : Text) (r : Rendered) : Rendered := { r with text := text ++ r.text }

/-- Keeps some of the characters. -/
def filter (keep : Char → Bool) (r : Rendered) : Rendered :=
  let place (offset : Nat) := ((r.text.take offset).filter keep).length
  { text := r.text.filter keep
    spans := r.spans.map fun span =>
      { span with start := place span.start, stop := place span.stop } }

end Rendered

/-- The part of a stretch in a line of a length that begins at an offset. -/
def Span.within (offset length : Nat) (span : Span) : Option Span :=
  let start := max span.start offset - offset
  let stop := min span.stop (offset + length) - offset
  if start < stop then some { span with start, stop } else none

/-- What is left of a stretch when so many characters of a text are kept. One without characters
stays as long as nothing is cut off. -/
def Span.cropped (length kept : Nat) (span : Span) : Option Span :=
  if length ≤ kept then some span
  else if span.start < kept then some { span with stop := min kept span.stop }
  else none

/-- A stretch as several, one up to each of the offsets in it, which rise. -/
def Span.parted (span : Span) : List Nat → List Span
  | [] => [span]
  | cut :: cuts =>
    if span.start < cut ∧ cut < span.stop then
      { span with stop := cut } :: Span.parted { span with start := cut } cuts
    else span.parted cuts

/-- The offsets after the tabs of a line. -/
def tabEnds (line : Text) : List Nat :=
  line.zipIdx.filterMap fun (c, offset) => if c = '\t' then some (offset + 1) else none

namespace Rendered

/-- Puts a text that was made of this one by a cut in its place. -/
def cutTo (r : Rendered) (text : Text) : Rendered where
  text := text
  spans := r.spans.filterMap (·.cropped r.text.length text.length)

/-- Cuts a line with more than a number of cells. -/
def shorten (overflow : Text.Overflow) (cells : Nat) (r : Rendered) :
    Except Text.CutError Rendered :=
  if cells < r.text.width then (Text.cutLine overflow cells r.text).map r.cutTo else .ok r

/-- Brings a line to a number of cells. The cells are counted anew once it is cut: what ends it now
may have joined the line before it. -/
def brought (overflow : Text.Overflow) (cells : Nat) (r : Rendered) :
    Except Text.CutError Rendered := do
  let kept := r.cutTo (Text.dropExcess cells r.text)
  let cut ← kept.shorten overflow cells
  let filled := { cut with text := cut.text ++ Text.blanks (cells - kept.text.width) }
  filled.shorten overflow cells

/-- Brings broken lines, the first of which begins at an offset, to a number of cells. -/
def ofBroken (overflow : Text.Overflow) (cells : Nat) (spans : List Span) (offset : Nat) :
    List Text → Except Text.CutError (List Rendered)
  | [] => .ok []
  | line :: rest => do
    let here := spans.filterMap (·.within offset line.length)
    let first ← brought overflow cells ⟨line, here⟩
    let lines ← ofBroken overflow cells spans (offset + line.length) rest
    return first :: lines

/-- Wraps lines; spans count from the beginning of the first one. A tab ends the stretches that
reach over it, and new ones begin after it. -/
def ofLines (overflow : Text.Overflow) (cells : Nat) (spans : List Span) :
    List Text → Except Text.CutError (List Rendered)
  | [] => .ok []
  | line :: rest => do
    let place (offset : Nat) := (Text.expandTabs (line.take offset)).length
    let past (offset : Nat) := offset - (line.length + 1)
    let moved (f : Nat → Nat) (span : Span) : Span :=
      { span with start := f span.start, stop := f span.stop }
    let here := spans.flatMap (·.parted (tabEnds line))
    let broken := Text.breakLine overflow cells (Text.expandTabs line)
    let lines ← ofBroken overflow cells (here.map (moved place)) 0 broken
    return lines ++ (← ofLines overflow cells (spans.map (moved past)) rest)

/-- A text as lines that fill a number of cells. -/
def wrap (overflow : Text.Overflow) (cells : Nat) (r : Rendered) :
    Except Text.CutError (List Rendered) :=
  if '\n' ∈ r.text ∨ '\t' ∈ r.text ∨ (Text.breakLine overflow cells r.text).length ≠ 1 then
    ofLines overflow cells r.spans (r.text.splitOn '\n')
  else (r.brought overflow cells).map ([·])

/-- A text parted at offsets in rising order, the first character being at an offset itself. -/
def partsAt (offset : Nat) : List Nat → Text → List Text
  | [], s => [s]
  | cut :: cuts, s => s.take (cut - offset) :: partsAt cut cuts (s.drop (cut - offset))

/-- The parts of a text that are printed one by one: each stretch begins and ends one. They are
measured each on its own. -/
def parts (r : Rendered) : List Text :=
  partsAt 0 ((r.spans.map Span.start ++ r.spans.map Span.stop).mergeSort) r.text

end Rendered
end Counterpart.Markup
