import Counterpart.Conventions
import Counterpart.Heading
import Counterpart.Text.Position

/-! The method around a cursor, and the definition of a method, read off raw lines. A definition is
a heading followed by a name. It is closed by a later line that holds the end keyword alone and is
indented no deeper than the definition. -/

namespace Counterpart

structure Definition where
  /-- The offset of the line. -/
  start : Nat
  indent : Nat
  /-- The offset of the name. -/
  nameStart : Nat
  name : Text

def Definition.stop (d : Definition) : Nat := d.nameStart + d.name.length

def definitionAt? (keyword : Text) (start : Nat) (line : Text) : Option Definition :=
  (headings keyword line).findSome? fun h =>
    let name := h.rest.takeWhile isWord
    if name = [] then none else some ⟨start, h.indent, start + h.width, name⟩

/-- The definitions among the given lines; a line that starts inside an earlier definition is
passed over. -/
def definitionsFrom (keyword : Text) : Nat → List (Nat × Text) → List Definition
  | _, [] => []
  | resume, (start, line) :: later =>
    if start < resume then definitionsFrom keyword resume later
    else match definitionAt? keyword start line with
      | some d => d :: definitionsFrom keyword d.stop later
      | none => definitionsFrom keyword resume later

def definitions (keyword text : Text) : List Definition :=
  definitionsFrom keyword 0 (lineStarts text)

/-- A line that closes a definition of the given indentation. -/
def closes (endKeyword : Text) (indent : Nat) (line : Text) : Bool :=
  let line := Text.trimEnd (· == '\r') line
  Text.trim isBlank line == endKeyword && leadingBlanks line ≤ indent

/-- How a cursor lies to the last definition before it. -/
inductive Enclosure where
  | outside
  | closed (name : Text) (line : Nat)
  | inside (name : Text)
deriving DecidableEq

def Enclosure.method? : Enclosure → Option Text
  | .inside name => some name
  | _ => none

/-- Only the text before the cursor is searched, but the name of a definition that the cursor cuts
is read to its end. -/
def enclosure (conv : Conventions) (text : Text) (cursor : Int) : Enclosure :=
  let before := text.take (clampOffset text cursor)
  match (definitions conv.methodKeyword before).getLast? with
  | none => .outside
  | some d =>
    let whole := (definitionAt? conv.methodKeyword d.start (text.drop d.start)).getD d
    let body := ((before.drop d.start).splitOn '\n').tail
    match body.findIdx? (closes conv.blockEndKeyword d.indent) with
    | none => .inside whole.name
    | some i => .closed whole.name ((before.take d.start).count '\n' + i + 2)

def enclosingMethod? (conv : Conventions) (text : Text) (cursor : Int) : Option Text :=
  (enclosure conv text cursor).method?

/-- A place between two characters of which exactly one is a word character. -/
def isWordEdge (before after : Text) : Bool :=
  before.getLast?.any isWord != after.head?.any isWord

/-- The offset just past the name in the first definition of `action`, which is matched literally
and must end at a word edge. -/
def methodOffset? (conv : Conventions) (text action : Text) : Option Nat :=
  (lineStarts text).findSome? fun (start, line) =>
    (headings conv.methodKeyword line).findSome? fun h =>
      match action.isPrefixOf? h.rest with
      | some after =>
        if isWordEdge action after then some (start + h.width + action.length) else none
      | none => none

/-- Nested blocks are told apart from the method's own end by indentation alone. -/
def handlesNestedBlockEnds : Bool := false

/-- A definition that ends on its own line is never seen to close. -/
def handlesOneLineMethods : Bool := false

end Counterpart
