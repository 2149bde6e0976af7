import Counterpart.Text.Number
import Counterpart.Text.Quoted

/-! Templates: texts in which a field between braces stands for a value. A brace that is text is
written twice. A field has a name, which may go on to parts and elements of the value, then a
conversion after `!`, then a format after `:`; a format may have fields of its own. What
values answer is left to them. -/

namespace Counterpart

inductive TemplateError where
  /-- Braces that do not pair, a field that is no field, or a format that is none for its value. -/
  | malformed
  | unknownField (name : Text)
  /-- A part of the value was asked for that it does not have. -/
  | noAttribute (name : Text)
  /-- An element was asked for of a value without elements, or not by a position. -/
  | noIndex
  /-- An element was asked for beyond the last one. -/
  | noElement
  /-- A value that has one form only was asked for another one. -/
  | noFormat
deriving DecidableEq

def TemplateError.message : TemplateError → Text
  | .malformed => "Malformed template"
  | .unknownField name => Text.quoted name
  | .noAttribute name => "A field of a template has no attribute " ++ Text.quoted name
  | .noIndex => "A field of a template has no such index"
  | .noElement => "A field of a template has no element of this index"
  | .noFormat => "A field of a template has no such format"

structure TemplateField where
  name : Text
  conversion : Option Char
  format : Text
deriving DecidableEq

inductive TemplatePart where
  | char (c : Char)
  | field (f : TemplateField)
  /-- A brace that belongs to nothing. No more is read after it. -/
  | stray
deriving DecidableEq

namespace Template

/-- The name of a field, the character that ends it, and what follows. In square brackets a name
may have any characters. -/
def name? (inBrackets : Bool) : Text → Option (Text × Char × Text)
  | [] => none
  | c :: rest =>
    if inBrackets then
      (name? (c != ']') rest).map fun (name, stop, after) => (c :: name, stop, after)
    else if c = '\x7b' then none
    else if c = '\x7d' ∨ c = ':' ∨ c = '!' then some ([], c, rest)
    else (name? (c == '[') rest).map fun (name, stop, after) => (c :: name, stop, after)

/-- A format up to the brace that closes its field, inside so many fields of the format. -/
def format? (depth : Nat) : Text → Option (Text × Text)
  | [] => none
  | c :: rest =>
    let deeper := if c = '\x7b' then depth + 1 else if c = '\x7d' then depth - 1 else depth
    if c = '\x7d' ∧ depth = 0 then some ([], rest)
    else (format? deeper rest).map fun (format, after) => (c :: format, after)

/-- A field, from after its opening brace. -/
def field? (s : Text) : Option (TemplateField × Text) := do
  let (name, stop, rest) ← name? false s
  let formatted (conversion : Option Char) (s : Text) : Option (TemplateField × Text) :=
    (format? 0 s).map fun (format, after) => (⟨name, conversion, format⟩, after)
  if stop = '\x7d' then some (⟨name, none, []⟩, rest)
  else if stop = ':' then formatted none rest
  else match rest with
    | c :: '\x7d' :: rest => some (⟨name, some c, []⟩, rest)
    | c :: ':' :: rest => formatted (some c) rest
    | _ => none

/-- The parts of a template, of which there are no more than `steps`. -/
def partsUpTo : Nat → Text → List TemplatePart
  | _, [] => []
  | 0, _ => []
  | steps + 1, c :: rest =>
    if c = '\x7b' ∨ c = '\x7d' then
      if rest.head? = some c then .char c :: partsUpTo steps (rest.drop 1)
      else if c = '\x7d' then [.stray]
      else match field? rest with
        | none => [.stray]
        | some (f, after) => .field f :: partsUpTo steps after
    else .char c :: partsUpTo steps rest

def parts (s : Text) : List TemplatePart := partsUpTo s.length s

/-- How values of some type answer to what a field asks of them. -/
structure Answers (V : Type) where
  ofText : Text → V
  part? : V → Text → Option V
  /-- An element, by a key that may be a position. -/
  element : V → Text → Except TemplateError V
  /-- The value as a text. -/
  shown : V → Except TemplateError Text
  /-- The value as a code tells it. -/
  code : V → Except TemplateError Text
  /-- The value in the form that a format asks for. -/
  formatted : V → Text → Except TemplateError Text

variable {V : Type} (a : Answers V)

/-- Goes on from a value to what the rest of a field's name asks for, in so many steps at most. -/
def follow (v : V) : Nat → Text → Except TemplateError V
  | _, [] => .ok v
  | 0, _ => .error .malformed
  | steps + 1, '.' :: rest =>
    let name := rest.takeWhile fun c => c != '.' && c != '['
    if name = [] then .error .malformed
    else match a.part? v name with
      | some part => follow part steps (rest.drop name.length)
      | none => .error (.noAttribute name)
  | steps + 1, '[' :: rest =>
    let key := rest.takeWhile (· != ']')
    if key = [] ∨ key = rest then .error .malformed
    else match a.element v key with
      | .ok element => follow element steps (rest.drop (key.length + 1))
      | .error e => .error e
  | _, _ => .error .malformed

/-- The value of a field; fields without a name or with a number have none. -/
def lookUp (known : Text × V) (f : TemplateField) : Except TemplateError V :=
  let base := f.name.takeWhile fun c => c != '.' && c != '['
  if base.all fun c => (Text.digit? c).isSome then .error .malformed
  else if base ≠ known.1 then .error (.unknownField base)
  else follow a known.2 f.name.length (f.name.drop base.length)

/-- A value after a conversion. -/
def converted (v : V) : Option Char → Except TemplateError V
  | none => .ok v
  | some 's' => (a.shown v).map a.ofText
  | some 'r' | some 'a' => (a.code v).map a.ofText
  | some _ => .error .malformed

/-- Fills a template in which one field is known. A format is filled first, unless it is too deep
inside formats. -/
def fillWith (known : Text × V) : Nat → Text → Except TemplateError Text
  | 0, _ => .error .malformed
  | levels + 1, s => do
    let texts ← (parts s).mapM fun
      | .char c => .ok [c]
      | .stray => .error .malformed
      | .field f => do
        let v ← converted a (← lookUp a known f) f.conversion
        let format ← if '\x7b' ∈ f.format then fillWith known levels f.format else .ok f.format
        a.formatted v format
    return texts.flatten

/-- Fills a template that has no stray brace. Formats may have fields, but the formats of these may
not. -/
def fill (name : Text) (v : V) (s : Text) : Except TemplateError Text :=
  if .stray ∈ parts s then .error .malformed else fillWith a (name, v) 2 s

end Template
end Counterpart
