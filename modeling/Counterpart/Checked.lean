import Counterpart.Text.Number

/-! Values from outside, taken in where a field of a known type is expected. A boolean is accepted
as the integer 1 or 0, and a number in a text as an integer. All the problems of a set of fields are
reported together, by field and then by kind. -/

namespace Counterpart

inductive Value where
  | null
  | boolean (b : Bool)
  /-- A number without a fractional part. -/
  | integer (n : Int)
  | fraction
  /-- A number so large that it is only known in its leading digits. -/
  | vast
  | text (s : Text)
  | composite
deriving DecidableEq

inductive Problem where
  | missing
  | extraForbidden
  | notInEnum
  | notString
  | notInteger
  | unreadableInteger
  | oversizedInteger
  | fractionalInteger
  | unreadableBoolean
deriving DecidableEq

def Problem.word : Problem → Text
  | .missing => "missing"
  | .extraForbidden => "extra_forbidden"
  | .notInEnum => "enum"
  | .notString => "string_type"
  | .notInteger => "int_type"
  | .unreadableInteger => "int_parsing"
  | .oversizedInteger => "int_parsing_size"
  | .fractionalInteger => "int_from_float"
  | .unreadableBoolean => "bool_parsing"

namespace Value

def asText : Value → Except Problem Text
  | .text s => .ok s
  | _ => .error .notString

def asInteger : Value → Except Problem Int
  | .integer n => .ok n
  | .boolean b => .ok (if b then 1 else 0)
  | .fraction => .error .fractionalInteger
  | .vast => .error .oversizedInteger
  | .text s =>
    match Text.integer s with
    | .ok n => .ok n
    | .error .malformed => .error .unreadableInteger
    | .error .tooLong => .error .oversizedInteger
  | .null | .composite => .error .notInteger

/-- Only the exact words count. -/
def asWord {α : Type} (ofWord? : Text → Option α) : Value → Except Problem α
  | .text s =>
    match ofWord? s with
    | some a => .ok a
    | none => .error .notInEnum
  | _ => .error .notInEnum

end Value

abbrev Problems := List (Text × Problem)

/-- The fields of an input by name. -/
abbrev Fields := List (Text × Value)

abbrev Checked (α : Type) := Except Problems α

namespace Checked

/-- Problems on both sides are kept. -/
def ap {α β : Type} : Checked (α → β) → Checked α → Checked β
  | .ok f, .ok a => .ok (f a)
  | .ok _, .error problems => .error problems
  | .error problems, .ok _ => .error problems
  | .error problems, .error more => .error (problems ++ more)

def named {α : Type} (name : Text) : Except Problem α → Checked α
  | .ok a => .ok a
  | .error problem => .error [(name, problem)]

def required {α : Type} (read : Value → Except Problem α) (name : Text) (fields : Fields) :
    Checked α :=
  named name <| match fields.lookup name with
    | some value => read value
    | none => .error .missing

/-- An absent field and a null one are the same. -/
def optional {α : Type} (read : Value → Except Problem α) (name : Text) (fields : Fields) :
    Checked (Option α) :=
  named name <| match fields.lookup name with
    | some .null | none => .ok none
    | some value => (read value).map some

/-- Fields of any other name are problems. -/
def only (names : List Text) (fields : Fields) : Checked Unit :=
  match (fields.map Prod.fst).filter (!names.contains ·) with
  | [] => .ok ()
  | extra => .error (extra.map (·, .extraForbidden))

def before (a b : Text × Problem) : Bool :=
  a.1 < b.1 || (a.1 == b.1 && !(b.2.word < a.2.word))

def sorted {α : Type} : Checked α → Checked α
  | .ok a => .ok a
  | .error problems => .error (problems.mergeSort before)

end Checked
end Counterpart
