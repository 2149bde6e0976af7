import Counterpart.Moment.Pattern
import Counterpart.Template
import Counterpart.Text.Layout

/-! The values that the time in a file's name leads to. It is a stamp, a moment that comes in a form
fit for the names of files. A field may go on from it to the moment and to the numbers that make it
up; nothing else is told of a stamp. -/

namespace Counterpart.Template

inductive Value where
  | stamp (m : Moment)
  | moment (m : Moment)
  | number (n : Int)
  | text (s : Text)

namespace Value

def momentParts (m : Moment) : List (Text × Value) := [
  ("year", number m.year), ("month", number m.month), ("day", number m.day),
  ("hour", number m.hour), ("minute", number m.minute), ("second", number m.second),
  ("microsecond", number m.microsecond)]

def parts : Value → List (Text × Value)
  | stamp m => [("datetime", moment m)]
  | moment m => momentParts m
  | number _ | text _ => []

/-- The characters of a text are its elements. -/
def element (v : Value) (key : Text) : Except TemplateError Value :=
  match v with
  | text s =>
    if key.all fun c => (Text.digit? c).isSome then
      match s[Text.ofDigits key]? with
      | some c => .ok (text [c])
      | none => .error .noElement
    else .error .noIndex
  | _ => .error .noIndex

def code : Value → Except TemplateError Text
  | stamp _ | moment _ => .error .noFormat
  | number n => .ok (Text.ofInt n)
  | text s => .ok (Text.quoted s)

def shown : Value → Except TemplateError Text
  | moment m => .ok (m.inFull " ")
  | text s => .ok s
  | v => v.code

def formatted (v : Value) (format : Text) : Except TemplateError Text :=
  let form := match v with
    | stamp m => m.format? (if format = [] then "%Y-%m-%d_%H-%M-%S_%f" else format)
    | moment m => m.format? format
    | number n => Layout.number? format n
    | text s => Layout.text? format s
  match form with
  | some s => .ok s
  | none => .error .malformed

def answers : Answers Value where
  ofText := text
  part? v name := v.parts.lookup name
  element := element
  shown := shown
  code := code
  formatted := formatted

end Value
end Counterpart.Template
