import Counterpart.Markup
import Counterpart.Text.Printed
import Counterpart.Text.Quoted

/-! Styled messages: a text in a colour, written as console markup. -/

namespace Counterpart

inductive Color where
  | green
  | yellow
  | red
deriving DecidableEq

inductive Modifier where
  | bold
  | none
deriving DecidableEq

structure Style where
  color : Color
  modifier : Modifier := .bold
deriving DecidableEq

inductive StyleError where
  | unknownColor (word : Text)
  | unknownModifier (word : Text)
deriving DecidableEq

def StyleError.message : StyleError → Text
  | .unknownColor word => Text.quoted word ++ " is not a valid Color"
  | .unknownModifier word => Text.quoted word ++ " is not a valid StyleModifier"

def Color.word : Color → Text
  | .green => "green"
  | .yellow => "yellow"
  | .red => "red"

def Modifier.word : Modifier → Text
  | .bold => "bold"
  | .none => ""

def Color.ofWord? (s : Text) : Option Color :=
  [Color.green, .yellow, .red].find? (·.word == s)

def Modifier.ofWord? (s : Text) : Option Modifier :=
  [Modifier.bold, .none].find? (·.word == s)

namespace Style

def ofWords (color modifier : Text) : Except StyleError Style :=
  match Color.ofWord? color, Modifier.ofWord? modifier with
  | .none, _ => .error (.unknownColor color)
  | _, .none => .error (.unknownModifier modifier)
  | .some color, .some modifier => .ok ⟨color, modifier⟩

/-- The tag that switches a style on. -/
def name (style : Style) : Text :=
  match style.modifier with
  | .bold => "bold " ++ style.color.word
  | .none => style.color.word

/-- The markup of a text in this style. -/
def apply (style : Style) (text : Text) : Text :=
  Markup.bracketed style.name ++ Markup.escape text ++ Markup.bracketed ('/' :: style.name)

/-- The line that a console prints for a text in this style. -/
def line (style : Style) (d : Display) (text : Text) : Except MarkupError Text :=
  (Markup.render d (style.apply text)).map fun r => Text.printed r.text ++ ['\n']

end Style
end Counterpart
