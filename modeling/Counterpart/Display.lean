import Counterpart.Text.Case
import Counterpart.Text.Class

/-! How a console shows texts: as wide as its page, and with pictures in the place of codes. A code
is a name between two colons with no blank in it. Which names there are is up to the console. -/

namespace Counterpart

structure Display where
  /-- The cells of a line. -/
  width : Nat := 80
  /-- The picture of a name in small letters. -/
  picture? : Text → Option Text := fun _ => none

namespace Display

/-- The ends of a code that ask for one look of a picture, and the signs for it. -/
def looks : List (Text × Text) := [("-emoji", "\uFE0F"), ("-text", "\uFE0E")]

/-- The picture for what stands between two colons. -/
def pictureFor? (d : Display) (code : Text) : Option Text :=
  match looks.find? fun look => look.1.isSuffixOf code with
  | some (suffix, sign) =>
    (d.picture? (Text.small (code.take (code.length - suffix.length)))).map (· ++ sign)
  | none => d.picture? (Text.small code)

/-- Reads on with pictures in the place of codes, after a colon and the start of a code if there is
one. A code without a picture stays, and its second colon begins no other one. -/
def picturedAfter (d : Display) : Option Text → Text → Text
  | none, [] => []
  | none, c :: rest =>
    if c = ':' then d.picturedAfter (some []) rest else c :: d.picturedAfter none rest
  | some code, [] => ':' :: code
  | some code, c :: rest =>
    if c = ':' then
      (d.pictureFor? code).getD (':' :: code ++ [':']) ++ d.picturedAfter none rest
    else if isBlank c then ':' :: code ++ c :: d.picturedAfter none rest
    else d.picturedAfter (some (code ++ [c])) rest

/-- A text with its codes replaced. -/
def pictured (d : Display) (s : Text) : Text := d.picturedAfter none s

end Display
end Counterpart
