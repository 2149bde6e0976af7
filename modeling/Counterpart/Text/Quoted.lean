import Counterpart.Text.Basic
import Counterpart.Text.Class

/-! Texts written between quotes, for messages that name a path. Single quotes are used unless the
text holds one and no double quote. Hidden characters are written as escapes of fixed width. -/

namespace Counterpart.Text

def hex (width n : Nat) : Text :=
  let digits := Nat.toDigits 16 n
  List.replicate (width - digits.length) '0' ++ digits

def quoteMark (s : Text) : Char :=
  if '\'' ∈ s ∧ '"' ∉ s then '"' else '\''

def quotedChar (mark c : Char) : Text :=
  if c = mark ∨ c = '\\' then ['\\', c]
  else if c = '\n' then "\\n"
  else if c = '\r' then "\\r"
  else if c = '\t' then "\\t"
  else if isHidden c then
    if c.toNat < 0x100 then "\\x" ++ hex 2 c.toNat
    else if c.toNat < 0x10000 then "\\u" ++ hex 4 c.toNat
    else "\\U" ++ hex 8 c.toNat
  else [c]

def quoted (s : Text) : Text :=
  [quoteMark s] ++ s.flatMap (quotedChar (quoteMark s)) ++ [quoteMark s]

def quotedList (items : List Text) : Text :=
  "[" ++ joinWith ", " (items.map quoted) ++ "]"

end Counterpart.Text
