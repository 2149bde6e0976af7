import Counterpart.Text.Basic
import Counterpart.Text.Ranges
import Counterpart.Text.WidthRanges

/-! Terminal cells taken by a text. A joiner draws the character after it into the one before it,
and a picture selector widens some narrow characters. -/

namespace Counterpart

def cellWidth (c : Char) : Nat :=
  if c.toNat < 32 then 0
  else if c.toNat < 127 then 1
  else if c.toNat < 160 || inRanges c.toNat zeroWidthRanges then 0
  else if inRanges c.toNat wideRanges then 2
  else 1

def joiner : Char := '\u200d'

def pictureSelector : Char := '\ufe0f'

/-- Cells that a picture selector adds to the last character that took any. -/
def pictureGain : Option Char → Nat
  | some c => if inRanges c.toNat pictureRanges then 1 else 0
  | none => 0

namespace Text

/-- The cells of a text that follows `shown`, the last character with cells of its own. -/
def widthAfter (shown : Option Char) : Text → Nat
  | [] => 0
  | [c] =>
    if c = joiner then 0
    else if c = pictureSelector then pictureGain shown
    else cellWidth c
  | c :: d :: rest =>
    if c = joiner then widthAfter shown rest
    else if c = pictureSelector then pictureGain shown + widthAfter none (d :: rest)
    else if cellWidth c = 0 then widthAfter shown (d :: rest)
    else cellWidth c + widthAfter (some c) (d :: rest)

def width (s : Text) : Nat := widthAfter none s

def blanks (n : Nat) : Text := List.replicate n ' '

end Text
end Counterpart
