import Counterpart.Text.Basic

/-! Offsets count the characters before a place in a text; positions name the same place by line
and column, both from 1. Every integer offset, line and column stands for a place: one outside the
text stands for the nearest place inside. -/

namespace Counterpart

structure Position where
  line : Nat
  column : Nat
deriving DecidableEq

def clampOffset (text : Text) (offset : Int) : Nat := min offset.toNat text.length

def positionOf (text : Text) (offset : Int) : Position :=
  let before := text.take (clampOffset text offset)
  { line := before.count '\n' + 1
    column := (before.reverse.takeWhile (· != '\n')).length + 1 }

/-- The offset reached by passing `lines` newlines and then `columns` characters of one line;
passing stops at the end of the line, or of the text. -/
def seek : Text → Nat → Nat → Nat
  | [], _, _ => 0
  | _ :: _, 0, 0 => 0
  | c :: rest, 0, columns + 1 => if c = '\n' then 0 else seek rest 0 columns + 1
  | c :: rest, lines + 1, columns =>
    seek rest (if c = '\n' then lines else lines + 1) columns + 1

def offsetOf (text : Text) (line column : Int) : Nat :=
  seek text (line - 1).toNat (column - 1).toNat

theorem clampOffset_le (text : Text) (offset : Int) : clampOffset text offset ≤ text.length :=
  Nat.min_le_right _ _

theorem clampOffset_natCast {text : Text} {offset : Nat} (h : offset ≤ text.length) :
    clampOffset text offset = offset := by
  simp [clampOffset, h]

theorem clampOffset_clampOffset (text : Text) (offset : Int) :
    clampOffset text (clampOffset text offset) = clampOffset text offset :=
  clampOffset_natCast (clampOffset_le text offset)

theorem seek_le (text : Text) (lines columns : Nat) : seek text lines columns ≤ text.length := by
  fun_induction seek text lines columns <;> simp_all

theorem offsetOf_le (text : Text) (line column : Int) : offsetOf text line column ≤ text.length :=
  seek_le _ _ _

end Counterpart
