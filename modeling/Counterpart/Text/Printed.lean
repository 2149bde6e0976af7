import Counterpart.Text.Width

/-! What a console makes of a text: five control characters are dropped, and a tab is a blank that
goes on to the next multiple of eight cells. -/

namespace Counterpart.Text

/-- Bell, backspace, vertical tab, form feed and carriage return. -/
def isDropped (c : Char) : Bool := [7, 8, 11, 12, 13].contains c.toNat

def tabWidth : Nat := 8

/-- The blanks that lead from a cell to the next tab stop. -/
def tabFill (cell : Nat) : Nat := (tabWidth - cell % tabWidth) % tabWidth

/-- Joins what stands between the tabs of a line that begins at a cell. -/
def joinAtStops (cell : Nat) : List Text → Text
  | [] => []
  | [part] => part
  | part :: rest =>
    let stop := cell + width (part ++ [' '])
    part ++ [' '] ++ blanks (tabFill stop) ++ joinAtStops (stop + tabFill stop) rest

/-- Fills the tabs of a line with blanks. -/
def expandTabs (line : Text) : Text := joinAtStops 0 (line.splitOn '\t')

def printed (s : Text) : Text :=
  joinWith "\n" (((s.filter (!isDropped ·)).splitOn '\n').map expandTabs)

end Counterpart.Text
