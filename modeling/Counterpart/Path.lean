import Counterpart.Text.Basic

/-! Paths as an anchor and a list of segments. Reading a path drops empty and `.` segments and
keeps `..`. Joining an anchored path replaces the one it is joined to. Names are Unicode texts, as
all texts are. -/

namespace Counterpart

inductive Anchor where
  | relative
  | root
  /-- Exactly two leading slashes, which are not the same place as one. -/
  | doubled
deriving DecidableEq

structure Path where
  anchor : Anchor
  segments : List Text
deriving DecidableEq

def Anchor.text : Anchor → Text
  | .relative => ""
  | .root => "/"
  | .doubled => "//"

def Anchor.ofSlashes : Nat → Anchor
  | 0 => .relative
  | 2 => .doubled
  | _ => .root

/-- Segments that reading keeps and writing gives back. -/
def isSegment (s : Text) : Bool := s != [] && s != ['.']

/-- The segment that leads to the directory above. -/
def upward : Text := ".."

namespace Path

def segmentsOf (s : Text) : List Text := (s.splitOn '/').filter isSegment

def ofText (s : Text) : Path where
  anchor := .ofSlashes (s.takeWhile (· == '/')).length
  segments := segmentsOf s

def text (p : Path) : Text :=
  match p.anchor, p.segments with
  | .relative, [] => "."
  | anchor, segments => anchor.text ++ Text.joinWith "/" segments

def join (p q : Path) : Path :=
  if q.anchor = .relative then { p with segments := p.segments ++ q.segments } else q

/-- The path without its last segment. -/
def above (p : Path) : Path := { p with segments := p.segments.dropLast }

instance : HDiv Path Text Path where
  hDiv p s := p.join (ofText s)

theorem join_of_relative {p q : Path} (h : q.anchor = .relative) :
    p.join q = { p with segments := p.segments ++ q.segments } := if_pos h

theorem join_of_anchored {p q : Path} (h : q.anchor ≠ .relative) : p.join q = q := if_neg h

theorem hDiv_eq (p : Path) (s : Text) : p / s = p.join (ofText s) := rfl

end Path
end Counterpart
