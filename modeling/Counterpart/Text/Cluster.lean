import Counterpart.Text.Width

/-! Texts cut by cells. No cluster of characters is cut in two. -/

namespace Counterpart.Text

/-- What cannot be parted when a text is cut by cells: a character with those that change it or
take no cells, and the cells of them all. -/
structure Cluster where
  text : Text
  cells : Nat
deriving DecidableEq

/-- Adds a character that takes no cells of its own to the last cluster. -/
def extend (c : Char) (gain : Nat) : List Cluster → List Cluster
  | [] => [⟨[c], 0⟩]
  | last :: before => ⟨last.text ++ [c], last.cells + gain⟩ :: before

/-- The clusters of a text, after those already found, in reverse. -/
def clustersAfter (shown : Option Char) (found : List Cluster) : Text → List Cluster
  | [] => found
  | [c] =>
    if c = joiner then extend c 0 found
    else if c = pictureSelector then extend c (pictureGain shown) found
    else if cellWidth c = 0 then extend c 0 found
    else ⟨[c], cellWidth c⟩ :: found
  | c :: d :: rest =>
    if c = joiner then
      if found = [] then clustersAfter shown [⟨[c], 0⟩] (d :: rest)
      else clustersAfter shown (extend d 0 (extend c 0 found)) rest
    else if c = pictureSelector then
      clustersAfter (if pictureGain shown = 0 then shown else none)
        (extend c (pictureGain shown) found) (d :: rest)
    else if cellWidth c = 0 then clustersAfter shown (extend c 0 found) (d :: rest)
    else clustersAfter (some c) (⟨[c], cellWidth c⟩ :: found) (d :: rest)

def clusters (s : Text) : List Cluster := (clustersAfter none [] s).reverse

/-- Takes as many clusters as fit; a blank stands for the half of one that does not. -/
def takeCells (cells : Nat) : List Cluster → Text
  | [] => []
  | cluster :: rest =>
    if cluster.cells ≤ cells then
      if cells = 0 then [] else cluster.text ++ takeCells (cells - cluster.cells) rest
    else List.replicate cells ' '

/-- Why a text is not cut: its clusters have no cells, or fewer than it should keep. A text that
begins with joiners can be wider than its clusters are together. -/
inductive CutError where
  | noCells
  | tooFewCells
deriving DecidableEq

/-- The cells of clusters together. -/
def totalCells (clusters : List Cluster) : Nat := (clusters.map Cluster.cells).foldl (· + ·) 0

/-- Fills a text up with blanks, or cuts it, to a number of cells. -/
def fit (cells : Nat) (s : Text) : Except CutError Text :=
  if s.width ≤ cells then .ok (s ++ blanks (cells - s.width))
  else if cells ≤ totalCells s.clusters then .ok (takeCells cells s.clusters)
  else .error (if totalCells s.clusters = 0 then .noCells else .tooFewCells)

/-- Cuts a text into pieces that take no more than a number of cells each. -/
def chopAfter (cells : Nat) (piece : Text) (size : Nat) : List Cluster → List Text
  | [] => if size = 0 then [] else [piece]
  | cluster :: rest =>
    if cells < size + cluster.cells then piece :: chopAfter cells cluster.text cluster.cells rest
    else chopAfter cells (piece ++ cluster.text) (size + cluster.cells) rest

def chop (cells : Nat) (s : Text) : List Text := chopAfter cells [] 0 s.clusters

end Counterpart.Text
