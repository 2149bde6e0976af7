import Counterpart.FileTree.Basic

/-! The real path behind a path: absolute, free of links and of `..`. Names that do not exist are
kept. A link inside its own target stops the resolution there, and what is left over is appended
unresolved. -/

namespace Counterpart

/-- The directory above; above the start of a relative path it takes `..` to go on. -/
def Path.parent (p : Path) : Path :=
  if p.anchor = .relative ∧ p.segments.getLast?.all (· == upward) then
    { p with segments := p.segments ++ [upward] }
  else { p with segments := p.segments.dropLast }

def Path.push (p : Path) (name : Text) : Path := { p with segments := p.segments ++ [name] }

/-- Each `..` takes back the name before it, whatever it names. -/
def collapse (names : List Text) : Place :=
  names.foldl (fun place name => if name = upward then place.dropLast else place ++ [name]) []

namespace FileTree

/-- The place that a path spells out, links not followed. -/
def placeOf (tree : FileTree) (path : Path) : Place := collapse (tree.start path ++ path.segments)

/-- The links met so far, the last one first, with the real paths behind those that are resolved.
A link without one is being resolved. -/
abbrev Met := List (Path × Option Path)

/-- Resolves names from a resolved path on. `follow` resolves the target of a link met for the first
time, or says where it stopped. -/
def resolveWith (tree : FileTree)
    (follow : Met → Path → Path → Text → Except Path (Path × Met)) (met : Met) (here : Path) :
    List Text → Except Path (Path × Met)
  | [] => .ok (here, met)
  | name :: rest =>
    if !isSegment name then resolveWith tree follow met here rest
    else if name = upward then resolveWith tree follow met here.parent rest
    else match tree.entry? (tree.placeOf (here.push name)) with
      | some (.link target) =>
        let link := here.push name
        match met.lookup link with
        | some (some real) => resolveWith tree follow met real rest
        | some none => .error (link / Text.joinWith "/" rest)
        | none =>
          match follow met link here target with
          | .ok (real, met) => resolveWith tree follow ((link, some real) :: met) real rest
          | .error stopped => .error (stopped / Text.joinWith "/" rest)
      | _ => resolveWith tree follow met (here.push name) rest

/-- Links inside links are followed down to a given depth. -/
def resolveFrom (tree : FileTree) : Nat → Met → Path → List Text → Except Path (Path × Met)
  | 0 => fun _ here _ => .error here
  | depth + 1 => resolveWith tree fun met link here target =>
    resolveFrom tree depth ((link, none) :: met)
      (if isAnchored target then ⟨.root, []⟩ else here) (target.splitOn '/')

/-- More than the links that can be open at once: each has a spelling for every number of `..`, and
one from the root. -/
def depthLimit (tree : FileTree) : Nat :=
  (tree.entries.length + 1) * (tree.workingDirectory.length + 2)

/-- The real path. A loop is an error only where a walk along the result still meets it. -/
def resolve (tree : FileTree) (path : Path) : Except Failure Path :=
  let base : Path := ⟨if path.anchor = .relative then .relative else .root, []⟩
  let reached := match resolveFrom tree tree.depthLimit [] base path.segments with
    | .ok (real, _) => real
    | .error stopped => stopped
  let real : Path := ⟨.root, tree.placeOf reached⟩
  match tree.locate real with
  | .error .tooManyLinks => .error (.linkLoop real)
  | _ => .ok real

end FileTree
end Counterpart
