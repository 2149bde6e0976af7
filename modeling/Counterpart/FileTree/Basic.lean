import Counterpart.Failure

/-! A tree of files, directories and symbolic links, each entry kept under the names that lead to
it from the root. A path is walked name by name; a link met on the way is replaced by its target.

Names and targets are Unicode texts; trees with other names are outside the model. A file that is
there and cannot be read is an entry of its own, with the fault that reading it meets. Directories
can always be walked and searched. -/

namespace Counterpart

inductive Entry where
  | file (content : List UInt8)
  | directory
  | link (target : Text)
  /-- A file that is there and cannot be read. -/
  | sealed (fault : ReadFault)
deriving DecidableEq

/-- The names on the way from the root of the tree. -/
abbrev Place := List Text

structure FileTree where
  entries : List (Place × Entry)
  workingDirectory : Place

/-- The longest name an entry can have, in bytes. -/
def nameLimit : Nat := 255

/-- Paths of this many bytes or more are refused. -/
def pathLimit : Nat := 4096

/-- The number of links that one walk may follow. -/
def linkLimit : Nat := 40

def isAnchored (s : Text) : Bool := s.head? == some '/'

namespace FileTree

/-- The root is always there. -/
def entry? (tree : FileTree) (place : Place) : Option Entry :=
  if place = [] then some .directory else tree.entries.lookup place

/-- Where the walk along a path starts. -/
def start (tree : FileTree) (path : Path) : Place :=
  if path.anchor = .relative then tree.workingDirectory else []

/-- What a walk looks for: an entry that is there, or the place of a file, which may be new. -/
inductive Goal where
  | entry
  | file
deriving DecidableEq

/-- Walks on from a place; `follow` takes over at the first link. Every name, an empty one too, can
only be looked for in a directory. Nothing but the last name may be new, and no file is made under
a name with a slash after it. -/
def walkWith (tree : FileTree) (goal : Goal)
    (follow : Place → List Text → Except FileFault Place) (here : Place) :
    List Text → Except FileFault Place
  | [] => .ok here
  | name :: rest =>
    match tree.entry? here with
    | none => .error .missing
    | some (.file _) | some (.link _) | some (.sealed _) => .error .notDirectory
    | some .directory =>
      if !isSegment name then walkWith tree goal follow here rest
      else if name = upward then walkWith tree goal follow here.dropLast rest
      else if goal = .file ∧ rest ≠ [] ∧ rest.all (· == []) then .error .isDirectory
      else if nameLimit < encodedLength name then .error .nameTooLong
      else match tree.entry? (here ++ [name]) with
        | none => if goal = .file ∧ rest = [] then .ok (here ++ [name]) else .error .missing
        | some (.link target) =>
          follow (if isAnchored target then [] else here) (target.splitOn '/' ++ rest)
        | some _ => walkWith tree goal follow (here ++ [name]) rest

/-- A walk that may follow a limited number of links. -/
def walk (tree : FileTree) (goal : Goal) : Nat → Place → List Text → Except FileFault Place
  | 0 => walkWith tree goal fun _ _ => .error .tooManyLinks
  | links + 1 => walkWith tree goal (walk tree goal links)

/-- The place that a path leads to, through all links. -/
def locate (tree : FileTree) (path : Path) (goal : Goal := .entry) : Except FileFault Place :=
  if pathLimit ≤ encodedLength path.text then .error .nameTooLong
  else walk tree goal linkLimit (tree.start path) path.segments

/-- The file or directory that a path leads to. -/
def find (tree : FileTree) (path : Path) : Except FileError Entry :=
  match tree.locate path with
  | .error fault => .error (.at path fault)
  | .ok place =>
    match tree.entry? place with
    | some entry => .ok entry
    | none => .error (.at path .missing)

def read (tree : FileTree) (path : Path) : Except FileError (List UInt8) :=
  match tree.find path with
  | .error e => .error e
  | .ok (.file content) => .ok content
  | .ok (.sealed fault) => .error (.at path (.unread fault))
  | .ok _ => .error (.at path .isDirectory)

/-- The text of a file, its line endings unified. -/
def readText (tree : FileTree) (path : Path) : Except Failure Text :=
  match tree.read path with
  | .error e => .error (.file e)
  | .ok content =>
    match decode content with
    | .error e => .error (.encoding e)
    | .ok text => .ok (Text.unifyNewlines text)

end FileTree
end Counterpart
