import Counterpart.FileTree.Resolve

/-! Changes to a tree. Writing goes through links; making a directory or a link, and removing, mean
the name itself. What was done before a failure stays. -/

namespace Counterpart

abbrev Change (α : Type) := ExceptT FileError (StateM FileTree) α

namespace FileTree

/-- Puts an entry at a place, replacing what is there. -/
def put (tree : FileTree) (place : Place) (entry : Entry) : FileTree :=
  { tree with entries := tree.entries.filter (·.1 != place) ++ [(place, entry)] }

/-- Removes the entries at and below a place. -/
def prune (tree : FileTree) (place : Place) : FileTree :=
  { tree with entries := tree.entries.filter fun e => !place.isPrefixOf e.1 }

/-- The place for a new entry, in a directory that exists and where nothing of the name is. -/
def vacancy (tree : FileTree) (path : Path) : Except FileFault Place :=
  if pathLimit ≤ encodedLength path.text then .error .nameTooLong
  else match path.segments.getLast?, tree.locate path.above with
    | _, .error fault => .error fault
    | none, _ => .error .occupied
    | some name, .ok place =>
      match tree.entry? place, tree.entry? (place ++ [name]) with
      | some .directory, none =>
        if name = upward then .error .occupied
        else if nameLimit < encodedLength name then .error .nameTooLong
        else .ok (place ++ [name])
      | some .directory, some _ => .error .occupied
      | _, _ => .error .notDirectory

end FileTree

namespace Change

/-- A single step that changes nothing when it fails. -/
def ofStep (step : FileTree → Except FileError FileTree) : Change Unit := do
  match step (← get) with
  | .ok tree => set tree
  | .error e => throw e

/-- Makes an entry where nothing is. -/
def add (path : Path) (entry : Entry) : Change Unit := ofStep fun tree =>
  match tree.vacancy path with
  | .ok place => .ok (tree.put place entry)
  | .error fault => .error (.at path fault)

/-- Makes a link. Its target need not exist, but must be a path. -/
def makeLink (path : Path) (target : Text) : Change Unit := ofStep fun tree =>
  let place := if target = [] then .error .missing
    else if pathLimit ≤ encodedLength target then .error .nameTooLong
    else tree.vacancy path
  match place with
  | .ok place => .ok (tree.put place (.link target))
  | .error fault => .error { FileError.at path fault with target := some target }

/-- A directory that is there already is as good as a new one. -/
def makeDirectory (path : Path) : Change Unit :=
  tryCatch (add path .directory) fun e => do
    match (← get).find path with
    | .ok .directory => return
    | _ => throw e

/-- Makes a directory after those above it, as far as they are missing. Something else in the place
of one above is only found out below it. The names are given in reverse. -/
def makeAlong (anchor : Anchor) : List Text → Change Unit
  | [] => return
  | name :: above => do
    match (← get).find ⟨anchor, above.reverse⟩ with
    | .ok _ => pure ()
    | .error _ => tryCatch (makeAlong anchor above) fun e =>
      if e.fault = .occupied then pure () else throw e
    makeDirectory ⟨anchor, (name :: above).reverse⟩

def makeDirectories (path : Path) : Change Unit := makeAlong path.anchor path.segments.reverse

/-- Writes a file in a directory that exists, `update` making its content from the old one. -/
def modifyFile (path : Path) (update : List UInt8 → List UInt8) : Change Unit :=
  ofStep fun tree =>
    match tree.locate path .file with
    | .error fault => .error (.at path fault)
    | .ok place =>
      match tree.entry? place with
      | some (.file old) => .ok (tree.put place (.file (update old)))
      | none => .ok (tree.put place (.file (update [])))
      | some (.sealed fault) => .error (.at path (.unread fault))
      | some _ => .error (.at path .isDirectory)

def write (path : Path) (content : List UInt8) : Change Unit := modifyFile path fun _ => content

/-- Adds to the end of a file, which is made when it is missing. -/
def append (path : Path) (content : List UInt8) : Change Unit := modifyFile path (· ++ content)

/-- Makes an entry, and the directories above it as far as they are missing. -/
def place (path : Path) (entry : Entry) : Change Unit :=
  match entry with
  | .directory => makeDirectories path
  | .file content => do
    makeDirectories path.above
    write path content
  | .link target => do
    makeDirectories path.above
    makeLink path target
  | .sealed fault => do
    makeDirectories path.above
    add path (.sealed fault)

def remove (path : Path) : Change Unit := ofStep fun tree =>
  match path.segments.getLast?, tree.locate path.above with
  | none, _ => .error (.at path .isDirectory)
  | _, .error fault => .error (.at path fault)
  | some name, .ok place =>
    match tree.entry? place, tree.entry? (place ++ [name]) with
    | some .directory, some _ => .ok (tree.prune (place ++ [name]))
    | some .directory, none =>
      .error (.at path (if nameLimit < encodedLength name then .nameTooLong else .missing))
    | _, _ => .error (.at path .notDirectory)

/-- Goes to a directory, to which relative paths refer from then on. -/
def enter (path : Path) : Change Unit := ofStep fun tree =>
  match tree.locate path with
  | .error fault => .error (.at path fault)
  | .ok place =>
    match tree.entry? place with
    | some .directory => .ok { tree with workingDirectory := place }
    | _ => .error (.at path .notDirectory)

end Change
end Counterpart
