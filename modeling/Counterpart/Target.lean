import Counterpart.Conventions
import Counterpart.Workspace
import Counterpart.Text.Class

/-! What the path of a document says: whether it is a controller or a view, and which controller
identity and action it belongs to. A newline that ends a path may be left out of account, and no
other newline may lie in the part that is read. -/

namespace Counterpart

inductive FileKind where
  | controller
  | view
  | unsupported
deriving DecidableEq

def FileKind.word : FileKind → Text
  | .controller => "controller"
  | .view => "view"
  | .unsupported => "unsupported"

def isOneLine (s : Text) : Bool := !s.contains '\n'

/-- No choice at all leaves the place empty. -/
def choices (tokens : List Text) : List Text := if tokens = [] then [[]] else tokens

def hasTemplateExtension (conv : Conventions) (path : Text) : Bool :=
  (Text.endings path).any fun s =>
    (choices conv.contentTypes).any fun type =>
      (choices conv.templateEngines).any fun engine => ("." ++ type ++ "." ++ engine).isSuffixOf s

def isBareView (conv : Conventions) (path : Text) : Bool :=
  (Text.endings path).any fun s =>
    (choices conv.contentTypes).any fun type =>
      (("." ++ type : Text).isSuffixOf? s).any fun stem =>
        (Text.after? conv.viewsMarker isOneLine stem).isSome

def classify (conv : Conventions) (path : Text) : FileKind :=
  let path := forwardSlashes path
  if conv.controllerFileSuffix.isSuffixOf path then .controller
  else if hasTemplateExtension conv path || isBareView conv path then .view
  else .unsupported

def isIdentity (s : Text) : Bool := s != [] && isOneLine s

/-- The identity in a workspace-relative controller path: what lies between the first controllers
directory that leaves a proper identity and the file suffix. -/
def identityIn? (conv : Conventions) (path : Text) : Option Text :=
  (Text.endings path).findSome? fun s =>
    (conv.controllerFileSuffix.isSuffixOf? s).bind (Text.after? conv.controllersMarker isIdentity)

def controllerIdentity? (conv : Conventions) (path root : Text) : Option Text :=
  identityIn? conv (workspaceRelative path root)

/-- The part before the last slash, and the part after it. -/
def splitFile (path : Text) : Text × Text :=
  ((path.reverse.dropWhile (· != '/')).tail.reverse, (path.reverse.takeWhile (· != '/')).reverse)

/-- The word at the front of a file name, which a dot must follow. -/
def actionOf? (file : Text) : Option Text :=
  match file.takeWhile isWord, file.dropWhile isWord with
  | c :: name, '.' :: _ => some (c :: name)
  | _, _ => none

/-- The identity and action in a workspace-relative view path. -/
def targetIn? (conv : Conventions) (path : Text) : Option (Text × Text) :=
  let (dir, file) := splitFile path
  match actionOf? file with
  | some action => (Text.after? conv.viewsMarker isIdentity dir).map (·, action)
  | none => none

def viewTarget? (conv : Conventions) (path root : Text) : Option (Text × Text) :=
  targetIn? conv (workspaceRelative path root)

theorem classify_forwardSlashes (conv : Conventions) (path : Text) :
    classify conv (forwardSlashes path) = classify conv path := by
  rw [classify, classify, forwardSlashes_forwardSlashes]

theorem controllerIdentity?_forwardSlashes (conv : Conventions) (path root : Text) :
    controllerIdentity? conv (forwardSlashes path) root = controllerIdentity? conv path root := by
  rw [controllerIdentity?, controllerIdentity?, workspaceRelative_forwardSlashes]

theorem viewTarget?_forwardSlashes (conv : Conventions) (path root : Text) :
    viewTarget? conv (forwardSlashes path) root = viewTarget? conv path root := by
  rw [viewTarget?, viewTarget?, workspaceRelative_forwardSlashes]

end Counterpart
