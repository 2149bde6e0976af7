import Counterpart.Encoding
import Counterpart.Path
import Counterpart.Template
import Counterpart.Text.Cluster

/-! What can stop a navigation, each cause with its message. -/

namespace Counterpart

inductive ErrorKind where
  | environment
  | classification
  | pattern
  | heuristicMiss
  | notFound
deriving DecidableEq

def ErrorKind.word : ErrorKind → Text
  | .environment => "environment"
  | .classification => "classification"
  | .pattern => "pattern"
  | .heuristicMiss => "heuristic_miss"
  | .notFound => "not_found"

/-- The conditions that end a navigation as part of its job, and what an editor raises as one. -/
inductive NavigationError where
  | noActiveEditor
  | outsideWorkspace
  | unsupportedFile
  | pathParse (message : Text)
  | cursorNotInAction
  | counterpartNotFound (message identity : Text)
  /-- An error of a class that an editor derives, or of the base class itself, which has no kind. -/
  | other (className : Text) (errorKind : Option ErrorKind) (message : Text)
deriving DecidableEq

namespace NavigationError

def controllerParse (path : Text) : NavigationError :=
  .pathParse ("Could not parse controller path: " ++ path)

def viewParse (path : Text) : NavigationError :=
  .pathParse ("Could not parse view path: " ++ path)

def viewNotFound (identity action : Text) : NavigationError :=
  .counterpartNotFound ("No view found for " ++ identity ++ "#" ++ action) identity

def controllerNotFound (identity : Text) : NavigationError :=
  .counterpartNotFound ("No controller found for " ++ identity) identity

def kind : NavigationError → Option ErrorKind
  | noActiveEditor => some .environment
  | outsideWorkspace => some .environment
  | unsupportedFile => some .classification
  | pathParse _ => some .pattern
  | cursorNotInAction => some .heuristicMiss
  | counterpartNotFound _ _ => some .notFound
  | other _ errorKind _ => errorKind

def message : NavigationError → Text
  | noActiveEditor => "No active editor"
  | outsideWorkspace => "File is not in a workspace"
  | unsupportedFile => "Not in a Rails controller or view file"
  | pathParse message => message
  | cursorNotInAction => "Could not find action method. Place cursor inside an action method."
  | counterpartNotFound message _ => message
  | other _ _ message => message

def className : NavigationError → Text
  | noActiveEditor => "NoActiveEditorError"
  | outsideWorkspace => "OutsideWorkspaceError"
  | unsupportedFile => "UnsupportedFileError"
  | pathParse _ => "PathParseError"
  | cursorNotInAction => "CursorNotInActionError"
  | counterpartNotFound _ _ => "CounterpartNotFoundError"
  | other className _ _ => className

def identity? : NavigationError → Option Text
  | counterpartNotFound _ identity => some identity
  | _ => none

end NavigationError

/-- Why a file that is there cannot be read. -/
inductive ReadFault where
  | denied
  /-- The file gives none of its bytes. -/
  | broken
deriving DecidableEq

/-- Why the file system does not give what a path asks for. -/
inductive FileFault where
  | missing
  | occupied
  | notDirectory
  | isDirectory
  | nameTooLong
  | tooManyLinks
  | unread (fault : ReadFault)
deriving DecidableEq

structure FileError where
  fault : FileFault
  path : Path
  /-- The target of the link that was to be made at the path. -/
  target : Option Text
deriving DecidableEq

def FileError.at (path : Path) (fault : FileFault) : FileError := ⟨fault, path, none⟩

def FileFault.code : FileFault → Nat
  | .missing => 2
  | .occupied => 17
  | .notDirectory => 20
  | .isDirectory => 21
  | .nameTooLong => 36
  | .tooManyLinks => 40
  | .unread .denied => 13
  | .unread .broken => 5

def FileFault.reason : FileFault → Text
  | .missing => "No such file or directory"
  | .occupied => "File exists"
  | .notDirectory => "Not a directory"
  | .isDirectory => "Is a directory"
  | .nameTooLong => "File name too long"
  | .tooManyLinks => "Too many levels of symbolic links"
  | .unread .denied => "Permission denied"
  | .unread .broken => "Input/output error"

/-- Where a file is broken is only found out when it is open, and its path is not named then. -/
def FileError.message (e : FileError) : Text :=
  let reason := "[Errno " ++ Text.ofNat e.fault.code ++ "] " ++ e.fault.reason
  if e.fault = .unread .broken then reason
  else match e.target with
    | none => reason ++ ": " ++ Text.quoted e.path.text
    | some target => reason ++ ": " ++ Text.quoted target ++ " -> " ++ Text.quoted e.path.text

/-- The ordinary errors that a host may raise of its own accord. -/
inductive HostFault where
  | runtime
  | value
  | key
  | system
deriving DecidableEq

inductive MarkupError where
  | unmatchedClose (tag : Text)
  | nothingToClose
  /-- What a handler is called with is no constant. -/
  | badParameters (parameters : Text)
  /-- A colour of which a part is no number. -/
  | badNumber
  /-- What should be cut to fit its place in a table is not. -/
  | uncut (e : Text.CutError)
deriving DecidableEq

def MarkupError.message : MarkupError → Text
  | .unmatchedClose tag => "closing tag '" ++ tag ++ "' doesn't match any open tag"
  | .nothingToClose => "closing tag '[/]' has nothing to close"
  | .badParameters parameters => "error parsing " ++ Text.quoted parameters
  | .badNumber => "invalid literal for int() with base 10: ''"
  | .uncut .noCells => "division by zero"
  | .uncut .tooFewCells => "list index out of range"

inductive Failure where
  | navigation (e : NavigationError)
  | file (e : FileError)
  | encoding (e : DecodeError)
  | linkLoop (path : Path)
  | markup (e : MarkupError)
  | unknownLevel (level : Text)
  | unknownMessageLevel (word : Text)
  | template (e : TemplateError)
  | host (fault : HostFault) (message : Text)
  /-- An error was asked for its kind, and its class has none. -/
  | noKind (className : Text)
  /-- A number has too many digits to be written. -/
  | longNumeral
  /-- The work was called off; nothing may turn this into a result. -/
  | cancelled (message : Text)
deriving DecidableEq

namespace Failure

/-- A missing key is named between quotes. -/
def message : Failure → Text
  | navigation e => e.message
  | file e => e.message
  | encoding e => e.message
  | linkLoop path => "Symlink loop from " ++ Text.quoted path.text
  | markup e => e.message
  | unknownLevel level => "Level " ++ Text.quoted level ++ " does not exist"
  | unknownMessageLevel word => Text.quoted word ++ " is not a valid MessageLevel"
  | template e => e.message
  | host .key message => Text.quoted message
  | host _ message => message
  | noKind className => Text.quoted className ++ " object has no attribute 'kind'"
  | longNumeral => "Exceeds the limit (4300 digits) for integer string conversion; " ++
      "use sys.set_int_max_str_digits() to increase the limit"
  | cancelled message => message

def isCancelled : Failure → Bool
  | cancelled _ => true
  | _ => false

end Failure
end Counterpart
