import Counterpart.Text.Basic

/-! Arguments of a command as options and positionals. An option is a long name after two dashes or
a letter after one; letters may share a dash. A value is the rest of the argument or the next
argument, whatever that looks like. After `--` all arguments are positional. -/

namespace Counterpart

/-- How an option is spelled, and whether it takes a value. -/
structure OptionForm (α : Type) where
  option : α
  long : Text
  short : Option Char := none
  takesValue : Bool := false

inductive UsageError where
  | unknownOption (spelling : Text)
  | missingValue
  | unexpectedValue (spelling : Text)
  | missingCommand
  | unknownCommand (name : Text)
  | missingFile
  | extraArgument
  | badInteger (s : Text)
  | outOfRange (n : Int)
deriving DecidableEq

structure Arguments (α : Type) where
  /-- The options in the order given; a flag has an empty value. -/
  options : List (α × Text)
  positionals : List Text

/-- What one argument gives: options with their values, and an option that waits for the next
argument. -/
structure Reading (α : Type) where
  options : List (α × Text)
  waiting : Option α

namespace Arguments

variable {α : Type}

def readLetters (forms : List (OptionForm α)) : Text → Except UsageError (Reading α)
  | [] => .ok ⟨[], none⟩
  | letter :: rest =>
    match forms.find? (·.short == some letter) with
    | none => .error (.unknownOption ['-', letter])
    | some form =>
      if form.takesValue then
        .ok (if rest = [] then ⟨[], some form.option⟩ else ⟨[(form.option, rest)], none⟩)
      else (readLetters forms rest).map fun r =>
        { r with options := (form.option, []) :: r.options }

/-- Reads an argument that begins with a dash. -/
def readOption (forms : List (OptionForm α)) (arg : Text) : Except UsageError (Reading α) :=
  let name := arg.takeWhile (· != '=')
  match forms.find? (·.long == name) with
  | some form =>
    match form.takesValue, arg.drop name.length with
    | true, [] => .ok ⟨[], some form.option⟩
    | true, _ :: value => .ok ⟨[(form.option, value)], none⟩
    | false, [] => .ok ⟨[(form.option, [])], none⟩
    | false, _ => .error (.unexpectedValue name)
  | none =>
    match arg with
    | '-' :: '-' :: _ => .error (.unknownOption name)
    | _ => readLetters forms arg.tail

/-- A dash alone is positional. -/
def isOption (arg : Text) : Bool := arg.head? == some '-' && arg.tail != []

/-- With `mixed`, options and positionals may come in any order; otherwise the first positional
ends the options. -/
def read (forms : List (OptionForm α)) (mixed : Bool) :
    List Text → Except UsageError (Arguments α)
  | [] => .ok ⟨[], []⟩
  | arg :: rest =>
    if arg = ['-', '-'] then .ok ⟨[], rest⟩
    else if isOption arg then
      match readOption forms arg with
      | .error e => .error e
      | .ok ⟨options, none⟩ =>
        (read forms mixed rest).map fun a => { a with options := options ++ a.options }
      | .ok ⟨options, some waiting⟩ =>
        match rest with
        | [] => .error .missingValue
        | value :: rest =>
          (read forms mixed rest).map fun a =>
            { a with options := options ++ (waiting, value) :: a.options }
    else if mixed then
      (read forms mixed rest).map fun a => { a with positionals := arg :: a.positionals }
    else .ok ⟨[], arg :: rest⟩

variable [DecidableEq α]

/-- The values of an option in the order given. -/
def values (a : Arguments α) (option : α) : List Text :=
  a.options.filterMap fun (o, value) => if o = option then some value else none

def has (a : Arguments α) (option : α) : Bool := a.options.any (·.1 = option)

end Arguments
end Counterpart
