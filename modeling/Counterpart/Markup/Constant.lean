import Counterpart.Markup.Token

/-! The constants that may be given to the handler of a tag: numbers, quoted texts, truth values,
and tuples, sets and tables of constants. Only whether a text is such a constant matters, and of
its parts whether they can be kept in a set. -/

namespace Counterpart.Markup

/-- What a constant is good for. -/
inductive ConstantKind where
  /-- A number without a sign, which may be given one. -/
  | real
  /-- A number that may begin a sum with an imaginary one. -/
  | signedReal
  | imaginary
  | other
  /-- It cannot be in a set. -/
  | mutable
  /-- The name of sets. It is a constant only when it is called. -/
  | setName
deriving DecidableEq

/-- What constants stand in. -/
inductive Enclosure where
  | none
  | parentheses
  | braces
deriving DecidableEq

namespace Enclosure

/-- How deep the constant of an index is read in an enclosure that itself is read at a depth. Every
rule of the grammar that is tried on the way down adds one. -/
def depth (outer index : Nat) : Enclosure → Nat
  | none => if index = 0 then 3 else 5
  | parentheses => outer + (if index = 0 then 28 else if index = 1 then 30 else 31)
  | braces => outer + (if index = 0 then 29 else 30)

/-- Whether no more constants follow. -/
def isClosed (tokens : List Token) : Enclosure → Bool
  | none => tokens = []
  | parentheses => tokens.head? = some (.mark ')')
  | braces => tokens.head? = some (.mark '\x7d')

end Enclosure

namespace ConstantKind

/-- No rule is tried deeper than this. -/
def depthLimit : Nat := 6000

/-- The rules from a constant down to a number or a name, and to what is none. -/
def toToken : Nat := 22

def toQuoted : Nat := 24

/-- The rules from a constant down to the parameters of a call. -/
def toCall : Nat := 46

def within (depth : Nat) : Option Unit := if depth ≤ depthLimit then some () else none

def ofTuple? (kinds : List ConstantKind) : Option ConstantKind :=
  if .setName ∈ kinds then none else if .mutable ∈ kinds then some .mutable else some .other

/-- Whether constants can be the elements of a set or the keys of a table. -/
def keys (kinds : List ConstantKind) : Bool := kinds.all fun k => k != .mutable && k != .setName

/-- A text beside a text of the other sort is none. -/
def readQuoted (own other : Token) (rest : List Token) : Option (ConstantKind × List Token) :=
  let rest := rest.dropWhile (· = own)
  if rest.head? = some other then none else some (.other, rest)

/-- Calls the name of sets, if brackets follow it. -/
def readCall (depth : Nat) : ConstantKind × List Token → Option (ConstantKind × List Token)
  | (.setName, .mark '(' :: .mark ')' :: rest) => do
    within (depth + toCall)
    return (.mutable, rest)
  | read => some read

mutual

/-- Reads a constant, or the sum of a real and an imaginary number. -/
def read (depth : Nat) : Nat → List Token → Option (ConstantKind × List Token)
  | 0, _ => none
  | steps + 1, tokens => do
    let (left, rest) ← readSigned depth steps tokens
    match rest with
    | .mark sign :: more =>
      if sign = '+' ∨ sign = '-' then
        let (right, rest) ← readSigned depth steps more
        if (left = .real ∨ left = .signedReal) ∧ right = .imaginary then some (.other, rest)
        else none
      else some (left, rest)
    | rest => some (left, rest)
termination_by structural steps => steps

def readSigned (depth : Nat) : Nat → List Token → Option (ConstantKind × List Token)
  | 0, _ => none
  | steps + 1, .mark sign :: rest =>
    if sign = '+' ∨ sign = '-' then do
      match ← readAtom (depth + 1) steps rest with
      | (.real, rest) => some (.signedReal, rest)
      | (.imaginary, rest) => some (.other, rest)
      | _ => none
    else do readCall depth (← readAtom depth steps (.mark sign :: rest))
  | steps + 1, tokens => do readCall depth (← readAtom depth steps tokens)
termination_by structural steps => steps

def readAtom (depth : Nat) : Nat → List Token → Option (ConstantKind × List Token)
  | 0, _ => none
  | _, [] => none
  | steps + 1, token :: rest => do
    within (depth + toToken)
    match token with
    | .real => some (.real, rest)
    | .imaginary => some (.imaginary, rest)
    | .chars => do
      within (depth + toQuoted)
      readQuoted .chars .bytes rest
    | .bytes => do
      within (depth + toQuoted)
      readQuoted .bytes .chars rest
    | .name name =>
      if name ∈ (["True", "False", "None"] : List Text) then some (.other, rest)
      else if name.map Token.plainLetter = ("set" : Text) then some (.setName, rest)
      else none
    | .mark '(' =>
      match ← readList .parentheses depth 0 steps rest with
      | ([kind], false, .mark ')' :: rest) => some (kind, rest)
      | (kinds, _, .mark ')' :: rest) => (ofTuple? kinds).map (·, rest)
      | _ => none
    | .mark '\x7b' =>
      match ← readList .braces depth 0 steps rest with
      | (elements, _, .mark '\x7d' :: rest) => if keys elements then some (.mutable, rest) else none
      | ([key], false, .mark ':' :: rest) =>
        if keys [key] then readEntries depth 0 steps rest else none
      | _ => none
    | .mark _ => none
termination_by structural steps => steps

/-- Reads constants with commas between them, from the one of an index on, and says whether there
was any comma. -/
def readList (around : Enclosure) (outer index : Nat) :
    Nat → List Token → Option (List ConstantKind × Bool × List Token)
  | 0, _ => none
  | steps + 1, tokens =>
    let depth := around.depth outer index
    if around.isClosed tokens then do
      within (depth + toToken)
      return ([], false, tokens)
    else do
      let (kind, rest) ← read depth steps tokens
      match rest with
      | .mark ',' :: rest => do
        let (kinds, _, rest) ← readList around outer (index + 1) steps rest
        return (kind :: kinds, true, rest)
      | rest => return ([kind], false, rest)
termination_by structural steps => steps

/-- Reads a table on from the value of the entry of an index. -/
def readEntries (outer index : Nat) : Nat → List Token → Option (ConstantKind × List Token)
  | 0, _ => none
  | steps + 1, tokens => do
    let (value, rest) ← read (Enclosure.braces.depth outer index) steps tokens
    if value = .setName then none
    else match rest with
    | .mark '\x7d' :: rest => some (.mutable, rest)
    | .mark ',' :: rest =>
      let depth := Enclosure.braces.depth outer (index + 1)
      match rest with
      | .mark '\x7d' :: rest => do
        within (depth + toToken)
        return (.mutable, rest)
      | rest => do
        let (key, rest) ← read depth steps rest
        match rest with
        | .mark ':' :: rest =>
          if keys [key] then readEntries outer (index + 1) steps rest else none
        | _ => none
    | _ => none
termination_by structural steps => steps
end

end ConstantKind

/-- Whether a text is a constant, or several of them with commas between, but for empty lines. -/
def isConstant (s : Text) : Bool :=
  match Token.ofText? s with
  | none => false
  | some tokens =>
    let isBreak (token : Token) : Bool := token = .mark '\n'
    let line := ((tokens.dropWhile isBreak).reverse.dropWhile isBreak).reverse
    match ConstantKind.readList .none 0 0 (6 * line.length + 6) line with
    | some (kinds, _, []) => kinds ≠ [] && (ConstantKind.ofTuple? kinds).isSome
    | _ => false

/-- The parameters that a handler is called with: what follows its name between brackets, nothing
if there is no more than a name, and all of it if it does not have that form. -/
def handlerParameters (s : Text) : Text :=
  let call := Text.trim isBlank s
  let arguments := call.dropWhile fun c => isWord c || c == '.'
  if arguments = [] then "()"
  else if arguments.head? = some '(' ∧ arguments.getLast? = some ')' ∧ '\n' ∉ arguments then
    arguments
  else call

/-- Whether a handler can be called as a tag says. -/
def handlerHolds (s : Text) : Bool := s = [] || isConstant (handlerParameters s)

end Counterpart.Markup
