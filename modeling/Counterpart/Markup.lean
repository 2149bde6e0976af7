import Counterpart.Display
import Counterpart.Failure
import Counterpart.Markup.Constant
import Counterpart.Markup.Rendered

/-! Console markup. A bracket that begins with a small letter or one of `#/@` is a tag, unless an
odd number of backslashes stands before it. Tags print nothing; a closing tag must find the tag it
closes. Codes are replaced by pictures, but for those that reach into or out of a bracket. A text is
escaped by making each of its brackets literal. -/

namespace Counterpart.Markup

/-- The characters that make a bracket a tag. -/
def opensTag (c : Char) : Bool := c.isLower || c == '#' || c == '/' || c == '@'

/-- What stands before the first `]`, unless a `[` comes first. -/
def closing? : Text → Option (Text × Text)
  | [] => none
  | c :: rest =>
    if c = ']' then some ([], rest)
    else if c = '[' then none
    else (closing? rest).map fun (inner, after) => (c :: inner, after)

/-- The inside of a tag, and what follows it; the text starts after the `[`. -/
def tag? : Text → Option (Text × Text)
  | [] => none
  | c :: rest =>
    if opensTag c then (closing? rest).map fun (inner, after) => (c :: inner, after) else none

theorem closing?_length {s inner after : Text} (h : closing? s = some (inner, after)) :
    after.length < s.length := by
  induction s generalizing inner with
  | nil => simp [closing?] at h
  | cons c rest ih =>
    simp only [closing?] at h
    split at h
    · simp_all
    split at h
    · simp at h
    · obtain ⟨⟨inner', after'⟩, h', he⟩ := Option.map_eq_some_iff.1 h
      obtain ⟨-, rfl⟩ := Prod.mk.inj he
      exact Nat.lt_succ_of_lt (ih h')

theorem tag?_length {s inner after : Text} (h : tag? s = some (inner, after)) :
    after.length < s.length := by
  cases s with
  | nil => simp [tag?] at h
  | cons c rest =>
    simp only [tag?] at h
    split at h
    · obtain ⟨⟨inner', after'⟩, h', he⟩ := Option.map_eq_some_iff.1 h
      obtain ⟨-, rfl⟩ := Prod.mk.inj he
      exact Nat.lt_succ_of_lt (closing?_length h')
    · simp at h

/-- A character on its own, or a bracket with the backslashes right before it. -/
inductive Piece where
  | plain (c : Char)
  | bracket (slashes : Nat) (inner : Text)
deriving DecidableEq

/-- The pieces of a text before which a number of backslashes were read. -/
def piecesFrom (slashes : Nat) (s : Text) : List Piece :=
  match s with
  | [] => List.replicate slashes (.plain '\\')
  | '\\' :: rest => piecesFrom (slashes + 1) rest
  | '[' :: rest =>
    match h : tag? rest with
    | some (inner, after) =>
      have := tag?_length h
      .bracket slashes inner :: piecesFrom 0 after
    | none => List.replicate slashes (.plain '\\') ++ .plain '[' :: piecesFrom 0 rest
  | c :: rest => List.replicate slashes (.plain '\\') ++ .plain c :: piecesFrom 0 rest
termination_by s.length

def pieces (s : Text) : List Piece := piecesFrom 0 s

def bracketed (inner : Text) : Text := '[' :: inner ++ [']']

def Piece.text : Piece → Text
  | .plain c => [c]
  | .bracket slashes inner => List.replicate slashes '\\' ++ bracketed inner

/-- A bracket gets one backslash, and the backslashes before it are doubled. -/
def Piece.escaped : Piece → Text
  | .plain c => [c]
  | .bracket slashes inner => List.replicate (2 * slashes + 1) '\\' ++ bracketed inner

/-- Ends in a backslash that would fall together with the next bracket. -/
def endsInOneSlash (s : Text) : Bool :=
  s.getLast? == some '\\' && s.dropLast.getLast? != some '\\'

/-- The markup that prints a text. -/
def escape (s : Text) : Text :=
  let escaped := (pieces s).flatMap Piece.escaped
  if endsInOneSlash escaped then escaped ++ ['\\'] else escaped

/-- A tag that is open: its name, what stands after `=` in it, and how much was printed before
it. -/
structure OpenTag where
  name : Text
  parameters : Option Text
  start : Nat
deriving DecidableEq

/-- Open tags, the last opened one first. -/
abbrev OpenTags := List OpenTag

/-- A tag that calls a handler. -/
def OpenTag.isHandler (tag : OpenTag) : Bool := tag.name.head? == some '@'

/-- The whole of a tag, as far as it describes a style. -/
def OpenTag.style (tag : OpenTag) : Text :=
  match tag.parameters with
  | none => tag.name
  | some parameters => tag.name ++ [' '] ++ parameters

/-- The stretch of a tag that reaches up to `printed`. -/
def OpenTag.span (tag : OpenTag) (printed : Nat) : Span := ⟨tag.start, printed, tag.style⟩

/-- The stretches of a tag that is closed when so much is printed. -/
def OpenTag.close (tag : OpenTag) (printed : Nat) : Except MarkupError (List Span) :=
  if tag.isHandler then
    if handlerHolds (tag.parameters.getD []) then .ok []
    else .error (.badParameters (tag.parameters.getD []))
  else .ok [tag.span printed]

/-- The name for matching, or what is wrong with it. -/
def matchName (s : Text) : Except MarkupError Text :=
  match tagName s with
  | .ok name => .ok name
  | .error _ => .error .badNumber

/-- The last opened tag of a name, and the other ones. -/
def takeTag? (name : Text) : OpenTags → Option (OpenTag × OpenTags)
  | [] => none
  | tag :: others =>
    if tag.name = name then some (tag, others)
    else (takeTag? name others).map fun (found, rest) => (found, tag :: rest)

/-- The tag that a closing tag with this inside closes, and the other ones. -/
def closed (opened : OpenTags) (inner name : Text) : Except MarkupError (OpenTag × OpenTags) :=
  if Text.trim isBlank name = [] then
    match opened with
    | [] => .error .nothingToClose
    | tag :: others => .ok (tag, others)
  else
    match matchName (Text.trim isBlank name) with
    | .error e => .error e
    | .ok name =>
      match takeTag? name opened with
      | some found => .ok found
      | none => .error (.unmatchedClose inner)

/-- Opens or closes a tag when so much is printed. -/
def enter (opened : OpenTags) (printed : Nat) (inner : Text) :
    Except MarkupError (OpenTags × List Span) :=
  let stem := inner.takeWhile (· != '=')
  match stem with
  | '/' :: name => do
    let (tag, others) ← closed opened inner name
    return (others, ← tag.close printed)
  | _ => do
    let parameters := if stem = inner then none else some (inner.drop (stem.length + 1))
    return (⟨← matchName stem, parameters, printed⟩ :: opened, [])

/-- In plain text a backslash before a `[` is dropped. -/
def unslashed : List Piece → List Piece
  | .plain '\\' :: .plain '[' :: rest => .plain '[' :: unslashed rest
  | piece :: rest => piece :: unslashed rest
  | [] => []

/-- What a console goes through: characters to print, and tags. -/
inductive Mark where
  | char (c : Char)
  | tag (inner : Text)
deriving DecidableEq

/-- The marks of pieces after plain text. Plain text and each literal bracket are looked through for
codes on their own. -/
def marksAfter (d : Display) (before : Text) : List Piece → List Mark
  | [] => (d.pictured before).map .char
  | .plain c :: rest => marksAfter d (before ++ [c]) rest
  | .bracket slashes inner :: rest =>
    let kept := List.replicate (slashes / 2) '\\'
    let read := if slashes % 2 = 1 then (d.pictured (bracketed inner)).map .char else [.tag inner]
    (d.pictured before ++ kept).map .char ++ read ++ marksAfter d [] rest

def marks (d : Display) (markup : Text) : List Mark := marksAfter d [] (unslashed (pieces markup))

/-- What marks print when so much is printed before them. A tag that is never closed reaches to the
end. -/
def renderMarks (opened : OpenTags) (printed : Nat) : List Mark → Except MarkupError Rendered
  | [] => .ok ⟨[], opened.map (·.span printed)⟩
  | .char c :: rest => (renderMarks opened (printed + 1) rest).map (.after [c])
  | .tag inner :: rest =>
    match enter opened printed inner with
    | .error e => .error e
    | .ok (opened, spans) =>
      (renderMarks opened printed rest).map fun r => { r with spans := spans ++ r.spans }

/-- What a console prints for a markup. -/
def render (d : Display) (markup : Text) : Except MarkupError Rendered :=
  renderMarks [] 0 (marks d markup)

end Counterpart.Markup
