import Counterpart.Markup.Palette
import Counterpart.Text.Case
import Counterpart.Text.Class
import Counterpart.Text.Number

/-! What a tag says about the looks of a text: attributes that are on or off, colours, and a link.
Tags that say the same are the same tag; a text that says nothing of the kind stands for itself. -/

namespace Counterpart.Markup

inductive Attribute where
  | bold
  | dim
  | italic
  | underline
  | blink
  | blink2
  | reverse
  | conceal
  | strike
  | underline2
  | frame
  | encircle
  | overline
deriving DecidableEq

/-- All attributes, in the order in which they are written. -/
def Attribute.all : List Attribute := [
  .bold, .dim, .italic, .underline, .blink, .blink2, .reverse, .conceal, .strike, .underline2,
  .frame, .encircle, .overline]

def Attribute.word : Attribute → Text
  | bold => "bold"
  | dim => "dim"
  | italic => "italic"
  | underline => "underline"
  | blink => "blink"
  | blink2 => "blink2"
  | reverse => "reverse"
  | conceal => "conceal"
  | strike => "strike"
  | underline2 => "underline2"
  | frame => "frame"
  | encircle => "encircle"
  | overline => "overline"

/-- Some attributes have a short name too. -/
def Attribute.short? : Attribute → Option Text
  | bold => some "b"
  | dim => some "d"
  | italic => some "i"
  | underline => some "u"
  | reverse => some "r"
  | conceal => some "c"
  | strike => some "s"
  | underline2 => some "uu"
  | overline => some "o"
  | _ => none

def Attribute.ofWord? (s : Text) : Option Attribute :=
  all.find? fun a => a.word == s || a.short? == some s

inductive StyleFault where
  /-- The text is no description of a style. -/
  | noStyle
  /-- A colour of which a part is no number. -/
  | badNumber
deriving DecidableEq

/-- The number of a colour part, if it is one. -/
def colorPart (s : Text) : Except StyleFault Nat :=
  if s = [] then .error .badNumber else .ok (Text.ofDigits s)

/-- Checks a colour given by three numbers between brackets. -/
def checkMixture (inner : Text) : Except StyleFault Unit :=
  if inner = [] ∨ !inner.all fun c => c = ',' || (Text.digit? c).isSome then .error .noStyle
  else if (inner.splitOn ',').length ≠ 3 then .error .noStyle
  else do
    let parts ← (inner.splitOn ',').mapM colorPart
    if parts.all (· ≤ 255) then .ok () else .error .noStyle

/-- What stands between an opening text and a closing bracket that ends the whole. -/
def between? (opening s : Text) : Option Text :=
  match opening.isPrefixOf? s with
  | some rest => if rest.getLast? = some ')' then some rest.dropLast else none
  | none => none

/-- The name of a colour: one of the known names, six digits after `#`, the number of a colour, or
a mixture. -/
def colorName (word : Text) : Except StyleFault Text :=
  let name := Text.small word
  if name = ("default" : Text) ∨ String.ofList name ∈ colorNames then .ok name
  else match name with
  | '#' :: digits =>
    if digits.length = 6 ∧ digits.all fun c => c.isDigit || ('a' ≤ c && c ≤ 'f') then .ok name
    else .error .noStyle
  | _ =>
    match between? "color(" name, between? "rgb(" name with
    | some digits, _ =>
      if digits ≠ [] ∧ digits.length ≤ 3 ∧ digits.all Char.isDigit ∧ Text.ofDigits digits ≤ 255
      then .ok name else .error .noStyle
    | none, some inner => (checkMixture inner).map fun _ => name
    | none, none => .error .noStyle

structure TagStyle where
  /-- The attributes that are switched, the last switch first. -/
  switches : List (Attribute × Bool) := []
  color : Option Text := none
  background : Option Text := none
  link : Option Text := none

namespace TagStyle

def switch (style : TagStyle) (a : Attribute) (on : Bool) : TagStyle :=
  { style with switches := (a, on) :: style.switches }

/-- Reads words on from a style. -/
def ofWords (style : TagStyle) : List Text → Except StyleFault TagStyle
  | [] => .ok style
  | [word] =>
    match Attribute.ofWord? (Text.small word) with
    | some a => .ok (style.switch a true)
    | none => (colorName word).map fun color => { style with color := some color }
  | word :: next :: rest =>
    let key := Text.small word
    if key = ("on" : Text) then
      match colorName next with
      | .ok color => ofWords { style with background := some color } rest
      | .error e => .error e
    else if key = ("not" : Text) then
      match Attribute.ofWord? next with
      | some a => ofWords (style.switch a false) rest
      | none => .error .noStyle
    else if key = ("link" : Text) then ofWords { style with link := some next } rest
    else match Attribute.ofWord? key with
    | some a => ofWords (style.switch a true) (next :: rest)
    | none =>
      match colorName word with
      | .ok color => ofWords { style with color := some color } (next :: rest)
      | .error e => .error e

def wordsOf (s : Text) : List Text := (s.splitOnP isBlank).filter (· != [])

/-- Reads the text of a tag; `none` says nothing. -/
def ofText (s : Text) : Except StyleFault TagStyle :=
  if wordsOf s = [("none" : Text)] then .ok {} else ofWords {} (wordsOf s)

def attributeWords (style : TagStyle) : List Text :=
  Attribute.all.filterMap fun a => (style.switches.lookup a).map fun on =>
    if on then a.word else "not " ++ a.word

/-- The one text for all tags that say the same. -/
def text (style : TagStyle) : Text :=
  let words := style.attributeWords ++ style.color.toList
    ++ style.background.toList.map (("on " : Text) ++ ·)
    ++ style.link.toList.map (("link " : Text) ++ ·)
  if words = [] then "none" else Text.joinWith " " words

end TagStyle

/-- The name by which tags are matched: what a style says in its one form; any other text in small
letters and without margins. -/
def tagName (s : Text) : Except StyleFault Text :=
  match TagStyle.ofText s with
  | .ok style => .ok style.text
  | .error .noStyle => .ok (Text.small (Text.trim isBlank s))
  | .error .badNumber => .error .badNumber

end Counterpart.Markup
