import Counterpart.Text.Basic
import Counterpart.Text.CaseRanges
import Counterpart.Text.CasedRanges
import Counterpart.Text.Ranges

/-! Texts in small letters. A capital sigma at the end of a word becomes a final one. -/

namespace Counterpart

/-- The small letter of a capital; any other character is left alone. -/
def smallLetter (c : Char) : Char :=
  if c.toNat < 128 then c.toLower
  else
    match caseRuns.find? fun r =>
      r.first ≤ c.toNat && c.toNat ≤ r.last && (c.toNat - r.first) % r.step == 0 with
    | some r => Char.ofNat (c.toNat - r.first + r.small)
    | none => c

/-- Letters and signs with a case, capital or small. Modifiers are word marks instead. -/
def isCased (c : Char) : Bool :=
  c.isAlpha || (128 ≤ c.toNat && inRanges c.toNat casedRanges)

/-- Marks that may stand inside a word without ending it. -/
def isWordMark (c : Char) : Bool :=
  c ∈ ['\'', '.', ':', '^', '`'] || (128 ≤ c.toNat && inRanges c.toNat wordMarkRanges)

namespace Text

/-- Goes on after a letter, with marks passed over, if `inWord`. -/
def smallAfter (inWord : Bool) : Text → Text
  | [] => []
  | c :: rest =>
    let letters :=
      if c = 'Σ' then
        if inWord && !(rest.dropWhile isWordMark).head?.any isCased then ['ς'] else ['σ']
      else if c = 'İ' then ['i', '\u0307']
      else [smallLetter c]
    letters ++ smallAfter (if isWordMark c then inWord else isCased c) rest

def small (s : Text) : Text := smallAfter false s

end Text
end Counterpart
