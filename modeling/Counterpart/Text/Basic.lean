/-! Texts are lists of characters, so that every offset, column and length counts characters.
A quoted literal stands for the list of its characters. All texts are Unicode texts: one with half a
surrogate pair, such as a file's name that is no UTF-8 would be read as, is outside the model. -/

namespace Counterpart

abbrev Text := List Char

instance : Coe String Text := ⟨String.toList⟩

namespace Text

def joinWith (sep : Text) (parts : List Text) : Text := sep.intercalate parts

def trimStart (p : Char → Bool) (s : Text) : Text := s.dropWhile p

def trimEnd (p : Char → Bool) (s : Text) : Text := (s.reverse.dropWhile p).reverse

def trim (p : Char → Bool) (s : Text) : Text := trimEnd p (trimStart p s)

/-- The places where a text may be taken to end: its end, and before a newline that ends it. -/
def endings (s : Text) : List Text :=
  if s.getLast? = some '\n' then [s, s.dropLast] else [s]

/-- What follows the first occurrence of `marker` whose continuation is acceptable. -/
def after? (marker : Text) (acceptable : Text → Bool) : Text → Option Text
  | [] => (marker.isPrefixOf? []).filter acceptable
  | c :: rest =>
    match (marker.isPrefixOf? (c :: rest)).filter acceptable with
    | some found => some found
    | none => after? marker acceptable rest

/-- Every line ending becomes a newline: CR LF, a lone CR, and LF itself. -/
def unifyNewlines : Text → Text
  | [] => []
  | '\r' :: '\n' :: rest => '\n' :: unifyNewlines rest
  | c :: rest => (if c = '\r' then '\n' else c) :: unifyNewlines rest

/-- Decimal digits, without leading zeros. -/
def ofNat (n : Nat) : Text := Nat.toDigits 10 n

def ofInt : Int → Text
  | .ofNat n => ofNat n
  | .negSucc n => '-' :: ofNat (n + 1)

theorem trimEnd_append_of_all {p : Char → Bool} (s : Text) {t : Text} (h : t.all p) :
    trimEnd p (s ++ t) = trimEnd p s := by
  have : ∀ c ∈ t.reverse, p c = true := by simpa using h
  simp [trimEnd, List.dropWhile_append_of_pos this]

end Text
end Counterpart
