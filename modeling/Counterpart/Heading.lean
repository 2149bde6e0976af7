import Counterpart.Text.Basic
import Counterpart.Text.Class

/-! The start of a definition line up to its name: indentation, keyword, and a gap of at least one
blank. A keyword may itself begin with blanks, or be empty, so a line can have several readings;
they are listed with the widest indentation first, and with the widest gap first among those. -/

namespace Counterpart

structure Heading where
  indent : Nat
  /-- Characters up to the name. -/
  width : Nat
  /-- The text from the name on. -/
  rest : Text

/-- The ways to take blanks off the front of a text, longest first, put ahead of `shorter`. -/
def gapCutsFrom (taken : Nat) : Text → List (Nat × Text) → List (Nat × Text)
  | [], shorter => (taken, []) :: shorter
  | c :: rest, shorter =>
    if isGap c then gapCutsFrom (taken + 1) rest ((taken, c :: rest) :: shorter)
    else (taken, c :: rest) :: shorter

/-- Every way to take blanks off the front of a text, longest first, with their number. -/
def gapCuts (s : Text) : List (Nat × Text) := gapCutsFrom 0 s []

def headings (keyword line : Text) : List Heading :=
  (gapCuts line).flatMap fun (indent, afterIndent) =>
    match keyword.isPrefixOf? afterIndent with
    | none => []
    | some afterKeyword => (gapCuts afterKeyword).filterMap fun (gap, rest) =>
      if gap = 0 then none else some ⟨indent, indent + keyword.length + gap, rest⟩

/-- The texts that start after a newline, each with its offset. -/
def laterLines (offset : Nat) : Text → List (Nat × Text)
  | [] => []
  | c :: rest =>
    if c = '\n' then (offset + 1, rest) :: laterLines (offset + 1) rest
    else laterLines (offset + 1) rest

/-- The texts that start where a line starts, each with its offset. -/
def lineStarts (text : Text) : List (Nat × Text) := (0, text) :: laterLines 0 text

theorem mem_gapCutsFrom {taken n : Nat} {s t : Text} {shorter : List (Nat × Text)} :
    (n, t) ∈ gapCutsFrom taken s shorter ↔
      (∃ gap, s = gap ++ t ∧ taken + gap.length = n ∧ gap.all isGap) ∨ (n, t) ∈ shorter := by
  induction s generalizing taken shorter with
  | nil =>
    simp only [gapCutsFrom, List.mem_cons, Prod.mk.injEq]
    refine or_congr_left ⟨?_, ?_⟩
    · rintro ⟨rfl, rfl⟩
      exact ⟨[], rfl, rfl, rfl⟩
    · rintro ⟨gap, h, rfl, _⟩
      obtain ⟨rfl, rfl⟩ := List.append_eq_nil_iff.1 h.symm
      exact ⟨rfl, rfl⟩
  | cons c rest ih =>
    have here : (∃ gap, c :: rest = gap ++ t ∧ taken + gap.length = n ∧ gap.all isGap) ↔
        (n = taken ∧ t = c :: rest) ∨ (isGap c ∧
          ∃ gap, rest = gap ++ t ∧ taken + 1 + gap.length = n ∧ gap.all isGap) := by
      constructor
      · rintro ⟨_ | ⟨d, gap⟩, hs, hn, hall⟩
        · exact .inl ⟨hn.symm, hs.symm⟩
        · obtain ⟨rfl, rfl⟩ := List.cons.inj hs
          simp only [List.all_cons, Bool.and_eq_true, List.length_cons] at hall hn
          exact .inr ⟨hall.1, gap, rfl, by omega, hall.2⟩
      · rintro (⟨rfl, rfl⟩ | ⟨hc, gap, rfl, rfl, hall⟩)
        · exact ⟨[], rfl, rfl, rfl⟩
        · exact ⟨c :: gap, rfl, by simp; omega, by simp [hc, hall]⟩
    by_cases hc : isGap c
    · rw [gapCutsFrom, if_pos hc, ih, here]
      simp only [hc, true_and, List.mem_cons, Prod.mk.injEq]
      grind
    · simp only [gapCutsFrom, if_neg hc, List.mem_cons, Prod.mk.injEq, here]
      grind

end Counterpart
