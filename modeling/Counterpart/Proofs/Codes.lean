import Mathlib.Data.List.Infix
import Counterpart.Display

/-! Codes in a text. A console replaces no other parts of a text, whatever pictures it has, and no
code reaches over a blank. -/

namespace Counterpart.Display

/-- A character that may stand in a code. -/
def isCodeCharacter (c : Char) : Bool := c != ':' && !isBlank c

/-- A code for which there is a picture stands in the text. -/
def HasCode (d : Display) (s : Text) : Prop :=
  ∃ code, ':' :: code ++ [':'] <:+: s ∧ code.all isCodeCharacter ∧ (d.pictureFor? code).isSome

variable {d : Display} {s t : Text}

theorem HasCode.of_infix (h : d.HasCode s) (hs : s <:+: t) : d.HasCode t := by
  obtain ⟨code, hcode, hall, hpicture⟩ := h
  exact ⟨code, hcode.trans hs, hall, hpicture⟩

theorem not_hasCode_of_not_mem (h : ':' ∉ s) : ¬ d.HasCode s := by
  rintro ⟨code, hcode, -⟩
  exact h (hcode.subset List.mem_cons_self)

theorem not_hasCode_of_colon_at_end (h : ':' ∉ s) : ¬ d.HasCode (s ++ [':']) := by
  rintro ⟨code, hcode, -⟩
  have hcount := hcode.sublist.count_le ':'
  simp [List.count_eq_zero.2 h] at hcount

/-- No code reaches over a blank. -/
theorem hasCode_append_blank (h : d.HasCode (s ++ ' ' :: t)) : d.HasCode s ∨ d.HasCode t := by
  obtain ⟨code, hcode, hall, hpicture⟩ := h
  have hblank : ' ' ∉ ':' :: code ++ [':'] := by
    have hnone : ' ' ∉ code := fun hmem => absurd (List.all_eq_true.1 hall _ hmem) (by decide)
    simpa using hnone
  rcases List.infix_append_iff.1 hcode with hleft | hright | ⟨left, right, he, hleft, hright⟩
  · exact .inl ⟨code, hleft, hall, hpicture⟩
  · rcases List.infix_cons_iff.1 hright with hstart | hright
    · obtain ⟨rest, hrest⟩ := hstart
      cases hrest
    · exact .inr ⟨code, hright, hall, hpicture⟩
  · cases right with
    | nil =>
      rw [List.append_nil] at he
      exact .inl ⟨code, he ▸ hleft.isInfix, hall, hpicture⟩
    | cons c right =>
      obtain rfl := (List.cons_prefix_cons.1 hright).1
      exact absurd (he ▸ List.mem_append_right _ List.mem_cons_self) hblank

theorem hasCode_iff_tails : d.HasCode s ↔ ∃ t ∈ s.tails, t.head? = some ':' ∧
    (t.tail.dropWhile isCodeCharacter).head? = some ':' ∧
    (d.pictureFor? (t.tail.takeWhile isCodeCharacter)).isSome := by
  simp only [List.mem_tails]
  constructor
  · rintro ⟨code, ⟨before, after, hs⟩, hall, hpicture⟩
    rw [List.all_eq_true] at hall
    refine ⟨':' :: (code ++ ':' :: after), ⟨before, by simp [← hs]⟩, rfl, ?_, ?_⟩
    · rw [List.tail_cons, List.dropWhile_append_of_pos hall]
      rfl
    · rw [List.tail_cons, List.takeWhile_append_of_pos hall,
        List.takeWhile_cons_of_neg (by decide), List.append_nil]
      exact hpicture
  · rintro ⟨t, ht, hhead, hclosed, hpicture⟩
    obtain ⟨rest, rfl⟩ := List.head?_eq_some_iff.1 hhead
    obtain ⟨after, hafter⟩ := List.head?_eq_some_iff.1 hclosed
    rw [List.tail_cons] at hafter hpicture
    have hcode : ':' :: rest.takeWhile isCodeCharacter ++ [':'] <:+: ':' :: rest := by
      refine ⟨[], after, ?_⟩
      conv_rhs => rw [← @List.takeWhile_append_dropWhile _ isCodeCharacter rest, hafter]
      simp
    exact ⟨_, hcode.trans ht.isInfix, List.all_takeWhile, hpicture⟩

instance (d : Display) : DecidablePred d.HasCode := fun _ =>
  decidable_of_iff _ hasCode_iff_tails.symm

/-- What was read and not printed yet. -/
def heldText : Option Text → Text
  | none => []
  | some code => ':' :: code

theorem picturedAfter_eq {held : Option Text} (hheld : ∀ code ∈ held, code.all isCodeCharacter)
    (h : ¬ d.HasCode (heldText held ++ s)) : d.picturedAfter held s = heldText held ++ s := by
  induction s generalizing held with
  | nil => cases held <;> simp [picturedAfter, heldText]
  | cons c rest ih =>
    have hrest : ¬ d.HasCode (heldText none ++ rest) := fun hcode =>
      h (hcode.of_infix ⟨heldText held ++ [c], [], by simp [heldText]⟩)
    cases held with
    | none =>
      rw [picturedAfter]
      split
      · next hc =>
        subst hc
        exact ih (by simp) h
      · rw [ih (by simp) hrest]
        rfl
    | some code =>
      have hcode := hheld code rfl
      rw [picturedAfter]
      split
      · next hc =>
        subst hc
        have hnone : d.pictureFor? code = none := by
          rw [← Option.not_isSome_iff_eq_none]
          exact fun hpicture => h ⟨code, ⟨[], rest, by simp [heldText]⟩, hcode, hpicture⟩
        rw [hnone, ih (by simp) hrest]
        simp [heldText]
      · next hc =>
        split
        · rw [ih (by simp) hrest]
          rfl
        · next hblank =>
          have hmove :
              heldText (some code) ++ c :: rest = heldText (some (code ++ [c])) ++ rest := by
            simp [heldText]
          rw [hmove] at h ⊢
          refine ih (fun code' hmem => ?_) h
          obtain rfl := Option.some.inj hmem
          simp_all [isCodeCharacter]

/-- Only codes are replaced. -/
theorem pictured_eq_self (h : ¬ d.HasCode s) : d.pictured s = s := picturedAfter_eq (by simp) h

/-- A console with one picture. -/
def festive : Display where
  picture? name := if name = ("tada" : Text) then some "🎉" else none

example : festive.pictured ":tada: :Tada-text: :to do:tada" = "🎉 🎉\uFE0E :to do:tada" := by decide

end Counterpart.Display
