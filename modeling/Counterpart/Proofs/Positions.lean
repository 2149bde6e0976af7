import Mathlib.Data.List.TakeWhile
import Mathlib.Data.Prod.Lex
import Mathlib.Order.Bounds.Basic
import Counterpart.Text.Position

/-! Offsets and positions of one text. A position read off an offset leads back to it, and neither
line nor column goes further than the text. The offset of a position is the last one that lies no
further: reading positions off offsets and going to positions form a Galois connection. -/

namespace Counterpart

/-- The characters since the last newline. -/
def columnsAfter (before : Text) : Nat := (before.reverse.takeWhile (· != '\n')).length

theorem positionOf_eq (text : Text) (offset : Int) : positionOf text offset =
    ⟨(text.take (clampOffset text offset)).count '\n' + 1,
      columnsAfter (text.take (clampOffset text offset)) + 1⟩ := rfl

theorem columnsAfter_cons_of_mem {before : Text} (c : Char) (h : '\n' ∈ before) :
    columnsAfter (c :: before) = columnsAfter before := by
  have hstop : (before.reverse.takeWhile (· != '\n')).length ≠ before.reverse.length := by
    intro he
    have hall := (List.takeWhile_prefix (· != '\n')).eq_of_length he
    have hmem : '\n' ∈ before.reverse.takeWhile (· != '\n') := by
      rw [hall]
      exact List.mem_reverse.2 h
    simpa using List.mem_takeWhile_imp hmem
  rw [columnsAfter, List.reverse_cons, List.takeWhile_append, if_neg hstop]
  rfl

theorem bne_newline_of_not_mem {s : Text} (h : '\n' ∉ s) : ∀ c ∈ s, (c != '\n') = true := by
  intro c hc
  have hne : c ≠ '\n' := fun he => h (he ▸ hc)
  simpa using hne

theorem columnsAfter_of_not_mem {before : Text} (h : '\n' ∉ before) :
    columnsAfter before = before.length := by
  have hreverse : '\n' ∉ before.reverse := fun hmem => h (List.mem_reverse.1 hmem)
  rw [columnsAfter, List.takeWhile_eq_self_iff.2 (bne_newline_of_not_mem hreverse),
    List.length_reverse]

theorem columnsAfter_cons_of_not_mem {c : Char} {before : Text} (hc : c ≠ '\n')
    (h : '\n' ∉ before) : columnsAfter (c :: before) = columnsAfter before + 1 := by
  have hnot : '\n' ∉ c :: before := by simpa [Ne.symm hc] using h
  rw [columnsAfter_of_not_mem hnot, columnsAfter_of_not_mem h, List.length_cons]

/-- A newline in front starts a line of its own. -/
theorem columnsAfter_newline (before : Text) :
    columnsAfter ('\n' :: before) = columnsAfter before := by
  by_cases h : '\n' ∈ before
  · exact columnsAfter_cons_of_mem '\n' h
  · have hreverse : '\n' ∉ before.reverse := fun hmem => h (List.mem_reverse.1 hmem)
    rw [columnsAfter_of_not_mem h, columnsAfter, List.reverse_cons,
      List.takeWhile_append_of_pos (bne_newline_of_not_mem hreverse)]
    simp

/-- Passing the newlines of the first part of a text, and then as many characters as stand in its
last line, leads to its end. -/
theorem seek_append (before after : Text) :
    seek (before ++ after) (before.count '\n') (columnsAfter before) = before.length := by
  -- A character that is no newline is passed on a line that counts, or else as a column.
  induction before with
  | nil => cases after <;> rfl
  | cons c before ih =>
    by_cases hc : c = '\n'
    · subst hc
      rw [List.cons_append, List.count_cons_self, columnsAfter_newline, seek, if_pos rfl, ih,
        List.length_cons]
    · have hcount : (c :: before).count '\n' = before.count '\n' :=
        List.count_cons_of_ne hc
      rw [List.cons_append, hcount, List.length_cons]
      by_cases h : '\n' ∈ before
      · obtain ⟨lines, hlines⟩ := Nat.exists_eq_add_one.2 (List.count_pos_iff.2 h)
        rw [columnsAfter_cons_of_mem c h, hlines, seek, if_neg hc, ← hlines, ih]
      · rw [List.count_eq_zero.2 h] at ih ⊢
        rw [columnsAfter_cons_of_not_mem hc h, seek, if_neg hc, ih]

theorem offsetOf_positionOf (text : Text) (offset : Int) :
    offsetOf text (positionOf text offset).line (positionOf text offset).column =
      clampOffset text offset := by
  have hseek := seek_append (text.take (clampOffset text offset))
    (text.drop (clampOffset text offset))
  rw [List.take_append_drop, List.length_take, Nat.min_eq_left (clampOffset_le text offset)]
    at hseek
  have hline (n : Nat) : (((n + 1 : Nat) : Int) - 1).toNat = n := by omega
  rw [offsetOf, positionOf_eq, hline, hline]
  exact hseek

theorem offsetOf_positionOf_of_le {text : Text} {offset : Int} (hpos : 0 ≤ offset)
    (hle : offset ≤ text.length) :
    (offsetOf text (positionOf text offset).line (positionOf text offset).column : Int) =
      offset := by
  rw [offsetOf_positionOf, clampOffset]
  omega

/-- The text ends before a later line, or on that line after no more columns. -/
def EndsWithin (before : Text) (lines columns : Nat) : Prop :=
  before.count '\n' < lines ∨ before.count '\n' = lines ∧ columnsAfter before ≤ columns

namespace EndsWithin

variable {c : Char} {before : Text} {lines columns : Nat}

theorem nil : EndsWithin [] lines columns := by
  rcases Nat.eq_zero_or_pos lines with rfl | h
  · exact .inr ⟨rfl, Nat.zero_le _⟩
  · exact .inl h

theorem not_newline_zero : ¬ EndsWithin ('\n' :: before) 0 columns := by
  simp [EndsWithin]

theorem newline_succ_iff :
    EndsWithin ('\n' :: before) (lines + 1) columns ↔ EndsWithin before lines columns := by
  rw [EndsWithin, EndsWithin, List.count_cons_self, columnsAfter_newline,
    Nat.add_lt_add_iff_right, Nat.add_right_cancel_iff]

theorem not_cons_zero_zero (hc : c ≠ '\n') : ¬ EndsWithin (c :: before) 0 0 := by
  rintro (h | ⟨hcount, hcolumns⟩)
  · exact Nat.not_lt_zero _ h
  · rw [List.count_cons_of_ne hc] at hcount
    rw [columnsAfter_cons_of_not_mem hc (List.count_eq_zero.1 hcount)] at hcolumns
    exact Nat.not_succ_le_zero _ hcolumns

theorem cons_zero_succ_iff (hc : c ≠ '\n') :
    EndsWithin (c :: before) 0 (columns + 1) ↔ EndsWithin before 0 columns := by
  rw [EndsWithin, EndsWithin, List.count_cons_of_ne hc]
  refine or_congr_right (and_congr_right fun hcount => ?_)
  rw [columnsAfter_cons_of_not_mem hc (List.count_eq_zero.1 hcount), Nat.add_le_add_iff_right]

theorem cons_succ_iff (hc : c ≠ '\n') :
    EndsWithin (c :: before) (lines + 1) columns ↔ EndsWithin before (lines + 1) columns := by
  rw [EndsWithin, EndsWithin, List.count_cons_of_ne hc]
  refine or_congr_right (and_congr_right fun hcount => ?_)
  have hmem : '\n' ∈ before := List.count_pos_iff.1 (hcount ▸ Nat.succ_pos lines)
  rw [columnsAfter_cons_of_mem c hmem]

end EndsWithin

/-- Passing newlines and columns leads to the last place that is no further. -/
theorem le_seek_iff {text : Text} {lines columns n : Nat} (hn : n ≤ text.length) :
    n ≤ seek text lines columns ↔ EndsWithin (text.take n) lines columns := by
  -- Each way in which `seek` goes on has its lemma about a text with one more character in front.
  fun_induction seek text lines columns generalizing n with
  | case1 =>
    obtain rfl : n = 0 := Nat.le_zero.1 hn
    simpa using EndsWithin.nil
  | case2 c rest =>
    cases n with
    | zero => simpa using EndsWithin.nil
    | succ n =>
      rw [List.take_succ_cons]
      by_cases hc : c = '\n'
      · simp [hc, EndsWithin.not_newline_zero]
      · simp [EndsWithin.not_cons_zero_zero hc]
  | case3 rest columns =>
    cases n with
    | zero => simpa using EndsWithin.nil
    | succ n => simp [EndsWithin.not_newline_zero]
  | case4 c rest columns hc ih =>
    cases n with
    | zero => simpa using EndsWithin.nil
    | succ n =>
      rw [List.take_succ_cons, EndsWithin.cons_zero_succ_iff hc, Nat.add_le_add_iff_right]
      exact ih (Nat.le_of_succ_le_succ hn)
  | case5 c rest lines columns ih =>
    cases n with
    | zero => simpa using EndsWithin.nil
    | succ n =>
      rw [List.take_succ_cons, Nat.add_le_add_iff_right, ih (Nat.le_of_succ_le_succ hn)]
      split
      · next hc => rw [hc, EndsWithin.newline_succ_iff]
      · next hc => rw [EndsWithin.cons_succ_iff hc]

/-- Positions in the order of the text: by line, and on one line by column. -/
instance : PartialOrder Position :=
  PartialOrder.lift (fun p => toLex (p.line, p.column)) fun p q h => by
    cases p
    cases q
    simpa using h

theorem Position.le_iff {p q : Position} :
    p ≤ q ↔ p.line < q.line ∨ p.line = q.line ∧ p.column ≤ q.column := Prod.Lex.le_iff

/-- The position that a line and a column ask for. Both count from 1, and what is below stands
for 1. -/
def Position.asked (line column : Int) : Position := ⟨(max line 1).toNat, (max column 1).toNat⟩

theorem Position.asked_positionOf (text : Text) (offset : Int) :
    asked (positionOf text offset).line (positionOf text offset).column =
      positionOf text offset := by
  have hone (n : Nat) : (max ((n + 1 : Nat) : Int) 1).toNat = n + 1 := by omega
  rw [positionOf_eq, asked, hone, hone]

theorem positionOf_clampOffset (text : Text) (offset : Int) :
    positionOf text (clampOffset text offset) = positionOf text offset := by
  rw [positionOf_eq, positionOf_eq, clampOffset_clampOffset]

theorem positionOf_le_iff {text : Text} {offset : Nat} (h : offset ≤ text.length)
    {line column : Int} :
    positionOf text offset ≤ .asked line column ↔ offset ≤ offsetOf text line column := by
  have hone (n : Int) : (max n 1).toNat = (n - 1).toNat + 1 := by omega
  rw [offsetOf, le_seek_iff h, Position.le_iff, positionOf_eq, clampOffset_natCast h,
    Position.asked, hone line, hone column, EndsWithin]
  simp only [Nat.add_lt_add_iff_right, Nat.add_right_cancel_iff, Nat.add_le_add_iff_right]

theorem isGreatest_offsetOf (text : Text) (line column : Int) :
    IsGreatest {offset : Nat | offset ≤ text.length ∧ positionOf text offset ≤ .asked line column}
      (offsetOf text line column) := by
  refine ⟨⟨offsetOf_le text line column, ?_⟩, fun offset h => ?_⟩
  · exact (positionOf_le_iff (offsetOf_le text line column)).2 le_rfl
  · exact (positionOf_le_iff h.1).1 h.2

theorem positionOf_mono {text : Text} {offset offset' : Int} (h : offset ≤ offset') :
    positionOf text offset ≤ positionOf text offset' := by
  have hclamp : clampOffset text offset ≤ clampOffset text offset' := by
    rw [clampOffset, clampOffset]
    omega
  rw [← offsetOf_positionOf text offset', ← positionOf_le_iff (clampOffset_le text offset),
    Position.asked_positionOf, positionOf_clampOffset] at hclamp
  exact hclamp

theorem offsetOf_mono {text : Text} {line column line' column' : Int}
    (h : Position.asked line column ≤ .asked line' column') :
    offsetOf text line column ≤ offsetOf text line' column' :=
  (positionOf_le_iff (offsetOf_le text line column)).1
    ((isGreatest_offsetOf text line column).1.2.trans h)

/-- An offset is no further than a place just when its position is not, so the offset of a place is
the last one that lies no further, and both directions keep the order. -/
theorem positionOf_offsetOf_galois (text : Text) :
    (∀ (offset : Nat) (line column : Int), offset ≤ text.length →
      (positionOf text offset ≤ .asked line column ↔ offset ≤ offsetOf text line column)) ∧
    (∀ line column : Int, offsetOf text line column ≤ text.length) ∧
    (∀ offset : Int,
      offsetOf text (positionOf text offset).line (positionOf text offset).column =
        clampOffset text offset) ∧
    (∀ line column : Int, IsGreatest
      {offset : Nat | offset ≤ text.length ∧ positionOf text offset ≤ .asked line column}
      (offsetOf text line column)) ∧
    (∀ offset offset' : Int, offset ≤ offset' →
      positionOf text offset ≤ positionOf text offset') ∧
    ∀ line column line' column' : Int, Position.asked line column ≤ .asked line' column' →
      offsetOf text line column ≤ offsetOf text line' column' :=
  ⟨fun _ _ _ h => positionOf_le_iff h, offsetOf_le text, offsetOf_positionOf text,
    isGreatest_offsetOf text, fun _ _ h => positionOf_mono h, fun _ _ _ _ h => offsetOf_mono h⟩

/-- The second line is empty: whatever column of it is asked for, its only offset is the place. -/
theorem empty_line_galois :
    let text : Text := "ab\n\ncd"
    3 ≤ text.length ∧ positionOf text 3 ≤ .asked 2 9 ∧ 3 ≤ offsetOf text 2 9 ∧
      Position.asked 2 9 ≤ .asked 3 (-4) ∧ offsetOf text 2 9 ≤ offsetOf text 3 (-4) := by
  intro text
  obtain ⟨hgalois, -, -, -, -, hmono⟩ := positionOf_offsetOf_galois text
  have hlength : 3 ≤ text.length := by decide
  have hposition : positionOf text 3 ≤ .asked 2 9 := Position.le_iff.2 (.inr ⟨rfl, by decide⟩)
  have hlater : Position.asked 2 9 ≤ .asked 3 (-4) := Position.le_iff.2 (.inl (by decide))
  exact ⟨hlength, hposition, (hgalois 3 2 9 hlength).1 hposition, hlater, hmono _ _ _ _ hlater⟩

example : offsetOf "ab\n\ncd" 2 9 = 3 ∧ offsetOf "ab\n\ncd" 3 (-4) = 4 := by
  decide

end Counterpart
