import Counterpart.Proofs.LineReading

/-! What the cursor's own line does to the method around it. A line that opens no method leaves the
method as it was at the start of the line, but the line is read only as far as the cursor: an end
keyword that the cursor stands behind closes the method, whatever else follows on the line. -/

namespace Counterpart

/-- Where the line with the cursor starts. -/
def lineStart (text : Text) (cursor : Nat) : Nat := cursor - columnsAfter (text.take cursor)

/-- The part of the cursor's line before the cursor closes the method around the line's start. -/
def CutCloses (conv : Conventions) (text : Text) (cursor : Nat) : Prop :=
  ∃ opened indent width,
    LastShown conv.methodKeyword text (lineStart text cursor) opened indent width ∧
    IsClosing conv.blockEndKeyword indent
      ((lineAt text (lineStart text cursor)).take (cursor - lineStart text cursor))

section LineStart

variable {text : Text} {cursor : Nat}

theorem lineStart_le : lineStart text cursor ≤ cursor := Nat.sub_le _ _

theorem exists_lastLine (h : cursor ≤ text.length) :
    ∃ stem line, text.take cursor = stem ++ line ∧ '\n' ∉ line ∧
      stem.length = lineStart text cursor ∧ (stem = [] ∨ ∃ rest, stem = rest ++ ['\n']) := by
  obtain ⟨back, hback⟩ : ∃ back, (text.take cursor).reverse = back := ⟨_, rfl⟩
  have hsplit : text.take cursor =
      (back.dropWhile (· != '\n')).reverse ++ (back.takeWhile (· != '\n')).reverse := by
    rw [← List.reverse_append, List.takeWhile_append_dropWhile, ← hback, List.reverse_reverse]
  refine ⟨_, _, hsplit, ?_, ?_, ?_⟩
  · intro hmem
    simpa using List.mem_takeWhile_imp (List.mem_reverse.1 hmem)
  · have hlength := congrArg List.length hsplit
    simp only [List.length_append, List.length_reverse, List.length_take] at hlength ⊢
    rw [lineStart, columnsAfter, hback]
    omega
  · cases hd : back.dropWhile (· != '\n') with
    | nil => exact .inl rfl
    | cons c rest =>
      have hc := List.head?_dropWhile_not (· != '\n') back
      rw [hd] at hc
      obtain rfl : c = '\n' := by simpa using hc
      exact .inr ⟨rest.reverse, List.reverse_cons⟩

theorem startsLine_lineStart (h : cursor ≤ text.length) :
    StartsLine text (lineStart text cursor) := by
  obtain ⟨stem, line, hbefore, -, hstart, hstem⟩ := exists_lastLine h
  rw [← hstart]
  rcases hstem with rfl | ⟨rest, rfl⟩
  · exact .inl rfl
  · have htext := List.take_append_drop cursor text
    rw [hbefore] at htext
    exact .inr ⟨rest, line ++ text.drop cursor, htext.symm.trans (by simp), by simp⟩

theorem StartsLine.le_lineStart (h : cursor ≤ text.length) {n : Nat} (hn : StartsLine text n)
    (hle : n ≤ cursor) : n ≤ lineStart text cursor := by
  obtain ⟨stem, line, hbefore, hline, hstart, -⟩ := exists_lastLine h
  rw [← hstart]
  rcases (startsLine_take hle).2 hn with rfl | ⟨before, after, hcut, rfl⟩
  · exact Nat.zero_le _
  · -- The newline in front of the line lies in the stem, for the last line has none.
    by_contra hlt
    have hin : (stem ++ line)[before.length]? = some '\n' := by
      rw [← hbefore, hcut]
      simp
    rw [List.getElem?_append_right (by omega)] at hin
    exact hline (List.mem_of_getElem? hin)

/-- A line ends before the next one starts. -/
theorem StartsLine.add_length_lt {start later : Nat} (h : StartsLine text later)
    (hlt : start < later) : start + (lineAt text start).length < later := by
  rcases h with rfl | ⟨before, after, rfl, rfl⟩
  · exact absurd hlt (Nat.not_lt_zero _)
  · rw [lineAt, List.drop_append_of_le_length (by omega), takeWhile_newline (by decide)]
    have hle := ((before.drop start).takeWhile_sublist (· != '\n')).length_le
    rw [List.length_drop] at hle
    omega

end LineStart

section Cut

variable {keyword endKeyword text : Text} {cursor start indent width : Nat}

/-- On a line that opens no method the cursor shows what is shown at the start of the line. -/
theorem shown_lineStart_iff (h : cursor ≤ text.length)
    (hline : ∀ indent width, ¬ Opens keyword (lineAt text (lineStart text cursor)) indent width) :
    Shown keyword text (lineStart text cursor) start indent width ↔
      Shown keyword text cursor start indent width := by
  have hle : lineStart text cursor ≤ cursor := lineStart_le
  constructor
  · rintro ⟨hstart, hopens, hlt⟩
    exact ⟨hstart, hopens, by omega⟩
  · rintro ⟨hstart, hopens, hlt⟩
    refine ⟨hstart, hopens, ?_⟩
    rcases Nat.lt_or_eq_of_le (hstart.le_lineStart h (by omega)) with hbefore | rfl
    · have hname := hopens.namesAt.lt_length
      have hend := (startsLine_lineStart h).add_length_lt hbefore
      omega
    · exact absurd hopens (hline indent width)

theorem lastShown_lineStart_iff (h : cursor ≤ text.length)
    (hline : ∀ indent width, ¬ Opens keyword (lineAt text (lineStart text cursor)) indent width) :
    LastShown keyword text (lineStart text cursor) start indent width ↔
      LastShown keyword text cursor start indent width := by
  simp only [LastShown, shown_lineStart_iff h hline]

theorem not_isClosing_nil (he : endKeyword ≠ []) : ¬ IsClosing endKeyword indent [] :=
  fun h => he h.1.symm

theorem closedAfter_iff (he : endKeyword ≠ []) (h : cursor ≤ text.length)
    (hstart : start < lineStart text cursor) :
    ClosedAfter endKeyword text cursor start indent ↔
      ClosedAfter endKeyword text (lineStart text cursor) start indent ∨
        IsClosing endKeyword indent
          ((lineAt text (lineStart text cursor)).take (cursor - lineStart text cursor)) := by
  have hstarts := startsLine_lineStart h
  have hle : lineStart text cursor ≤ cursor := lineStart_le
  have hsame {later : Nat} (hlt : later < lineStart text cursor) :
      (lineAt text later).take (cursor - later) =
        (lineAt text later).take (lineStart text cursor - later) := by
    have hend := hstarts.add_length_lt hlt
    rw [List.take_of_length_le (by omega), List.take_of_length_le (by omega)]
  constructor
  · rintro ⟨later, hlt, hlater, hline, hclosing⟩
    rcases Nat.lt_or_eq_of_le (hline.le_lineStart h hlater) with hbefore | rfl
    · exact .inl ⟨later, hlt, by omega, hline, hsame hbefore ▸ hclosing⟩
    · exact .inr hclosing
  · rintro (⟨later, hlt, hlater, hline, hclosing⟩ | hclosing)
    · rcases Nat.lt_or_eq_of_le hlater with hbefore | rfl
      · exact ⟨later, hlt, by omega, hline, hsame hbefore ▸ hclosing⟩
      · rw [Nat.sub_self, List.take_zero] at hclosing
        exact absurd hclosing (not_isClosing_nil he)
    · exact ⟨_, hstart, hle, hstarts, hclosing⟩

end Cut

variable {conv : Conventions} {text : Text}

theorem CutCloses.lt {cursor : Nat} (h : CutCloses conv text cursor)
    (hline : Text.trim isBlank (lineAt text (lineStart text cursor)) ≠ conv.blockEndKeyword) :
    cursor < lineStart text cursor + (lineAt text (lineStart text cursor)).length := by
  obtain ⟨-, -, -, -, htrim, -⟩ := h
  by_contra hle
  rw [List.take_of_length_le (by omega)] at htrim
  exact hline htrim

theorem enclosingMethod?_of_lineStart (hk : IsBare conv.methodKeyword)
    (he : IsBare conv.blockEndKeyword) {cursor : Nat} (h : cursor ≤ text.length)
    (hline : ∀ indent width,
      ¬ Opens conv.methodKeyword (lineAt text (lineStart text cursor)) indent width) :
    (CutCloses conv text cursor → enclosingMethod? conv text cursor = none) ∧
    (¬ CutCloses conv text cursor → enclosingMethod? conv text cursor =
      enclosingMethod? conv text (lineStart text cursor)) := by
  rcases exists_lastShown hk text (lineStart text cursor) with
    ⟨opened, indent, width, hlast⟩ | hnot
  · have hbefore : opened < lineStart text cursor := by
      obtain ⟨⟨-, -, hlt⟩, -⟩ := hlast
      omega
    obtain ⟨hclosed, hopen⟩ :=
      enclosingMethod?_of_lastShown hk he.1 ((lastShown_lineStart_iff h hline).1 hlast)
    obtain ⟨hclosed', hopen'⟩ := enclosingMethod?_of_lastShown hk he.1 hlast
    rw [closedAfter_iff he.1 h hbefore] at hclosed hopen
    refine ⟨?_, fun hcut => ?_⟩
    · rintro ⟨opened', indent', width', hlast', hclosing⟩
      obtain ⟨rfl, rfl, rfl⟩ := hlast.unique hk hlast'
      exact hclosed (.inr hclosing)
    · by_cases hbefore' :
        ClosedAfter conv.blockEndKeyword text (lineStart text cursor) opened indent
      · rw [hclosed (.inl hbefore'), hclosed' hbefore']
      · have hstill := fun hclosing => hcut ⟨opened, indent, width, hlast, hclosing⟩
        rw [hopen (not_or.2 ⟨hbefore', hstill⟩), hopen' hbefore']
  · have hnone : enclosingMethod? conv text cursor = none :=
      enclosingMethod?_of_not_shown hk fun start indent width hshown =>
        hnot _ _ _ ((shown_lineStart_iff h hline).2 hshown)
    have hnone' := enclosingMethod?_of_not_shown hk hnot
    exact ⟨fun _ => hnone, fun _ => hnone.trans hnone'.symm⟩

/-- Along a line that opens no method the method around the cursor stays the same, except where the
cursor cuts the line behind an end keyword that would close it. A line that is no end can be cut so
only before its own end. -/
theorem enclosingMethod?_along_line (conv : Conventions) (hk : IsBare conv.methodKeyword)
    (he : IsBare conv.blockEndKeyword) (text : Text) (cursor : Int) :
    let c := clampOffset text cursor
    let line := lineAt text (lineStart text c)
    (∀ indent width, ¬ Opens conv.methodKeyword line indent width) →
      (¬ CutCloses conv text c →
        enclosingMethod? conv text cursor = enclosingMethod? conv text (lineStart text c)) ∧
      (CutCloses conv text c → enclosingMethod? conv text cursor = none) ∧
      (Text.trim isBlank line ≠ conv.blockEndKeyword → CutCloses conv text c →
        c < lineStart text c + line.length) := by
  intro c line hline
  obtain ⟨hcloses, hkeeps⟩ :=
    enclosingMethod?_of_lineStart hk he (clampOffset_le text cursor) hline
  rw [← enclosingMethod?_clampOffset conv text cursor]
  exact ⟨hkeeps, hcloses, fun htrim hcut => hcut.lt htrim⟩

/-- A variable that begins with the end keyword: behind that part of its name the method looks
closed, and behind one letter more it does not. -/
theorem end_date_along_line :
    let text : Text := "def index\nend_date = 1\nend\n"
    IsBare Conventions.standard.methodKeyword ∧ IsBare Conventions.standard.blockEndKeyword ∧
      (∀ indent width, ¬ Opens "def" (lineAt text 10) indent width) ∧
      CutCloses .standard text 13 ∧ enclosingMethod? .standard text 13 = none ∧
      ¬ CutCloses .standard text 14 ∧
      enclosingMethod? .standard text 14 = enclosingMethod? .standard text 10 := by
  intro text
  have hk : IsBare Conventions.standard.methodKeyword := ⟨by decide, by decide⟩
  have he : IsBare Conventions.standard.blockEndKeyword := ⟨by decide, by decide⟩
  have hnone : definitionAt? "def" 0 (lineAt text 10) = none := rfl
  have hline : ∀ indent width, ¬ Opens "def" (lineAt text 10) indent width :=
    fun _ width h => definitionAt?_eq_none_iff.1 hnone width h.namesAt
  have hcut : CutCloses .standard text 13 := by
    have hlast : (definitions "def" (text.take 10)).getLast? = some ⟨0, 0, 4, "index"⟩ := rfl
    obtain ⟨width, hshown, -⟩ := LastShown.of_getLast? hk hlast
    exact ⟨_, _, width, hshown, by decide, by decide⟩
  have hwhole : ¬ CutCloses .standard text 14 := fun ⟨_, _, _, _, htrim, _⟩ =>
    absurd htrim (by decide)
  exact ⟨hk, he, hline, hcut, (enclosingMethod?_along_line .standard hk he text 13 hline).2.1 hcut,
    hwhole, (enclosingMethod?_along_line .standard hk he text 14 hline).1 hwhole⟩

/-- It is not enough that the whole line neither opens a method nor is an end. -/
theorem cut_line_hides_method :
    ¬ ∀ (text : Text) (cursor : Int),
      let c := clampOffset text cursor
      let line := lineAt text (lineStart text c)
      (∀ indent width, ¬ Opens Conventions.standard.methodKeyword line indent width) →
      Text.trim isBlank line ≠ Conventions.standard.blockEndKeyword →
      enclosingMethod? .standard text cursor =
        enclosingMethod? .standard text (lineStart text c) := by
  intro h
  have hnone : definitionAt? "def" 0 "end_date = 1" = none := rfl
  have hsame := h "def index\nend_date = 1\nend\n" 13
    (fun _ width h => definitionAt?_eq_none_iff.1 hnone width h.namesAt) (by decide)
  exact absurd hsame (by decide +kernel)

end Counterpart
