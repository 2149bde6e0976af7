import Counterpart.Event
import Counterpart.Proofs.CutLine

/-! The line at which a method is found closed. The journal counts it from the definition on, over
the lines of a text that is cut at the cursor. It is the line that positions in the whole text give
to the first closing line below the definition. -/

namespace Counterpart

/-- The line that starts at an offset, as far as it stands before the cursor, closes a method of
that indentation. -/
def ClosesAt (endKeyword text : Text) (cursor indent n : Nat) : Prop :=
  StartsLine text n ∧ IsClosing endKeyword indent ((lineAt text n).take (cursor - n))

/-- The first closing line of all that start below the line at `start`. -/
def FirstClosing (endKeyword text : Text) (cursor start indent later : Nat) : Prop :=
  IsLeast {n | start < n ∧ ClosesAt endKeyword text cursor indent n} later

theorem positionOf_line {text : Text} {offset : Nat} (h : offset ≤ text.length) :
    (positionOf text offset).line = (text.take offset).count '\n' + 1 := by
  rw [positionOf_eq, clampOffset_natCast h]

/-- A cut behind a place does not change the count of its line. -/
theorem positionOf_line_of_cut {text : Text} {cursor offset : Nat}
    (h : offset ≤ (text.take cursor).length) :
    (positionOf text offset).line = ((text.take cursor).take offset).count '\n' + 1 := by
  rw [List.length_take] at h
  rw [positionOf_line (by omega), List.take_take, Nat.min_eq_left (by omega)]

theorem StartsLine.line_lt {text : Text} {start later : Nat} (h : StartsLine text later)
    (hlt : start < later) : (positionOf text start).line < (positionOf text later).line := by
  have hle := h.le_length
  rw [positionOf_line hle, positionOf_line (by omega)]
  exact Nat.succ_lt_succ (h.count_lt hlt)

/-- A search through the body of a definition ends at the first line below it that fits, and the
newlines before that line tell how many lines were passed over. -/
theorem findIdx?_body_eq_some {d : Definition} {text : Text} {p : Text → Bool} {i : Nat}
    (h : d.start ≤ text.length) :
    (d.body text).findIdx? p = some i ↔
      ∃ later, IsLeast {n | d.start < n ∧ StartsLine text n ∧ p (lineAt text n)} later ∧
        (text.take later).count '\n' = (text.take d.start).count '\n' + i + 1 := by
  rw [List.findIdx?_eq_some_iff_getElem]
  constructor
  · rintro ⟨hi, hp, hfirst⟩
    obtain ⟨later, hlt, hstarts, hline, hcount⟩ :=
      (getElem?_body_eq_some h).1 (List.getElem?_eq_getElem hi)
    refine ⟨later, ⟨⟨hlt, hstarts, hline ▸ hp⟩, ?_⟩, hcount⟩
    rintro n ⟨hn, hnstarts, hpn⟩
    -- A line further up has a smaller index, and there the search would have ended.
    by_contra hbefore
    obtain ⟨j, hj⟩ := Nat.exists_eq_add_of_lt (hnstarts.count_lt hn)
    have hbelow := hstarts.count_lt (Nat.lt_of_not_le hbefore)
    obtain ⟨hjlen, hjline⟩ := List.getElem?_eq_some_iff.1
      ((getElem?_body_eq_some h).2 ⟨n, hn, hnstarts, rfl, hj⟩)
    exact hfirst j (by omega) (hjline ▸ hpn)
  · rintro ⟨later, ⟨⟨hlt, hstarts, hp⟩, hleast⟩, hcount⟩
    obtain ⟨hi, hline⟩ := List.getElem?_eq_some_iff.1
      ((getElem?_body_eq_some h).2 ⟨later, hlt, hstarts, rfl, hcount⟩)
    refine ⟨hi, hline ▸ hp, fun j hji hpj => ?_⟩
    obtain ⟨n, hn, hnstarts, hnline, hncount⟩ :=
      (getElem?_body_eq_some h).1 (List.getElem?_eq_getElem (Nat.lt_trans hji hi))
    have hle : later ≤ n := hleast ⟨hn, hnstarts, hnline ▸ hpj⟩
    rcases Nat.lt_or_eq_of_le hle with hbelow | rfl
    · have := hnstarts.count_lt hbelow
      omega
    · omega

section Closing

variable {endKeyword text : Text} {cursor start indent later : Nat}

theorem ClosesAt.lt (he : endKeyword ≠ []) (h : ClosesAt endKeyword text cursor indent later) :
    later < cursor := by
  obtain ⟨-, hclosing⟩ := h
  by_contra hle
  rw [Nat.sub_eq_zero_of_le (by omega), List.take_zero] at hclosing
  exact not_isClosing_nil he hclosing

theorem closesAt_iff (he : endKeyword ≠ []) : ClosesAt endKeyword text cursor indent later ↔
    StartsLine (text.take cursor) later ∧
      closes endKeyword indent (lineAt (text.take cursor) later) := by
  rw [closes_iff he, lineAt_take]
  constructor
  · intro h
    exact ⟨(startsLine_take (h.lt he).le).2 h.1, h.2⟩
  · rintro ⟨hstarts, hclosing⟩
    have hle := hstarts.le_length
    rw [List.length_take] at hle
    exact ⟨(startsLine_take (by omega)).1 hstarts, hclosing⟩

theorem FirstClosing.line_lt (h : FirstClosing endKeyword text cursor start indent later) :
    (positionOf text start).line < (positionOf text later).line :=
  h.1.2.1.line_lt h.1.1

/-- Of the lines that the cursor does not cut, the first that closes is the first of the whole text
that does. -/
theorem FirstClosing.isLeast_of_le (h : FirstClosing endKeyword text cursor start indent later)
    (hend : later + (lineAt text later).length ≤ cursor) :
    IsLeast {n | start < n ∧ StartsLine text n ∧ IsClosing endKeyword indent (lineAt text n)}
      later := by
  obtain ⟨⟨hlt, hstarts, hclosing⟩, hleast⟩ := h
  rw [List.take_of_length_le (by omega)] at hclosing
  refine ⟨⟨hlt, hstarts, hclosing⟩, ?_⟩
  rintro n ⟨hn, hnstarts, hnclosing⟩
  by_contra hbefore
  have hnend := hstarts.add_length_lt (Nat.lt_of_not_le hbefore)
  refine hbefore (hleast ⟨hn, hnstarts, ?_⟩)
  rwa [List.take_of_length_le (by omega)]

end Closing

variable {conv : Conventions} {text name : Text} {cursor line : Nat}

theorem findIdx?_closes_eq_some {d : Definition} {i : Nat} (he : conv.blockEndKeyword ≠ [])
    (h : d.start ≤ (text.take cursor).length) :
    (d.body (text.take cursor)).findIdx? (closes conv.blockEndKeyword d.indent) = some i ↔
      ∃ later, FirstClosing conv.blockEndKeyword text cursor d.start d.indent later ∧
        (positionOf text later).line = (positionOf text d.start).line + i + 1 := by
  rw [findIdx?_body_eq_some h]
  simp only [FirstClosing, closesAt_iff he]
  refine exists_congr fun later => and_congr_right fun hleast => ?_
  rw [positionOf_line_of_cut hleast.1.2.1.le_length, positionOf_line_of_cut h]
  omega

/-- The line is counted from the start of the definition on. -/
theorem enclosure_eq_closed_iff_of_last {d : Definition}
    (h : (definitions conv.methodKeyword (text.take cursor)).getLast? = some d) :
    enclosure conv text cursor = .closed name line ↔
      ∃ i, (d.body (text.take cursor)).findIdx? (closes conv.blockEndKeyword d.indent) = some i ∧
        (text.drop d.nameStart).takeWhile isWord = name ∧
        (positionOf text d.start).line + i + 1 = line := by
  have hname := Definition.nameStart_lt (List.mem_of_getLast? h)
  have hstart : d.start ≤ (text.take cursor).length := by omega
  have hline (i : Nat) : ((text.take cursor).take d.start).count '\n' + i + 2 =
      (positionOf text d.start).line + i + 1 := by
    rw [positionOf_line_of_cut hstart]
    omega
  have hlast : (definitions conv.methodKeyword (text.take (cursor : Int).toNat)).getLast? =
      some d := h
  rw [enclosure_of_last hlast, Int.toNat_natCast]
  simp only [hline]
  cases (d.body (text.take cursor)).findIdx? (closes conv.blockEndKeyword d.indent) <;> simp

theorem enclosure_eq_closed_iff (hk : IsBare conv.methodKeyword)
    (he : conv.blockEndKeyword ≠ []) :
    enclosure conv text cursor = .closed name line ↔
      ∃ start indent width later, LastShown conv.methodKeyword text cursor start indent width ∧
        FirstClosing conv.blockEndKeyword text cursor start indent later ∧
        (text.drop (start + width)).takeWhile isWord = name ∧
        (positionOf text later).line = line := by
  cases hd : (definitions conv.methodKeyword (text.take cursor)).getLast? with
  | none =>
    have hnone : enclosure conv text cursor = .outside :=
      enclosure_of_none (List.getLast?_eq_none_iff.1 hd)
    constructor
    · intro hclosed
      simp [hnone] at hclosed
    · rintro ⟨start, indent, width, later, hlast, -⟩
      exact absurd hlast.1 ((getLast?_eq_none_iff hk).1 hd _ _ _)
  | some d =>
    obtain ⟨width, hlast, hn⟩ := LastShown.of_getLast? hk hd
    have hstart := Definition.nameStart_lt (List.mem_of_getLast? hd)
    rw [enclosure_eq_closed_iff_of_last hd, hn]
    constructor
    · rintro ⟨i, hi, hname, rfl⟩
      obtain ⟨later, hfirst, hline⟩ := (findIdx?_closes_eq_some he (by omega)).1 hi
      exact ⟨d.start, d.indent, width, later, hlast, hfirst, hname, hline⟩
    · rintro ⟨start, indent, width', later, hlast', hfirst, hname, rfl⟩
      obtain ⟨rfl, rfl, rfl⟩ := hlast.unique hk hlast'
      obtain ⟨i, hi⟩ := Nat.exists_eq_add_of_lt hfirst.line_lt
      exact ⟨i, (findIdx?_closes_eq_some he (by omega)).2 ⟨later, hfirst, hi⟩, hname, hi.symm⟩

/-- A method is found closed just when the last one shown before the cursor has a closing line below
it, and the line in the journal is that of the first. It is a line further down than the
definition's, it starts before the cursor, and unless the cursor cuts it, no line of the whole text
closes the method earlier. -/
theorem methodClosed_iff_firstClosing (conv : Conventions) (hk : IsBare conv.methodKeyword)
    (he : IsBare conv.blockEndKeyword) (text : Text) (cursor : Int) :
    let c := clampOffset text cursor
    (∀ name line, Event.ofEnclosure c (enclosure conv text cursor) = .methodClosed name line c ↔
      ∃ start indent width later, LastShown conv.methodKeyword text c start indent width ∧
        FirstClosing conv.blockEndKeyword text c start indent later ∧
        (text.drop (start + width)).takeWhile isWord = name ∧
        (positionOf text later).line = line) ∧
    ∀ start indent width later, LastShown conv.methodKeyword text c start indent width →
      FirstClosing conv.blockEndKeyword text c start indent later →
        enclosingMethod? conv text cursor = none ∧
        (positionOf text start).line < (positionOf text later).line ∧ later < c ∧
        (later + (lineAt text later).length ≤ c → IsLeast
          {n | start < n ∧ StartsLine text n ∧
            IsClosing conv.blockEndKeyword indent (lineAt text n)} later) := by
  intro c
  have hclamp : enclosure conv text cursor = enclosure conv text c := by
    simp only [c, enclosure, clampOffset_clampOffset]
  refine ⟨fun name line => ?_, fun start indent width later hlast hfirst => ?_⟩
  · rw [hclamp, Event.ofEnclosure_eq_methodClosed_iff]
    exact enclosure_eq_closed_iff hk he.1
  · have hclosed := (enclosure_eq_closed_iff hk he.1).2
      ⟨start, indent, width, later, hlast, hfirst, rfl, rfl⟩
    refine ⟨?_, hfirst.line_lt, hfirst.1.2.lt he.1, hfirst.isLeast_of_le⟩
    rw [enclosingMethod?, hclamp, hclosed]
    rfl

/-- An end that is indented deeper is passed over, and of two closing lines the first counts, also
where the definition is not on the first line. -/
theorem indented_index_closed :
    let text : Text := "class A\n  def index\n    3.times do\n    end\n  end\nend\n"
    IsBare Conventions.standard.methodKeyword ∧ IsBare Conventions.standard.blockEndKeyword ∧
      Event.ofEnclosure 53 (enclosure .standard text 90) = .methodClosed "index" 5 53 ∧
      ∃ start indent width later, LastShown "def" text 53 start indent width ∧
        FirstClosing "end" text 53 start indent later ∧ (positionOf text later).line = 5 ∧
        (positionOf text start).line < 5 ∧ later < 53 ∧
        later + (lineAt text later).length ≤ 53 ∧
        IsLeast {n | start < n ∧ StartsLine text n ∧ IsClosing "end" indent (lineAt text n)}
          later := by
  intro text
  have hk : IsBare Conventions.standard.methodKeyword := ⟨by decide, by decide⟩
  have he : IsBare Conventions.standard.blockEndKeyword := ⟨by decide, by decide⟩
  have hevent : Event.ofEnclosure 53 (enclosure .standard text 90) =
      .methodClosed "index" 5 53 := by
    have hclosed : enclosure .standard text 90 = .closed "index" 5 := by decide +kernel
    rw [hclosed]
    rfl
  obtain ⟨hiff, hfacts⟩ := methodClosed_iff_firstClosing .standard hk he text 90
  obtain ⟨start, indent, width, later, hlast, hfirst, -, hline⟩ := (hiff "index" 5).1 hevent
  obtain ⟨-, hbelow, hbefore, hwhole⟩ := hfacts start indent width later hlast hfirst
  have hends : ∀ n < 53, n + (lineAt text n).length ≤ 53 := by decide +kernel
  have hend := hends later hbefore
  exact ⟨hk, he, hevent, start, indent, width, later, hlast, hfirst, hline, hline ▸ hbelow,
    hbefore, hend, hwhole hend⟩

end Counterpart
