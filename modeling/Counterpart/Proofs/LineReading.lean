import Counterpart.Proofs.Enclosure
import Counterpart.Proofs.Positions

/-! The method around a cursor, read line by line. The last line that shows a name before the cursor
opens a method, and the cursor is in it unless a later line, as far as the cursor, holds the end
keyword alone and is indented no deeper. -/

namespace Counterpart

/-- A line starts where the text starts, and behind every newline. -/
def StartsLine (text : Text) (n : Nat) : Prop :=
  n = 0 ∨ ∃ before after, text = before ++ '\n' :: after ∧ n = before.length + 1

/-- The line that starts at an offset, without the newline that ends it. -/
def lineAt (text : Text) (start : Nat) : Text := (text.drop start).takeWhile (· != '\n')

/-- The line begins with so many blanks, the keyword, at least one blank more, and a word that
starts after `width` characters. -/
def Opens (keyword line : Text) (indent width : Nat) : Prop :=
  ∃ blanks gap c rest, line = blanks ++ (keyword ++ (gap ++ c :: rest)) ∧
    blanks.all isGap ∧ gap.all isGap ∧ gap ≠ [] ∧ isWord c ∧ indent = blanks.length ∧
    width = blanks.length + keyword.length + gap.length

/-- The line that starts at an offset opens a method, and its name starts before the cursor. -/
def Shown (keyword text : Text) (cursor start indent width : Nat) : Prop :=
  StartsLine text start ∧ Opens keyword (lineAt text start) indent width ∧ start + width < cursor

/-- No line further down is shown. -/
def LastShown (keyword text : Text) (cursor start indent width : Nat) : Prop :=
  Shown keyword text cursor start indent width ∧
    ∀ start' indent' width', Shown keyword text cursor start' indent' width' → start' ≤ start

/-- The line holds the end keyword and else only white space, of which no more than `indent`
characters stand in front. -/
def IsClosing (endKeyword : Text) (indent : Nat) (line : Text) : Prop :=
  Text.trim isBlank line = endKeyword ∧ leadingBlanks line ≤ indent

/-- One of the lines between a start and the cursor, cut at the cursor, is a closing line. -/
def ClosedAfter (endKeyword text : Text) (cursor start indent : Nat) : Prop :=
  ∃ later, start < later ∧ later ≤ cursor ∧ StartsLine text later ∧
    IsClosing endKeyword indent ((lineAt text later).take (cursor - later))

/-- A keyword without white space. -/
def IsBare (keyword : Text) : Prop := keyword ≠ [] ∧ keyword.all (!isBlank ·)

namespace IsBare

variable {keyword : Text}

theorem newline_not_mem (h : IsBare keyword) : '\n' ∉ keyword := fun hmem =>
  absurd (List.all_eq_true.1 h.2 _ hmem) (by decide)

theorem exists_cons (h : IsBare keyword) : ∃ c rest, keyword = c :: rest ∧ isGap c = false := by
  obtain ⟨c, rest, rfl⟩ := List.exists_cons_of_ne_nil h.1
  refine ⟨c, rest, rfl, Bool.eq_false_iff.2 fun hgap => ?_⟩
  simpa [isBlank_of_isGap hgap] using List.all_eq_true.1 h.2 c List.mem_cons_self

end IsBare

theorem startsLine_iff {text : Text} {n : Nat} :
    StartsLine text n ↔ (n, text.drop n) ∈ lineStarts text := by
  rw [mem_lineStarts, StartsLine]
  constructor
  · rintro (rfl | ⟨before, after, rfl, rfl⟩)
    · exact .inl ⟨rfl, rfl⟩
    · exact .inr ⟨before, by simp [List.drop_append], rfl⟩
  · rintro (⟨rfl, -⟩ | ⟨before, hafter, hn⟩)
    · exact .inl rfl
    · exact .inr ⟨before, _, hafter, hn⟩

theorem StartsLine.le_length {text : Text} {n : Nat} (h : StartsLine text n) : n ≤ text.length :=
  (eq_drop_of_mem_lineStarts (startsLine_iff.1 h)).2

theorem startsLine_take {text : Text} {n cursor : Nat} (h : n ≤ cursor) :
    StartsLine (text.take cursor) n ↔ StartsLine text n := by
  rw [startsLine_iff, startsLine_iff, mem_lineStarts_take h]

/-- Between two starts of lines stands the newline before the later one. -/
theorem StartsLine.count_lt {text : Text} {start later : Nat} (h : StartsLine text later)
    (hlt : start < later) : (text.take start).count '\n' < (text.take later).count '\n' := by
  rcases h with rfl | ⟨before, after, rfl, rfl⟩
  · exact absurd hlt (Nat.not_lt_zero _)
  · have hcount := (List.take_sublist start before).count_le '\n'
    rw [count_take_newline, List.take_append_of_le_length (by omega)]
    omega

theorem lineAt_take (text : Text) (start cursor : Nat) :
    lineAt (text.take cursor) start = (lineAt text start).take (cursor - start) := by
  rw [lineAt, lineAt, List.drop_take, List.take_takeWhile]

namespace Opens

variable {keyword line : Text} {indent width : Nat}

theorem namesAt (h : Opens keyword line indent width) : NamesAt keyword line width := by
  obtain ⟨blanks, gap, c, rest, hline, hblanks, hgap, hne, hc, -, hwidth⟩ := h
  exact ⟨blanks, gap, c, rest, hline, hblanks, hgap, hne, hc, hwidth⟩

theorem exists_of_namesAt (h : NamesAt keyword line width) :
    ∃ indent, Opens keyword line indent width := by
  obtain ⟨blanks, gap, c, rest, hline, hblanks, hgap, hne, hc, hwidth⟩ := h
  exact ⟨_, blanks, gap, c, rest, hline, hblanks, hgap, hne, hc, rfl, hwidth⟩

theorem append (h : Opens keyword line indent width) (more : Text) :
    Opens keyword (line ++ more) indent width := by
  obtain ⟨blanks, gap, c, rest, rfl, h⟩ := h
  exact ⟨blanks, gap, c, rest ++ more, by simp, h⟩

/-- A keyword that begins with no blank leaves one way to count the blanks in front of it. -/
theorem indent_eq (hk : IsBare keyword) (h : Opens keyword line indent width) :
    indent = (line.takeWhile isGap).length := by
  obtain ⟨blanks, gap, c, rest, rfl, hblanks, -, -, -, rfl, -⟩ := h
  obtain ⟨k, ks, rfl, hgap⟩ := hk.exists_cons
  rw [List.takeWhile_append_of_pos (List.all_eq_true.1 hblanks), List.cons_append,
    List.takeWhile_cons_of_neg (by simp [hgap]), List.append_nil]

theorem of_definitionAt? (hk : IsBare keyword) {start : Nat} {d : Definition}
    (h : definitionAt? keyword start line = some d) :
    ∃ width, Opens keyword line d.indent width ∧ d.nameStart = start + width := by
  obtain ⟨-, width, hw, hn, -⟩ := definitionAt?_eq_some h
  obtain ⟨indent, hopens⟩ := exists_of_namesAt hw
  have hindent : indent = d.indent := by
    rw [hopens.indent_eq hk]
    obtain ⟨k, ks, rfl, hgap⟩ := hk.exists_cons
    exact (definitionAt?_indent hgap h).symm
  exact ⟨width, hindent ▸ hopens, hn⟩

theorem lineAt_iff (hk : '\n' ∉ keyword) {text : Text} {start : Nat} :
    Opens keyword (lineAt text start) indent width ↔
      Opens keyword (text.drop start) indent width := by
  constructor
  · intro h
    have hmore := h.append ((text.drop start).dropWhile (· != '\n'))
    rwa [lineAt, List.takeWhile_append_dropWhile] at hmore
  · -- Nothing up to the name is a newline, so only what follows the name is cut off.
    rintro ⟨blanks, gap, c, rest, hline, hblanks, hgap, hne, hc, hcount⟩
    refine ⟨blanks, gap, c, rest.takeWhile (· != '\n'), ?_, hblanks, hgap, hne, hc, hcount⟩
    have hword : (c != '\n') = true := by
      simpa using fun he : c = '\n' => by simp [he, isWord_newline] at hc
    have hblanks' := bne_newline_of_not_mem (newline_not_mem_of_isGap hblanks)
    have hgap' := bne_newline_of_not_mem (newline_not_mem_of_isGap hgap)
    rw [lineAt, hline, List.takeWhile_append_of_pos hblanks',
      List.takeWhile_append_of_pos (bne_newline_of_not_mem hk),
      List.takeWhile_append_of_pos hgap', List.takeWhile_cons, if_pos hword]

end Opens

theorem shown_iff {keyword text : Text} {cursor start indent width : Nat} (hk : '\n' ∉ keyword) :
    Shown keyword text cursor start indent width ↔
      Visible keyword text cursor start width ∧ Opens keyword (text.drop start) indent width := by
  rw [Shown, Visible, startsLine_iff, Opens.lineAt_iff hk]
  constructor
  · rintro ⟨hstart, hopens, hlt⟩
    exact ⟨⟨hstart, hopens.namesAt, hlt⟩, hopens⟩
  · rintro ⟨⟨hstart, -, hlt⟩, hopens⟩
    exact ⟨hstart, hopens, hlt⟩

namespace LastShown

variable {keyword text : Text} {cursor start indent width : Nat}

theorem unique (hk : IsBare keyword) (h : LastShown keyword text cursor start indent width)
    {start' indent' width' : Nat} (h' : LastShown keyword text cursor start' indent' width') :
    start = start' ∧ indent = indent' ∧ width = width' := by
  obtain rfl : start = start' := Nat.le_antisymm (h'.2 _ _ _ h.1) (h.2 _ _ _ h'.1)
  obtain ⟨⟨-, hopens, -⟩, -⟩ := h
  obtain ⟨⟨-, hopens', -⟩, -⟩ := h'
  exact ⟨rfl, (hopens.indent_eq hk).trans (hopens'.indent_eq hk).symm,
    hopens.namesAt.unique hopens'.namesAt⟩

theorem of_getLast? (hk : IsBare keyword) {d : Definition}
    (h : (definitions keyword (text.take cursor)).getLast? = some d) :
    ∃ width, LastShown keyword text cursor d.start d.indent width ∧
      d.nameStart = d.start + width := by
  obtain ⟨width, ⟨hvisible, hlast⟩, hn⟩ := lastVisible_of_getLast? hk.newline_not_mem h
  obtain ⟨start, line, hmem, hd⟩ := mem_definitionsFrom (List.mem_of_getLast? h)
  obtain ⟨rfl, -⟩ := eq_drop_of_mem_lineStarts hmem
  obtain ⟨hstart, -⟩ := definitionAt?_eq_some hd
  obtain ⟨width', hcut, hn'⟩ := Opens.of_definitionAt? hk hd
  obtain rfl : width' = width := by omega
  have hopens : Opens keyword (text.drop d.start) d.indent width' := by
    rw [← hstart, List.drop_take] at hcut
    have hmore := hcut.append ((text.drop d.start).drop (cursor - d.start))
    rwa [List.take_append_drop] at hmore
  refine ⟨width', ⟨(shown_iff hk.newline_not_mem).2 ⟨hvisible, hopens⟩, ?_⟩, hn⟩
  intro start' indent' width' hshown
  exact hlast start' width' ((shown_iff hk.newline_not_mem).1 hshown).1

end LastShown

theorem splitOn_newline_eq (s : Text) (offset : Nat) : s.splitOn '\n' =
    s.takeWhile (· != '\n') ::
      (laterLines offset s).map fun (_, line) => line.takeWhile (· != '\n') := by
  induction s generalizing offset with
  | nil => simp [laterLines]
  | cons c s ih =>
    rw [List.splitOn_eq_splitOnP, List.splitOnP_cons_eq_if_modifyHead,
      ← List.splitOn_eq_splitOnP, ih (offset + 1)]
    by_cases hc : c = '\n'
    · simp [laterLines, hc]
    · simp [laterLines, hc]

/-- The lines of a body in their order are those that start behind the definition, and the newlines
before a line count it. -/
theorem getElem?_body_eq_some {d : Definition} {text line : Text} {i : Nat}
    (h : d.start ≤ text.length) :
    (d.body text)[i]? = some line ↔
      ∃ later, d.start < later ∧ StartsLine text later ∧ line = lineAt text later ∧
        (text.take later).count '\n' = (text.take d.start).count '\n' + i + 1 := by
  rw [Definition.body, splitOn_newline_eq _ d.start, List.tail_cons, List.getElem?_map,
    Option.map_eq_some_iff]
  constructor
  · rintro ⟨⟨later, rest⟩, hrest, rfl⟩
    obtain ⟨u, hu, rfl, rfl⟩ := getElem?_laterLines_eq_some.1 hrest
    have htext : text = (text.take d.start ++ u) ++ '\n' :: rest := by
      rw [List.append_assoc, ← hu, List.take_append_drop]
    have hlength : (text.take d.start ++ u).length = d.start + u.length := by
      rw [List.length_append, List.length_take, Nat.min_eq_left h]
    have hdrop : text.drop (d.start + u.length + 1) = rest := by
      rw [Nat.add_assoc, ← List.drop_drop, hu]
      simp
    have hcount := count_take_newline (text.take d.start ++ u) rest
    rw [← htext, hlength, List.count_append] at hcount
    refine ⟨d.start + u.length + 1, by omega, .inr ⟨_, rest, htext, by rw [hlength]⟩, ?_, hcount⟩
    rw [lineAt, hdrop]
  · rintro ⟨later, hlt, rfl | ⟨before, after, rfl, rfl⟩, rfl, hcount⟩
    · exact absurd hlt (Nat.not_lt_zero _)
    · have hle : d.start ≤ before.length := by omega
      have hbefore : (before.take d.start).count '\n' + (before.drop d.start).count '\n' =
          before.count '\n' := by
        rw [← List.count_append, List.take_append_drop]
      rw [count_take_newline, List.take_append_of_le_length hle] at hcount
      refine ⟨(before.length + 1, after),
        getElem?_laterLines_eq_some.2 ⟨before.drop d.start, ?_, ?_, by omega⟩, ?_⟩
      · rw [List.drop_append_of_le_length hle]
      · rw [List.length_drop]
        omega
      · rw [lineAt]
        simp

theorem mem_body {d : Definition} {text line : Text} (h : d.start ≤ text.length) :
    line ∈ d.body text ↔
      ∃ later, d.start < later ∧ StartsLine text later ∧ line = lineAt text later := by
  simp only [List.mem_iff_getElem?, getElem?_body_eq_some h]
  constructor
  · rintro ⟨i, later, hlt, hstarts, hline, -⟩
    exact ⟨later, hlt, hstarts, hline⟩
  · rintro ⟨later, hlt, hstarts, hline⟩
    obtain ⟨i, hi⟩ := Nat.exists_eq_add_of_lt (hstarts.count_lt hlt)
    exact ⟨i, later, hlt, hstarts, hline, hi⟩

theorem isClosed_iff {conv : Conventions} {d : Definition} {text : Text} {cursor : Nat}
    (he : conv.blockEndKeyword ≠ []) (h : d.start ≤ (text.take cursor).length) :
    d.isClosed conv (text.take cursor) ↔
      ClosedAfter conv.blockEndKeyword text cursor d.start d.indent := by
  rw [Definition.isClosed, List.any_eq_true]
  constructor
  · rintro ⟨line, hmem, hcloses⟩
    obtain ⟨later, hlt, hstarts, rfl⟩ := (mem_body h).1 hmem
    have hle := hstarts.le_length
    rw [List.length_take] at hle
    rw [closes_iff he, lineAt_take] at hcloses
    exact ⟨later, hlt, by omega, (startsLine_take (by omega)).1 hstarts, hcloses⟩
  · rintro ⟨later, hlt, hle, hstarts, hclosing⟩
    refine ⟨_, (mem_body h).2 ⟨later, hlt, (startsLine_take hle).2 hstarts, rfl⟩, ?_⟩
    rw [closes_iff he, lineAt_take]
    exact hclosing

theorem getLast?_eq_none_iff {keyword text : Text} {cursor : Nat} (hk : IsBare keyword) :
    (definitions keyword (text.take cursor)).getLast? = none ↔
      ∀ start indent width, ¬ Shown keyword text cursor start indent width := by
  constructor
  · intro hnone start indent width hshown
    obtain ⟨hvisible, -⟩ := (shown_iff hk.newline_not_mem).1 hshown
    obtain ⟨d, hmem, -⟩ := hvisible.exists_mem hk.newline_not_mem
    rw [List.getLast?_eq_none_iff.1 hnone] at hmem
    exact List.not_mem_nil hmem
  · intro hnone
    refine Option.eq_none_iff_forall_ne_some.2 fun d hd => ?_
    obtain ⟨width, hlast, -⟩ := LastShown.of_getLast? hk hd
    exact hnone _ _ _ hlast.1

variable {conv : Conventions} {text : Text} {cursor : Nat}

theorem enclosingMethod?_of_not_shown (hk : IsBare conv.methodKeyword)
    (h : ∀ start indent width, ¬ Shown conv.methodKeyword text cursor start indent width) :
    enclosingMethod? conv text cursor = none := by
  have hnone := (getLast?_eq_none_iff hk).2 h
  exact enclosingMethod?_of_none (List.getLast?_eq_none_iff.1 hnone)

theorem enclosingMethod?_of_lastShown (hk : IsBare conv.methodKeyword)
    (he : conv.blockEndKeyword ≠ []) {start indent width : Nat}
    (h : LastShown conv.methodKeyword text cursor start indent width) :
    (ClosedAfter conv.blockEndKeyword text cursor start indent →
      enclosingMethod? conv text cursor = none) ∧
    (¬ ClosedAfter conv.blockEndKeyword text cursor start indent →
      enclosingMethod? conv text cursor =
        some ((text.drop (start + width)).takeWhile isWord)) := by
  cases hd : (definitions conv.methodKeyword (text.take cursor)).getLast? with
  | none => exact absurd h.1 ((getLast?_eq_none_iff hk).1 hd _ _ _)
  | some d =>
    obtain ⟨width', hlast, hn⟩ := LastShown.of_getLast? hk hd
    obtain ⟨rfl, rfl, rfl⟩ := hlast.unique hk h
    have hstart := Definition.nameStart_lt (List.mem_of_getLast? hd)
    have hmethod : enclosingMethod? conv text cursor =
        if d.isClosed conv (text.take cursor) then none
        else some ((text.drop d.nameStart).takeWhile isWord) := enclosingMethod?_of_last hd
    rw [hmethod, ← isClosed_iff he (by omega), hn]
    exact ⟨fun hclosed => if_pos hclosed, fun hopen => if_neg hopen⟩

theorem exists_lastShown {keyword : Text} (hk : IsBare keyword) (text : Text) (cursor : Nat) :
    (∃ start indent width, LastShown keyword text cursor start indent width) ∨
      ∀ start indent width, ¬ Shown keyword text cursor start indent width := by
  cases hd : (definitions keyword (text.take cursor)).getLast? with
  | some d =>
    obtain ⟨width, hlast, -⟩ := LastShown.of_getLast? hk hd
    exact .inl ⟨_, _, _, hlast⟩
  | none => exact .inr ((getLast?_eq_none_iff hk).1 hd)

theorem enclosingMethod?_clampOffset (conv : Conventions) (text : Text) (cursor : Int) :
    enclosingMethod? conv text (clampOffset text cursor) = enclosingMethod? conv text cursor := by
  simp only [enclosingMethod?, enclosure, clampOffset_clampOffset]

/-- The method around a cursor is the one that the last line shown before the cursor opens, under
its whole name, unless a later line closes it; and there is none if no line is shown. The reading of
that line in the whole text never fails. -/
theorem enclosingMethod?_by_lines (conv : Conventions) (hk : IsBare conv.methodKeyword)
    (he : IsBare conv.blockEndKeyword) (text : Text) (cursor : Int) :
    let c := clampOffset text cursor
    (∀ name, enclosingMethod? conv text cursor = some name ↔
      ∃ start indent width, LastShown conv.methodKeyword text c start indent width ∧
        ¬ ClosedAfter conv.blockEndKeyword text c start indent ∧
        (text.drop (start + width)).takeWhile isWord = name) ∧
    (enclosingMethod? conv text cursor = none ↔
      (∀ start indent width, ¬ Shown conv.methodKeyword text c start indent width) ∨
      ∃ start indent width, LastShown conv.methodKeyword text c start indent width ∧
        ClosedAfter conv.blockEndKeyword text c start indent) ∧
    ∀ d, (definitions conv.methodKeyword (text.take c)).getLast? = some d →
      (definitionAt? conv.methodKeyword d.start (text.drop d.start)).isSome := by
  intro c
  have hclamp : enclosingMethod? conv text cursor = enclosingMethod? conv text c :=
    (enclosingMethod?_clampOffset conv text cursor).symm
  rw [hclamp]
  refine ⟨fun name => ⟨fun hname => ?_, ?_⟩, ⟨fun hnone => ?_, ?_⟩, fun d hd => ?_⟩
  · rcases exists_lastShown hk text c with ⟨start, indent, width, hlast⟩ | hnot
    · obtain ⟨hclosed, hopen⟩ := enclosingMethod?_of_lastShown hk he.1 hlast
      have hstill : ¬ ClosedAfter conv.blockEndKeyword text c start indent := fun h => by
        simp [hclosed h] at hname
      exact ⟨start, indent, width, hlast, hstill,
        Option.some.inj ((hopen hstill).symm.trans hname)⟩
    · simp [enclosingMethod?_of_not_shown hk hnot] at hname
  · rintro ⟨start, indent, width, hlast, hopen, rfl⟩
    exact (enclosingMethod?_of_lastShown hk he.1 hlast).2 hopen
  · rcases exists_lastShown hk text c with ⟨start, indent, width, hlast⟩ | hnot
    · refine .inr ⟨start, indent, width, hlast, ?_⟩
      by_contra hopen
      simp [(enclosingMethod?_of_lastShown hk he.1 hlast).2 hopen] at hnone
    · exact .inl hnot
  · rintro (hnot | ⟨start, indent, width, hlast, hclosed⟩)
    · exact enclosingMethod?_of_not_shown hk hnot
    · exact (enclosingMethod?_of_lastShown hk he.1 hlast).1 hclosed
  · obtain ⟨width, ⟨⟨-, hopens, -⟩, -⟩, -⟩ := LastShown.of_getLast? hk hd
    have hnames := ((Opens.lineAt_iff hk.newline_not_mem).1 hopens).namesAt
    obtain ⟨whole, hwhole, -⟩ := hnames.exists_definitionAt? d.start
    rw [hwhole]
    rfl

/-- The cursor cuts the second name, and the method before is closed. -/
theorem cut_name_by_lines :
    let conv : Conventions := { methodKeyword := "fn", blockEndKeyword := "done" }
    let text : Text := "fn index\n  foo\ndone\n\tfn show\n"
    IsBare conv.methodKeyword ∧ IsBare conv.blockEndKeyword ∧
      enclosingMethod? conv text 20 = none ∧
      (∃ start indent width, LastShown "fn" text 26 start indent width ∧
        ¬ ClosedAfter "done" text 26 start indent ∧
        (text.drop (start + width)).takeWhile isWord = "show") := by
  intro conv text
  have hk : IsBare conv.methodKeyword := ⟨by decide, by decide⟩
  have he : IsBare conv.blockEndKeyword := ⟨by decide, by decide⟩
  have hname : enclosingMethod? conv text 26 = some "show" := by decide +kernel
  exact ⟨hk, he, by decide +kernel,
    ((enclosingMethod?_by_lines conv hk he text 26).1 "show").1 hname⟩

end Counterpart
