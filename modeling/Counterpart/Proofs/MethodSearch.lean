import Counterpart.Proofs.Enclosure

/-! The two searches of a text undo each other: one goes from a name to the end of its first
definition, the other from a cursor to the name of the method around it. -/

namespace Counterpart

variable {conv : Conventions} {text action : Text}

/-- A word ends where no word character follows. -/
theorem takeWhile_isWord_append {word : Text} (hw : word.all isWord) (after : Text) :
    (word ++ after).takeWhile isWord = word ↔ after.head?.any isWord = false := by
  rw [List.takeWhile_append_of_pos (List.all_eq_true.1 hw)]
  cases after with
  | nil => simp
  | cons c after => cases hc : isWord c <;> simp [hc]

theorem isWordEdge_iff {after : Text} (ha : action ≠ []) (hw : action.all isWord) :
    isWordEdge action after ↔ (action ++ after).takeWhile isWord = action := by
  have hlast : action.getLast?.any isWord = true := by
    rw [List.getLast?_eq_some_getLast ha]
    exact List.all_eq_true.1 hw _ (List.getLast_mem ha)
  rw [takeWhile_isWord_append hw, isWordEdge, hlast]
  simp

/-- What the search for a definition reads on the line that starts at an offset. -/
def offsetOnLine? (conv : Conventions) (action : Text) (start : Nat) (line : Text) : Option Nat :=
  (headings conv.methodKeyword line).findSome? fun h =>
    match action.isPrefixOf? h.rest with
    | some after =>
      if isWordEdge action after then some (start + h.width + action.length) else none
    | none => none

theorem methodOffset?_eq : methodOffset? conv text action =
    (lineStarts text).findSome? fun (start, line) => offsetOnLine? conv action start line := rfl

theorem offsetOnLine?_eq_some {start offset : Nat} {line : Text}
    (h : offsetOnLine? conv action start line = some offset) :
    ∃ heading ∈ headings conv.methodKeyword line, ∃ after, heading.rest = action ++ after ∧
      isWordEdge action after ∧ offset = start + heading.width + action.length := by
  obtain ⟨heading, hmem, hh⟩ := List.exists_of_findSome?_eq_some h
  cases hp : action.isPrefixOf? heading.rest with
  | none => simp [hp] at hh
  | some after =>
    by_cases he : isWordEdge action after = true
    · simp only [hp, if_pos he, Option.some.injEq] at hh
      exact ⟨heading, hmem, after, (List.isPrefixOf?_eq_some_iff_append_eq.1 hp).symm, he, hh.symm⟩
    · simp [hp, he] at hh

theorem methodOffset?_le {offset : Nat} (h : methodOffset? conv text action = some offset) :
    offset ≤ text.length := by
  obtain ⟨⟨start, line⟩, hmem, hline⟩ := List.exists_of_findSome?_eq_some h
  obtain ⟨heading, hheading, after, hrest, -, rfl⟩ := offsetOnLine?_eq_some hline
  obtain ⟨indent, gap, hread, -, -, -, -, hwidth⟩ := mem_headings.1 hheading
  obtain ⟨hdrop, hle⟩ := eq_drop_of_mem_lineStarts hmem
  have hlength : line.length = text.length - start := by rw [hdrop, List.length_drop]
  rw [hread, hrest] at hlength
  simp only [List.length_append] at hlength
  omega

/-- A line has one place for a name, so a word is found on it just when it is the name there. -/
theorem offsetOnLine?_eq (ha : action ≠ []) (hw : action.all isWord) (start : Nat) (line : Text) :
    offsetOnLine? conv action start line =
      (definitionAt? conv.methodKeyword start line).bind fun d =>
        if d.name = action then some d.stop else none := by
  have hnames {heading : Heading} (hmem : heading ∈ headings conv.methodKeyword line)
      {after : Text} (hr : heading.rest = action ++ after) :
      NamesAt conv.methodKeyword line heading.width ∧ line.drop heading.width = heading.rest := by
    obtain ⟨indent, gap, hline, hi, hg, hne, -, hwidth⟩ := mem_headings.1 hmem
    obtain ⟨c, s, rfl⟩ := List.exists_cons_of_ne_nil ha
    refine ⟨⟨indent, gap, c, s ++ after, ?_, hi, hg, hne, ?_, hwidth⟩, ?_⟩
    · rw [hline, hr, List.cons_append]
    · exact List.all_eq_true.1 hw c List.mem_cons_self
    · rw [hline, hwidth, drop_heading]
  have hsound {offset : Nat} (h : offsetOnLine? conv action start line = some offset) :
      ∃ d, definitionAt? conv.methodKeyword start line = some d ∧ d.name = action ∧
        d.stop = offset := by
    obtain ⟨heading, hmem, after, hr, he, rfl⟩ := offsetOnLine?_eq_some h
    obtain ⟨hn, hdrop⟩ := hnames hmem hr
    obtain ⟨d, hd, -, hstart, hname⟩ := hn.exists_definitionAt? start
    rw [hdrop, hr, (isWordEdge_iff ha hw).1 he] at hname
    exact ⟨d, hd, hname, by rw [Definition.stop, hstart, hname]⟩
  cases ho : offsetOnLine? conv action start line with
  | some offset =>
    obtain ⟨d, hd, hname, hstop⟩ := hsound ho
    rw [hd, Option.bind_some, if_pos hname, hstop]
  | none =>
    cases hd : definitionAt? conv.methodKeyword start line with
    | none => rfl
    | some d =>
      have hname : d.name ≠ action := by
        rintro rfl
        obtain ⟨heading, hmem, hh⟩ := List.exists_of_findSome?_eq_some hd
        have hrest : d.name = heading.rest.takeWhile isWord := by
          dsimp only at hh
          split at hh
          · simp at hh
          · rw [← Option.some.inj hh]
        have hsplit : heading.rest = d.name ++ heading.rest.dropWhile isWord := by
          rw [hrest, List.takeWhile_append_dropWhile]
        have hedge := (isWordEdge_iff ha hw).2 (hsplit ▸ hrest.symm)
        have hnone := List.findSome?_eq_none_iff.1 ho heading hmem
        simp [List.isPrefixOf?_eq_some_iff_append_eq.2 hsplit.symm, hedge] at hnone
      rw [Option.bind_some, if_neg hname]

/-- A word is found at the end of the first definition of that name. -/
theorem methodOffset?_eq_find? (h : '\n' ∉ conv.methodKeyword) (ha : action ≠ [])
    (hw : action.all isWord) :
    methodOffset? conv text action =
      ((definitions conv.methodKeyword text).find? (·.name == action)).map Definition.stop := by
  rw [definitions_eq_filterMap h, methodOffset?_eq]
  simp only [offsetOnLine?_eq ha hw]
  induction lineStarts text with
  | nil => rfl
  | cons p lines ih =>
    obtain ⟨start, line⟩ := p
    rw [List.findSome?_cons, List.filterMap_cons]
    cases hd : definitionAt? conv.methodKeyword start line with
    | none => exact ih
    | some d =>
      by_cases hn : d.name = action
      · simp [hn]
      · simpa [hn] using ih

theorem newline_not_mem_heading {keyword line : Text} {width : Nat} (h : '\n' ∉ keyword)
    (hn : NamesAt keyword line width) :
    '\n' ∉ line.take (width + ((line.drop width).takeWhile isWord).length) := by
  obtain ⟨indent, gap, c, rest, rfl, hi, hg, -, -, hwidth⟩ := hn
  have hhead : width = (indent ++ (keyword ++ gap)).length := by
    simp only [hwidth, List.length_append, Nat.add_assoc]
  have hline : indent ++ (keyword ++ (gap ++ c :: rest)) =
      (indent ++ (keyword ++ gap)) ++ c :: rest := by simp
  rw [hline, hhead, List.drop_left, List.take_length_add_append, ← List.prefix_iff_eq_take.1
    (List.takeWhile_prefix isWord)]
  simp only [List.mem_append, not_or]
  exact ⟨⟨newline_not_mem_of_isGap hi, h, newline_not_mem_of_isGap hg⟩,
    newline_not_mem_of_isWord List.all_takeWhile⟩

theorem enclosingMethod?_of_namesAt {line : Text} {width : Nat} (h : '\n' ∉ conv.methodKeyword)
    (hn : NamesAt conv.methodKeyword line width) :
    let name := (line.drop width).takeWhile isWord
    definitions conv.methodKeyword (line.take (width + name.length)) ≠ [] ∧
      enclosingMethod? conv line ((width + name.length : Nat) : Int) = some name := by
  intro name
  have hname : 0 < name.length := by
    obtain ⟨indent, gap, c, rest, rfl, -, -, -, hc, rfl⟩ := hn
    simp [name, drop_heading, hc]
  have hline := newline_not_mem_heading h hn
  obtain ⟨d, hd, hs, hstart, -⟩ := (hn.take (n := width + name.length) (by omega))
    |>.exists_definitionAt? 0
  have hdefs : definitions conv.methodKeyword (line.take (width + name.length)) = [d] := by
    rw [definitions_of_line hline, hd]
    rfl
  have hopen : d.isClosed conv (line.take (width + name.length)) = false := by
    rw [Definition.isClosed, Definition.body, hs, List.drop_zero, List.splitOn_eq_singleton hline]
    rfl
  refine ⟨by simp [hdefs], ?_⟩
  have hlast : (definitions conv.methodKeyword
      (line.take ((width + name.length : Nat) : Int).toNat)).getLast? = some d := by
    rw [Int.toNat_natCast, hdefs]
    rfl
  rw [enclosingMethod?_of_last hlast, Int.toNat_natCast, hopen, hstart, Nat.zero_add]
  rfl

theorem enclosingMethod?_stop (h : '\n' ∉ conv.methodKeyword) {d : Definition}
    (hd : d ∈ definitions conv.methodKeyword text) :
    enclosingMethod? conv text d.stop = some d.name := by
  obtain ⟨hmem, width, hw, hn, hname, -⟩ := mem_definitions hd
  have hdrop : text.drop d.nameStart = (text.drop d.start).drop width := by
    rw [List.drop_drop, hn]
  obtain ⟨hdefs, hopen⟩ := enclosingMethod?_of_namesAt h hw
  rw [← hdrop, ← hname] at hdefs hopen
  rw [Definition.stop, hn]
  generalize text.drop d.start = line at *
  rcases mem_lineStarts.1 hmem with ⟨hs, rfl⟩ | ⟨u, rfl, hs⟩
  · rw [hs, Nat.zero_add]
    exact hopen
  · rw [hs, Nat.add_assoc (u.length + 1)]
    exact (enclosingMethod?_of_later h hdefs).trans hopen

theorem exists_definition_of_enclosingMethod? (h : '\n' ∉ conv.methodKeyword) {cursor : Int}
    {name : Text} (he : enclosingMethod? conv text cursor = some name) :
    ∃ d ∈ definitions conv.methodKeyword text, d.name = name ∧ ∃ width,
      LastVisible conv.methodKeyword text (clampOffset text cursor) d.start width ∧
        d.nameStart = d.start + width := by
  cases hd : (definitions conv.methodKeyword (text.take cursor.toNat)).getLast? with
  | none =>
    rw [enclosingMethod?_of_none (List.getLast?_eq_none_iff.1 hd)] at he
    simp at he
  | some e =>
    rw [enclosingMethod?_of_last hd] at he
    rw [← take_clampOffset] at hd
    obtain ⟨width, hlast, hn⟩ := lastVisible_of_getLast? h hd
    obtain ⟨hmem, hw, -⟩ := hlast.1
    obtain ⟨d, hd', hs, hn', hname⟩ := hw.exists_definitionAt? e.start
    refine ⟨d, ?_, ?_, width, hs ▸ hlast, by rw [hs, hn']⟩
    · rw [definitions_eq_filterMap h]
      exact List.mem_filterMap.2 ⟨_, hmem, hd'⟩
    · rw [hname, List.drop_drop, ← hn]
      split at he
      · simp at he
      · exact Option.some.inj he

/-- The end of the first definition that has the name of the method around the cursor. -/
def home? (conv : Conventions) (text : Text) (cursor : Int) : Option Nat :=
  (enclosingMethod? conv text cursor).bind (methodOffset? conv text)

theorem enclosingMethod?_methodOffset? (h : '\n' ∉ conv.methodKeyword) (ha : action ≠ [])
    (hw : action.all isWord) {offset : Nat} (ho : methodOffset? conv text action = some offset) :
    enclosingMethod? conv text offset = some action := by
  rw [methodOffset?_eq_find? h ha hw] at ho
  obtain ⟨d, hd, rfl⟩ := Option.map_eq_some_iff.1 ho
  have hname : d.name = action := by simpa using List.find?_some hd
  rw [enclosingMethod?_stop h (List.mem_of_find?_eq_some hd), hname]

theorem methodOffset?_enclosingMethod? (h : '\n' ∉ conv.methodKeyword) {cursor : Int}
    {name : Text} (he : enclosingMethod? conv text cursor = some name) :
    name ≠ [] ∧ name.all isWord ∧ ∃ offset start width,
      methodOffset? conv text name = some offset ∧
      LastVisible conv.methodKeyword text (clampOffset text cursor) start width ∧
      (text.drop (start + width)).takeWhile isWord = name ∧
      offset ≤ start + width + name.length := by
  obtain ⟨d, hd, rfl, width, hlast, hn⟩ := exists_definition_of_enclosingMethod? h he
  obtain ⟨-, -, -, -, hname, hne⟩ := mem_definitions hd
  have hw : d.name.all isWord := hname ▸ List.all_takeWhile
  have hfind : ((definitions conv.methodKeyword text).find? (·.name == d.name)).isSome :=
    List.find?_isSome.2 ⟨d, hd, by simp⟩
  obtain ⟨e, hfirst⟩ := Option.isSome_iff_exists.1 hfind
  refine ⟨hne, hw, e.stop, d.start, width, ?_, hlast, by rw [← hn, ← hname], ?_⟩
  · rw [methodOffset?_eq_find? h hne hw, hfirst]
    rfl
  · -- The definition around the cursor is the first of its name, or a later one.
    obtain ⟨-, before, after, hdefs, hbefore⟩ := List.find?_eq_some_iff_append.1 hfirst
    have hpair := definitions_pairwise h text
    rw [hdefs] at hd hpair
    have hstop : d.stop = d.start + width + d.name.length := by rw [Definition.stop, hn]
    rcases List.mem_append.1 hd with hd | hd
    · simpa using hbefore d hd
    · rcases List.mem_cons.1 hd with rfl | hd
      · exact Nat.le_of_eq hstop
      · have := (List.pairwise_cons.1 (List.pairwise_append.1 hpair).2.1).1 d hd
        omega

/-- From a word to its definition and back is the word. From a cursor to the method around it and
on to a definition is a place no further than that of the name around the cursor, and going on from
there changes nothing. -/
theorem method_searches_inverse (conv : Conventions) (text : Text)
    (h : '\n' ∉ conv.methodKeyword) :
    (∀ action offset, action ≠ [] → action.all isWord →
      methodOffset? conv text action = some offset →
      enclosingMethod? conv text offset = some action) ∧
    (∀ cursor name, enclosingMethod? conv text cursor = some name →
      name ≠ [] ∧ name.all isWord ∧ ∃ offset start width,
        methodOffset? conv text name = some offset ∧
        LastVisible conv.methodKeyword text (clampOffset text cursor) start width ∧
        (text.drop (start + width)).takeWhile isWord = name ∧
        offset ≤ start + width + name.length) ∧
    ∀ cursor, (home? conv text cursor).bind (fun offset => home? conv text offset) =
      home? conv text cursor := by
  refine ⟨fun _ _ ha hw => enclosingMethod?_methodOffset? h ha hw,
    fun _ _ => methodOffset?_enclosingMethod? h, fun cursor => ?_⟩
  cases he : enclosingMethod? conv text cursor with
  | none => simp [home?, he]
  | some name =>
    obtain ⟨hne, hw, offset, -, -, ho, -⟩ := methodOffset?_enclosingMethod? h he
    simp [home?, he, ho, enclosingMethod?_methodOffset? h hne hw ho]

theorem method_searches_inverse_repeated :
    let text : Text := "def a\nend\ndef ab\n  x\ndef a\n"
    '\n' ∉ Conventions.standard.methodKeyword ∧
      methodOffset? .standard text "a" = some 5 ∧
      enclosingMethod? .standard text (5 : Nat) = some "a" ∧
      enclosingMethod? .standard text 27 = some "a" ∧
      ∃ start width, LastVisible "def" text (clampOffset text 27) start width ∧
        5 ≤ start + width + 1 := by
  intro text
  obtain ⟨hback, haround, -⟩ := method_searches_inverse .standard text (by decide)
  have ho : methodOffset? .standard text "a" = some 5 := by decide +kernel
  have he : enclosingMethod? .standard text 27 = some "a" := by decide +kernel
  obtain ⟨-, -, offset, start, width, ho', hlast, -, hle⟩ := haround 27 "a" he
  obtain rfl : offset = 5 := Option.some.inj (ho'.symm.trans ho)
  exact ⟨by decide, ho, hback "a" 5 (by decide) (by decide) ho, he, start, width, hlast, hle⟩

end Counterpart
