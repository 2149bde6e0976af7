import Mathlib.Data.List.Basic
import Counterpart.Method

/-! Definitions are read line by line: neither a heading nor a name reaches over a newline. The
definitions of a text are those before any of its newlines, followed by those after it. -/

namespace Counterpart

theorem isWord_newline : isWord '\n' = false := by decide

theorem isGap_newline : isGap '\n' = false := by decide

theorem newline_not_mem_of_isGap {s : Text} (h : s.all isGap) : '\n' ∉ s := fun hmem => by
  simpa [isGap_newline] using List.all_eq_true.1 h _ hmem

theorem newline_not_mem_of_isWord {s : Text} (h : s.all isWord) : '\n' ∉ s := fun hmem => by
  simpa [isWord_newline] using List.all_eq_true.1 h _ hmem

/-- The line begins with blanks, the keyword, at least one blank, and a word that starts after so
many characters. -/
def NamesAt (keyword line : Text) (width : Nat) : Prop :=
  ∃ indent gap c rest, line = indent ++ (keyword ++ (gap ++ c :: rest)) ∧
    indent.all isGap ∧ gap.all isGap ∧ gap ≠ [] ∧ isWord c ∧
    width = indent.length + keyword.length + gap.length

theorem mem_gapCuts {n : Nat} {s t : Text} :
    (n, t) ∈ gapCuts s ↔ ∃ gap, s = gap ++ t ∧ gap.length = n ∧ gap.all isGap := by
  simp [gapCuts, mem_gapCutsFrom]

theorem mem_headings {keyword line : Text} {h : Heading} :
    h ∈ headings keyword line ↔ ∃ indent gap, line = indent ++ (keyword ++ (gap ++ h.rest)) ∧
      indent.all isGap ∧ gap.all isGap ∧ gap ≠ [] ∧ h.indent = indent.length ∧
      h.width = indent.length + keyword.length + gap.length := by
  simp only [headings, List.mem_flatMap, Prod.exists]
  constructor
  · rintro ⟨i, afterIndent, hi, hh⟩
    obtain ⟨indent, rfl, rfl, hindent⟩ := mem_gapCuts.1 hi
    cases hk : keyword.isPrefixOf? afterIndent with
    | none => simp [hk] at hh
    | some afterKeyword =>
      simp only [hk, List.mem_filterMap, Prod.exists] at hh
      obtain ⟨g, rest, hg, he⟩ := hh
      obtain ⟨gap, rfl, rfl, hgap⟩ := mem_gapCuts.1 hg
      split at he
      · simp at he
      · next hne =>
        obtain rfl := Option.some.inj he
        refine ⟨indent, gap, ?_, hindent, hgap, fun e => hne (by simp [e]), rfl, rfl⟩
        rw [← List.isPrefixOf?_eq_some_iff_append_eq.1 hk]
  · rintro ⟨indent, gap, rfl, hindent, hgap, hne, hi, hw⟩
    refine ⟨indent.length, _, mem_gapCuts.2 ⟨indent, rfl, rfl, hindent⟩, ?_⟩
    rw [List.isPrefixOf?_eq_some_iff_append_eq.2 rfl]
    refine List.mem_filterMap.2 ⟨(gap.length, h.rest), mem_gapCuts.2 ⟨gap, rfl, rfl, hgap⟩, ?_⟩
    rw [if_neg (by simpa using hne), ← hw, ← hi]

theorem drop_heading (indent keyword gap rest : Text) :
    (indent ++ (keyword ++ (gap ++ rest))).drop
      (indent.length + keyword.length + gap.length) = rest := by
  rw [← List.append_assoc, ← List.append_assoc]
  exact List.drop_left' (by simp only [List.length_append])

namespace NamesAt

variable {keyword line : Text} {width : Nat}

theorem append (h : NamesAt keyword line width) (more : Text) :
    NamesAt keyword (line ++ more) width := by
  obtain ⟨indent, gap, c, rest, rfl, hi, hg, hne, hc, hw⟩ := h
  exact ⟨indent, gap, c, rest ++ more, by simp, hi, hg, hne, hc, hw⟩

theorem of_take {n : Nat} (h : NamesAt keyword (line.take n) width) :
    NamesAt keyword line width := by
  simpa using h.append (line.drop n)

theorem take {n : Nat} (h : NamesAt keyword line width) (hn : width < n) :
    NamesAt keyword (line.take n) width := by
  obtain ⟨indent, gap, c, rest, rfl, hi, hg, hne, hc, rfl⟩ := h
  obtain ⟨m, rfl⟩ := Nat.exists_eq_add_of_lt hn
  refine ⟨indent, gap, c, rest.take m, ?_, hi, hg, hne, hc, rfl⟩
  have hhead : (indent ++ (keyword ++ gap)).length =
      indent.length + keyword.length + gap.length := by
    simp only [List.length_append, Nat.add_assoc]
  have htake : (indent ++ (keyword ++ gap) ++ c :: rest).take
      ((indent ++ (keyword ++ gap)).length + (m + 1)) =
        indent ++ (keyword ++ gap) ++ (c :: rest).take (m + 1) :=
    List.take_length_add_append _
  rw [hhead, List.take_succ_cons] at htake
  simpa only [List.append_assoc, Nat.add_assoc] using htake

theorem lt_length (h : NamesAt keyword line width) : width < line.length := by
  obtain ⟨indent, gap, c, rest, rfl, -, -, -, -, rfl⟩ := h
  simp only [List.length_append, List.length_cons]
  omega

theorem takeWhile_isGap (keyword rest : Text) {indent gap : Text} {c : Char}
    (hi : indent.all isGap) (hg : gap.all isGap) (hc : isWord c) :
    (indent ++ (keyword ++ (gap ++ c :: rest))).takeWhile isGap =
      if keyword.all isGap then indent ++ (keyword ++ gap)
      else indent ++ keyword.takeWhile isGap := by
  have hc' : isGap c = false := Bool.eq_false_iff.2 fun h => by
    simp [isWord_eq_false_of_isGap h] at hc
  rw [List.takeWhile_append_of_pos (by simpa using hi)]
  split
  · next hk =>
    rw [List.takeWhile_append_of_pos (by simpa using hk),
      List.takeWhile_append_of_pos (by simpa using hg), List.takeWhile_cons_of_neg (by simp [hc']),
      List.append_nil]
  · next hk =>
    have hlen : (keyword.takeWhile isGap).length ≠ keyword.length := by
      intro he
      rw [← (List.takeWhile_prefix isGap).eq_of_length he] at hk
      exact hk List.all_takeWhile
    rw [List.takeWhile_append, if_neg hlen]

/-- However a keyword may begin, its lines have one place for the name. -/
theorem unique {width' : Nat} (h : NamesAt keyword line width) (h' : NamesAt keyword line width') :
    width = width' := by
  obtain ⟨indent, gap, c, rest, he, hi, hg, -, hc, rfl⟩ := h
  obtain ⟨indent', gap', c', rest', he', hi', hg', -, hc', rfl⟩ := h'
  have ht := takeWhile_isGap keyword rest hi hg hc
  have ht' := takeWhile_isGap keyword rest' hi' hg' hc'
  rw [← he] at ht
  rw [← he', ht] at ht'
  have hlen := congrArg List.length ht'
  split at hlen
  · simp only [List.length_append] at hlen
    omega
  · have hindent : indent.length = indent'.length := by
      simpa only [List.length_append, Nat.add_right_cancel_iff] using hlen
    -- The same characters follow the keyword, and a gap ends where the name begins.
    have hrest : gap ++ c :: rest = gap' ++ c' :: rest' :=
      List.append_cancel_left (List.append_inj (he.symm.trans he') hindent).2
    have hgap (g : Text) (d : Char) (r : Text) (hg : g.all isGap) (hd : isWord d) :
        (g ++ d :: r).takeWhile isGap = g := by
      simpa using takeWhile_isGap [] r (List.all_nil : ([] : Text).all isGap = true) hg hd
    have hsame : gap = gap' := by
      rw [← hgap gap c rest hg hc, hrest, hgap gap' c' rest' hg' hc']
    rw [hindent, hsame]

end NamesAt

theorem definitionAt?_eq_some {keyword line : Text} {start : Nat} {d : Definition}
    (h : definitionAt? keyword start line = some d) :
    d.start = start ∧ ∃ width, NamesAt keyword line width ∧ d.nameStart = start + width ∧
      d.name = (line.drop width).takeWhile isWord ∧ d.name ≠ [] := by
  obtain ⟨heading, hmem, he⟩ := List.exists_of_findSome?_eq_some h
  obtain ⟨indent, gap, hline, hi, hg, hne, -, hw⟩ := mem_headings.1 hmem
  dsimp only at he
  split at he
  · simp at he
  · next hname =>
    obtain rfl := Option.some.inj he
    refine ⟨rfl, heading.width, ?_, rfl, ?_, hname⟩
    · cases hr : heading.rest with
      | nil => simp [hr] at hname
      | cons c rest =>
        cases hc : isWord c with
        | false => simp [hr, hc] at hname
        | true => exact ⟨indent, gap, c, rest, hr ▸ hline, hi, hg, hne, hc, hw⟩
    · have hdrop : line.drop heading.width = heading.rest := by
        rw [hline, hw, drop_heading]
      rw [hdrop]

theorem NamesAt.exists_definitionAt? {keyword line : Text} {width : Nat}
    (h : NamesAt keyword line width) (start : Nat) :
    ∃ d, definitionAt? keyword start line = some d ∧ d.start = start ∧
      d.nameStart = start + width ∧ d.name = (line.drop width).takeWhile isWord := by
  cases hd : definitionAt? keyword start line with
  | some d =>
    obtain ⟨hs, width', h', hn, hname, -⟩ := definitionAt?_eq_some hd
    obtain rfl := h.unique h'
    exact ⟨d, rfl, hs, hn, hname⟩
  | none =>
    obtain ⟨indent, gap, c, rest, rfl, hi, hg, hne, hc, rfl⟩ := h
    have hh := List.findSome?_eq_none_iff.1 hd ⟨indent.length, _, c :: rest⟩
      (mem_headings.2 ⟨indent, gap, rfl, hi, hg, hne, rfl, rfl⟩)
    simp [hc] at hh

theorem definitionAt?_eq_none_iff {keyword line : Text} {start : Nat} :
    definitionAt? keyword start line = none ↔ ∀ width, ¬ NamesAt keyword line width := by
  constructor
  · intro h width hw
    obtain ⟨d, hd, -⟩ := hw.exists_definitionAt? start
    simp [h] at hd
  · intro h
    cases hd : definitionAt? keyword start line with
    | none => rfl
    | some d =>
      obtain ⟨-, width, hw, -⟩ := definitionAt?_eq_some hd
      exact absurd hw (h width)

theorem definitionAt?_indent {c : Char} {keyword line : Text} {start : Nat} {d : Definition}
    (hc : isGap c = false) (h : definitionAt? (c :: keyword) start line = some d) :
    d.indent = (line.takeWhile isGap).length := by
  obtain ⟨heading, hmem, he⟩ := List.exists_of_findSome?_eq_some h
  obtain ⟨indent, gap, hline, hi, -, -, hindent, -⟩ := mem_headings.1 hmem
  dsimp only at he
  split at he
  · simp at he
  · obtain rfl := Option.some.inj he
    rw [hline, List.takeWhile_append_of_pos (by simpa using hi), List.cons_append,
      List.takeWhile_cons_of_neg (by simp [hc]), List.append_nil]
    exact hindent

theorem definitionAt?_stop_le {keyword line : Text} {start : Nat} {d : Definition}
    (h : definitionAt? keyword start line = some d) : d.stop ≤ start + line.length := by
  obtain ⟨-, width, hw, hn, hname, -⟩ := definitionAt?_eq_some h
  have hle := ((line.drop width).takeWhile_sublist isWord).length_le
  have := hw.lt_length
  simp only [List.length_drop] at hle
  rw [Definition.stop, hn, hname]
  omega

/-- The same definition in a text with so many more characters before it. -/
def Definition.moved (d : Definition) (offset : Nat) : Definition :=
  { d with start := offset + d.start, nameStart := offset + d.nameStart }

theorem definitionAt?_moved (keyword line : Text) (offset start : Nat) :
    definitionAt? keyword (offset + start) line =
      (definitionAt? keyword start line).map (·.moved offset) := by
  simp only [definitionAt?, List.map_findSome?]
  congr 1
  funext h
  dsimp only [Function.comp]
  split <;> simp [Definition.moved, Nat.add_assoc]

/-- A run of characters of a kind ends before one that is not of that kind. -/
theorem takeWhile_append_stop {p : Char → Bool} {c : Char} (hp : p c = false) (s rest : Text) :
    (s ++ c :: rest).takeWhile p = s.takeWhile p := by
  rw [List.takeWhile_append]
  split
  · next h =>
    rw [List.takeWhile_cons_of_neg (by simp [hp]), List.append_nil,
      (List.takeWhile_prefix p).eq_of_length h]
  · rfl

/-- A run of characters that are no newlines ends with the line. -/
theorem takeWhile_newline {p : Char → Bool} (hp : p '\n' = false) (s rest : Text) :
    (s ++ '\n' :: rest).takeWhile p = s.takeWhile p := takeWhile_append_stop hp s rest

theorem gapCutsFrom_append_stop {c : Char} (hc : isGap c = false) (taken : Nat) (s rest : Text)
    (shorter : List (Nat × Text)) :
    gapCutsFrom taken (s ++ c :: rest) (shorter.map fun (n, t) => (n, t ++ c :: rest)) =
      (gapCutsFrom taken s shorter).map fun (n, t) => (n, t ++ c :: rest) := by
  induction s generalizing taken shorter with
  | nil => simp [gapCutsFrom, hc]
  | cons d s ih =>
    cases hd : isGap d with
    | true => simpa [gapCutsFrom, hd] using ih (taken + 1) ((taken, d :: s) :: shorter)
    | false => simp [gapCutsFrom, hd]

theorem isPrefixOf?_append_stop {keyword : Text} {c : Char} (h : c ∉ keyword) (s rest : Text) :
    keyword.isPrefixOf? (s ++ c :: rest) = (keyword.isPrefixOf? s).map (· ++ c :: rest) := by
  refine Option.ext fun r => ?_
  rw [Option.map_eq_some_iff]
  simp only [List.isPrefixOf?_eq_some_iff_append_eq]
  constructor
  · intro he
    rcases List.append_eq_append_iff.1 he with ⟨more, rfl, hr⟩ | ⟨more, rfl, hr⟩
    · exact ⟨more, rfl, hr.symm⟩
    -- The keyword would have to reach over the character.
    · cases more with
      | nil => exact ⟨[], by simp, hr⟩
      | cons d more =>
        obtain ⟨rfl, -⟩ := List.cons.inj hr
        simp at h
  · rintro ⟨more, rfl, rfl⟩
    rw [List.append_assoc]

/-- Nothing has a part in a definition behind a character that no part of a definition can hold. -/
theorem definitionAt?_append_stop {keyword : Text} {c : Char} (h : c ∉ keyword)
    (hgap : isGap c = false) (hword : isWord c = false) (start : Nat) (line rest : Text) :
    definitionAt? keyword start (line ++ c :: rest) = definitionAt? keyword start line := by
  have hcuts (s : Text) : gapCuts (s ++ c :: rest) =
      (gapCuts s).map fun (n, t) => (n, t ++ c :: rest) := gapCutsFrom_append_stop hgap 0 s rest []
  have hheadings : headings keyword (line ++ c :: rest) =
      (headings keyword line).map fun h => { h with rest := h.rest ++ c :: rest } := by
    simp only [headings, hcuts, List.flatMap_map, List.map_flatMap]
    congr 1
    funext ⟨indent, afterIndent⟩
    simp only [isPrefixOf?_append_stop h]
    cases keyword.isPrefixOf? afterIndent with
    | none => rfl
    | some afterKeyword =>
      simp only [Option.map_some, hcuts, List.filterMap_map, List.map_filterMap]
      congr 1
      funext ⟨gap, t⟩
      dsimp only [Function.comp]
      split <;> rfl
  simp only [definitionAt?, hheadings, List.findSome?_map]
  congr 1
  funext h
  simp only [Function.comp, takeWhile_append_stop hword]

/-- Nothing after the first newline has a part in a definition. -/
theorem definitionAt?_newline {keyword : Text} (h : '\n' ∉ keyword) (start : Nat)
    (line rest : Text) :
    definitionAt? keyword start (line ++ '\n' :: rest) = definitionAt? keyword start line :=
  definitionAt?_append_stop h isGap_newline isWord_newline start line rest

theorem laterLines_append (offset : Nat) (a b : Text) :
    laterLines offset (a ++ b) =
      (laterLines offset a).map (fun (n, t) => (n, t ++ b)) ++
        laterLines (offset + a.length) b := by
  induction a generalizing offset with
  | nil => simp [laterLines]
  | cons c a ih =>
    have he : offset + 1 + a.length = offset + (a.length + 1) := by omega
    by_cases hc : c = '\n' <;> simp [laterLines, hc, ih, he]

theorem laterLines_add (k offset : Nat) (s : Text) :
    laterLines (k + offset) s = (laterLines offset s).map fun (n, t) => (k + n, t) := by
  induction s generalizing offset with
  | nil => simp [laterLines]
  | cons c s ih => by_cases hc : c = '\n' <;> simp [laterLines, hc, Nat.add_assoc, ih]

theorem lineStarts_newline (a b : Text) :
    lineStarts (a ++ '\n' :: b) = (lineStarts a).map (fun (n, t) => (n, t ++ '\n' :: b)) ++
      (lineStarts b).map fun (n, t) => (a.length + 1 + n, t) := by
  have hb := laterLines_add (a.length + 1) 0 b
  simp only [lineStarts, laterLines_append, laterLines, if_true, Nat.zero_add, List.map_cons,
    List.cons_append, Nat.add_zero] at hb ⊢
  rw [hb]

/-- The entry with index `i` follows a newline that has `i` newlines before it. -/
theorem getElem?_laterLines_eq_some {offset i n : Nat} {s t : Text} :
    (laterLines offset s)[i]? = some (n, t) ↔
      ∃ u, s = u ++ '\n' :: t ∧ n = offset + u.length + 1 ∧ u.count '\n' = i := by
  induction s generalizing offset i with
  | nil => simp [laterLines]
  | cons c s ih =>
    have here : (∃ u, c :: s = u ++ '\n' :: t ∧ n = offset + u.length + 1 ∧ u.count '\n' = i) ↔
        (c = '\n' ∧ n = offset + 1 ∧ t = s ∧ i = 0) ∨
          ∃ u, s = u ++ '\n' :: t ∧ n = offset + 1 + u.length + 1 ∧ (c :: u).count '\n' = i := by
      constructor
      · rintro ⟨_ | ⟨d, u⟩, he, hn, hi⟩
        · obtain ⟨rfl, rfl⟩ := List.cons.inj he
          exact .inl ⟨rfl, by simpa using hn, rfl, hi.symm⟩
        · obtain ⟨rfl, rfl⟩ := List.cons.inj he
          exact .inr ⟨u, rfl, by simp only [List.length_cons] at hn; omega, hi⟩
      · rintro (⟨rfl, rfl, rfl, rfl⟩ | ⟨u, rfl, rfl, hi⟩)
        · exact ⟨[], rfl, rfl, rfl⟩
        · exact ⟨c :: u, rfl, by simp only [List.length_cons]; omega, hi⟩
    rw [here]
    by_cases hc : c = '\n'
    · cases i with
      | zero => simp [laterLines, hc, eq_comm]
      | succ i => simp [laterLines, hc, ih]
    · simp [laterLines, hc, ih]

theorem mem_laterLines {offset n : Nat} {s t : Text} :
    (n, t) ∈ laterLines offset s ↔ ∃ u, s = u ++ '\n' :: t ∧ n = offset + u.length + 1 := by
  simp [List.mem_iff_getElem?, getElem?_laterLines_eq_some]

theorem mem_lineStarts {n : Nat} {s t : Text} :
    (n, t) ∈ lineStarts s ↔ (n = 0 ∧ t = s) ∨ ∃ u, s = u ++ '\n' :: t ∧ n = u.length + 1 := by
  simp [lineStarts, mem_laterLines]

theorem lineStarts_pairwise (s : Text) :
    (lineStarts s).Pairwise fun p q => ∃ u, p.2 = u ++ '\n' :: q.2 ∧ q.1 = p.1 + u.length + 1 := by
  have hlater (offset : Nat) : (laterLines offset s).Pairwise fun p q =>
      ∃ u, p.2 = u ++ '\n' :: q.2 ∧ q.1 = p.1 + u.length + 1 := by
    induction s generalizing offset with
    | nil => simp [laterLines]
    | cons c s ih =>
      by_cases hc : c = '\n'
      · simp only [laterLines, if_pos hc]
        exact List.pairwise_cons.2 ⟨fun _ h => mem_laterLines.1 h, ih _⟩
      · simpa only [laterLines, if_neg hc] using ih _
  exact List.pairwise_cons.2 ⟨fun _ h => by simpa using mem_laterLines.1 h, hlater 0⟩

theorem definitionsFrom_eq_filterMap {keyword : Text} {resume : Nat} {lines : List (Nat × Text)}
    (hresume : ∀ p ∈ lines, resume ≤ p.1)
    (hlines : lines.Pairwise fun p q =>
      ∀ d, definitionAt? keyword p.1 p.2 = some d → d.stop ≤ q.1) :
    definitionsFrom keyword resume lines =
      lines.filterMap fun (start, line) => definitionAt? keyword start line := by
  induction lines generalizing resume with
  | nil => rfl
  | cons p lines ih =>
    obtain ⟨start, line⟩ := p
    obtain ⟨hp, hrest⟩ := List.pairwise_cons.1 hlines
    have hstart : ¬ start < resume := Nat.not_lt.2 (hresume _ List.mem_cons_self)
    rw [definitionsFrom, if_neg hstart, List.filterMap_cons]
    cases hd : definitionAt? keyword start line with
    | none => simpa [hd] using ih (fun q hq => hresume q (List.mem_cons_of_mem _ hq)) hrest
    | some d => simpa [hd] using ih (fun q hq => hp q hq d hd) hrest

/-- No line begins inside a definition, so none is passed over. -/
theorem definitions_eq_filterMap {keyword : Text} (h : '\n' ∉ keyword) (text : Text) :
    definitions keyword text =
      (lineStarts text).filterMap fun (start, line) => definitionAt? keyword start line := by
  refine definitionsFrom_eq_filterMap (fun _ _ => Nat.zero_le _) ((lineStarts_pairwise text).imp ?_)
  rintro ⟨n, s⟩ ⟨m, t⟩ ⟨u, hs, hm⟩ d hd
  dsimp only at hs hm hd ⊢
  rw [hs, definitionAt?_newline h] at hd
  have := definitionAt?_stop_le hd
  omega

theorem definitions_newline {keyword : Text} (h : '\n' ∉ keyword) (a b : Text) :
    definitions keyword (a ++ '\n' :: b) =
      definitions keyword a ++ (definitions keyword b).map (·.moved (a.length + 1)) := by
  simp only [definitions_eq_filterMap h, lineStarts_newline, List.filterMap_append,
    List.filterMap_map, List.map_filterMap]
  congr 2
  · funext ⟨n, t⟩
    exact definitionAt?_newline h n t b
  · funext ⟨n, t⟩
    exact definitionAt?_moved keyword t _ n

theorem definitions_of_line {keyword line : Text} (h : '\n' ∉ line) :
    definitions keyword line = (definitionAt? keyword 0 line).toList := by
  have hstarts : lineStarts line = [(0, line)] := by
    refine congrArg ((0, line) :: ·) (List.eq_nil_iff_forall_not_mem.2 ?_)
    rintro ⟨n, t⟩ ht
    obtain ⟨u, rfl, -⟩ := mem_laterLines.1 ht
    simp at h
  simp only [definitions, hstarts, definitionsFrom, Nat.lt_irrefl, if_false]
  cases definitionAt? keyword 0 line <;> rfl

/-- Each definition ends before the next one starts. -/
theorem definitions_pairwise {keyword : Text} (h : '\n' ∉ keyword) (text : Text) :
    (definitions keyword text).Pairwise fun d e => d.stop < e.start := by
  rw [definitions_eq_filterMap h]
  refine List.Pairwise.filterMap _ ?_ (lineStarts_pairwise text)
  rintro ⟨n, s⟩ ⟨m, t⟩ ⟨u, hs, hm⟩ d hd e he
  dsimp only at hs hm hd he
  rw [hs, definitionAt?_newline h] at hd
  have := definitionAt?_stop_le hd
  have := (definitionAt?_eq_some he).1
  omega

end Counterpart
