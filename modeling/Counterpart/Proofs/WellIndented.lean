import Counterpart.Proofs.Enclosure

/-! Sources in which indentation tells the truth: inside a method every line is blank or indented
deeper than its definition, and the line that closes it is not. In such a source the method around a
cursor is the one whose lines the cursor is in. -/

namespace Counterpart

/-- A line that does not define a method. -/
def DefinesNothing (line : Text) : Prop :=
  '\n' ∉ line ∧ ∀ width, ¬ NamesAt Conventions.standard.methodKeyword line width

theorem definesNothing_iff {line : Text} : DefinesNothing line ↔
    '\n' ∉ line ∧ definitionAt? Conventions.standard.methodKeyword 0 line = none :=
  and_congr_right fun _ => definitionAt?_eq_none_iff.symm

instance : DecidablePred DefinesNothing := fun _ => decidable_of_iff _ definesNothing_iff.symm

/-- The lines of a method, from its definition to the line that closes it. -/
structure MethodLines where
  indent : Text
  gap : Text
  name : Text
  /-- What follows the name on its line. -/
  rest : Text
  body : List Text
  closingIndent : Text
  indent_isGap : indent.all isGap
  gap_ne_nil : gap ≠ []
  gap_isGap : gap.all isGap
  name_ne_nil : name ≠ []
  name_isWord : name.all isWord
  rest_oneLine : '\n' ∉ rest
  rest_notWord : rest.head?.any isWord = false
  body_definesNothing : ∀ line ∈ body, DefinesNothing line
  body_deeper : ∀ line ∈ body, line.all isBlank ∨ indent.length < leadingBlanks line
  closingIndent_isGap : closingIndent.all isGap
  closingIndent_le : closingIndent.length ≤ indent.length

def joinLines (lines : List Text) (last : Text) : Text :=
  lines.foldr (fun line rest => line ++ '\n' :: rest) last

theorem joinLines_cons (line : Text) (lines : List Text) (last : Text) :
    joinLines (line :: lines) last = line ++ '\n' :: joinLines lines last := rfl

namespace MethodLines

variable (m : MethodLines)

def header : Text := m.indent ++ ("def" ++ (m.gap ++ (m.name ++ m.rest)))

def nameStart : Nat := m.indent.length + 3 + m.gap.length

def closing : Text := m.closingIndent ++ "end"

def inner : Text := joinLines m.body m.closing

def text : Text := m.header ++ '\n' :: m.inner

end MethodLines

/-- A stretch of a source: a line outside of methods, or a method. -/
inductive SourcePart where
  | plain (line : Text) (h : DefinesNothing line)
  | method (m : MethodLines)

def SourcePart.text : SourcePart → Text
  | .plain line _ => line
  | .method m => m.text

def sourceText (parts : List SourcePart) : Text := parts.flatMap fun part => part.text ++ ['\n']

theorem newline_not_mem_keyword : '\n' ∉ Conventions.standard.methodKeyword := by decide

theorem keyword_eq : Conventions.standard.methodKeyword = ['d', 'e', 'f'] := by rfl

theorem DefinesNothing.definitions_take {line : Text} (h : DefinesNothing line) (n : Nat) :
    definitions Conventions.standard.methodKeyword (line.take n) = [] := by
  rw [definitions_of_line fun hmem => h.1 (List.mem_of_mem_take hmem),
    definitionAt?_eq_none_iff.2 fun width hw => h.2 width hw.of_take]
  rfl

/-- A cut through lines is a cut through the first, or comes after it. -/
theorem take_cases (a b : Text) (n : Nat) :
    (n ≤ a.length ∧ (a ++ '\n' :: b).take n = a.take n) ∨
      ∃ k, n = a.length + 1 + k ∧ (a ++ '\n' :: b).take n = a ++ '\n' :: b.take k := by
  rcases Nat.lt_or_ge a.length n with hn | hn
  · obtain ⟨k, rfl⟩ := Nat.exists_eq_add_of_le (Nat.succ_le_of_lt hn)
    exact .inr ⟨k, rfl, take_newline k⟩
  · exact .inl ⟨hn, List.take_append_of_le_length hn⟩

theorem definitions_joinLines_take {lines : List Text} {last : Text}
    (hlines : ∀ line ∈ lines, DefinesNothing line) (hlast : DefinesNothing last) (n : Nat) :
    definitions Conventions.standard.methodKeyword ((joinLines lines last).take n) = [] := by
  induction lines generalizing n with
  | nil => exact hlast.definitions_take n
  | cons line lines ih =>
    have hline := hlines line List.mem_cons_self
    rcases take_cases line (joinLines lines last) n with ⟨-, ht⟩ | ⟨k, -, ht⟩
    · rw [joinLines_cons, ht, hline.definitions_take]
    · have hwhole := hline.definitions_take line.length
      rw [List.take_length] at hwhole
      rw [joinLines_cons, ht,
        definitions_newline newline_not_mem_keyword, hwhole,
        ih fun l hl => hlines l (List.mem_cons_of_mem _ hl)]
      rfl

/-- Lines that never close, however they are cut, are closed by a last one just when it is whole. -/
theorem any_closes_take {endKeyword : Text} {indent : Nat} {lines : List Text} {last : Text}
    (hlines : ∀ line ∈ lines, '\n' ∉ line ∧ ∀ n, closes endKeyword indent (line.take n) = false)
    (hlast : '\n' ∉ last) (hcut : ∀ n < last.length, closes endKeyword indent (last.take n) = false)
    (hwhole : closes endKeyword indent last = true) (n : Nat) :
    (((joinLines lines last).take n).splitOn '\n').any (closes endKeyword indent) =
      decide ((joinLines lines last).length ≤ n) := by
  induction lines generalizing n with
  | nil =>
    rw [joinLines, List.foldr_nil,
      List.splitOn_eq_singleton fun hmem => hlast (List.mem_of_mem_take hmem)]
    rcases Nat.lt_or_ge n last.length with hn | hn
    · simp [hcut n hn, hn]
    · simp [List.take_of_length_le hn, hwhole, hn]
  | cons line lines ih =>
    obtain ⟨hline, hnever⟩ := hlines line List.mem_cons_self
    rw [joinLines_cons, List.length_append, List.length_cons]
    rcases take_cases line (joinLines lines last) n with ⟨hn, ht⟩ | ⟨k, rfl, ht⟩
    · rw [ht, List.splitOn_eq_singleton fun hmem => hline (List.mem_of_mem_take hmem),
        List.any_cons, hnever, List.any_nil, Bool.or_false]
      exact (decide_eq_false (by omega)).symm
    · have hself := hnever line.length
      rw [List.take_length] at hself
      rw [ht, List.splitOn_append_cons_self_of_not_mem hline, List.any_cons, hself, Bool.false_or,
        ih fun l hl => hlines l (List.mem_cons_of_mem _ hl)]
      exact decide_eq_decide.2 (by omega)

theorem closes_eq_false_of_isBlank {endKeyword line : Text} (indent : Nat) (he : endKeyword ≠ [])
    (h : line.all isBlank) : closes endKeyword indent line = false := by
  refine Bool.eq_false_iff.2 fun hc => he ?_
  rw [← ((closes_iff he).1 hc).1, Text.trim, Text.trimStart,
    List.dropWhile_eq_nil_iff.2 (List.all_eq_true.1 h)]
  rfl

theorem closes_take_of_deeper {endKeyword line : Text} {indent : Nat} (he : endKeyword ≠ [])
    (h : line.all isBlank ∨ indent < leadingBlanks line) (n : Nat) :
    closes endKeyword indent (line.take n) = false := by
  by_cases hblank : (line.take n).all isBlank
  · exact closes_eq_false_of_isBlank indent he hblank
  · refine Bool.eq_false_iff.2 fun hc => ?_
    have hle := ((closes_iff he).1 hc).2
    rcases h with h | h
    · refine hblank (List.all_eq_true.2 fun c hmem => ?_)
      exact List.all_eq_true.1 h c (List.mem_of_mem_take hmem)
    · have hlen : ((line.take n).takeWhile isBlank).length ≠ (line.take n).length := fun hlen => by
        rw [← (List.takeWhile_prefix isBlank).eq_of_length hlen] at hblank
        exact hblank List.all_takeWhile
      have hsame : line.takeWhile isBlank = (line.take n).takeWhile isBlank := by
        conv => lhs; rw [← List.take_append_drop n line, List.takeWhile_append, if_neg hlen]
      rw [leadingBlanks, hsame] at h
      exact absurd hle (by rw [leadingBlanks]; omega)

theorem all_isBlank_of_isGap {s : Text} (h : s.all isGap) : s.all isBlank :=
  List.all_eq_true.2 fun c hc => isBlank_of_isGap (List.all_eq_true.1 h c hc)

theorem dropWhile_isBlank_append {s t : Text} (hs : s.all isGap) :
    (s ++ t).dropWhile isBlank = t.dropWhile isBlank :=
  List.dropWhile_append_of_pos (List.all_eq_true.1 (all_isBlank_of_isGap hs))

namespace MethodLines

variable (m : MethodLines)

theorem closing_closes : closes "end" m.indent.length m.closing = true := by
  refine (closes_iff (by decide)).2 ⟨?_, ?_⟩
  · rw [closing, Text.trim, Text.trimStart, dropWhile_isBlank_append m.closingIndent_isGap]
    decide
  · have hblank : m.closing.takeWhile isBlank = m.closingIndent := by
      rw [closing, List.takeWhile_append_of_pos
        (List.all_eq_true.1 (all_isBlank_of_isGap m.closingIndent_isGap))]
      exact List.append_nil _
    rw [leadingBlanks, hblank]
    exact m.closingIndent_le

/-- Until it is whole the closing line reads as blanks, or as a shorter word. -/
theorem closes_closing_take {n : Nat} (hn : n < m.closing.length) :
    closes "end" m.indent.length (m.closing.take n) = false := by
  rcases Nat.lt_or_ge m.closingIndent.length n with hlt | hle
  · refine Bool.eq_false_iff.2 fun hc => ?_
    have htrim := ((closes_iff (by decide)).1 hc).1
    obtain ⟨k, rfl⟩ := Nat.exists_eq_add_of_lt hlt
    rw [closing, Nat.add_assoc, List.take_length_add_append, Text.trim, Text.trimStart,
      dropWhile_isBlank_append m.closingIndent_isGap] at htrim
    have hk : k = 0 ∨ k = 1 := by
      rw [closing, List.length_append, show ("end" : Text).length = 3 from rfl] at hn
      omega
    rcases hk with rfl | rfl
    · exact absurd htrim (by decide)
    · exact absurd htrim (by decide)
  · refine closes_eq_false_of_isBlank _ (by decide) ?_
    rw [closing, List.take_append_of_le_length hle]
    exact List.all_eq_true.2 fun c hc =>
      List.all_eq_true.1 (all_isBlank_of_isGap m.closingIndent_isGap) c (List.mem_of_mem_take hc)

theorem closing_definesNothing : DefinesNothing m.closing := by
  refine ⟨?_, ?_⟩
  · rw [closing, List.mem_append, not_or]
    exact ⟨newline_not_mem_of_isGap m.closingIndent_isGap, by decide⟩
  · rintro width ⟨indent, gap, c, rest, he, hi, -, -, -, -⟩
    -- Behind the same blanks one line has an `e` and the other a `d`.
    have hd := congrArg (List.dropWhile isGap) he
    rw [closing, keyword_eq,
      List.dropWhile_append_of_pos (List.all_eq_true.1 m.closingIndent_isGap),
      List.dropWhile_append_of_pos (List.all_eq_true.1 hi)] at hd
    simp [show isGap 'e' = false from rfl, show isGap 'd' = false from rfl] at hd

theorem header_namesAt :
    NamesAt Conventions.standard.methodKeyword m.header m.nameStart ∧
      (m.header.drop m.nameStart).takeWhile isWord = m.name := by
  have hdrop : m.header.drop m.nameStart = m.name ++ m.rest := by
    rw [header, nameStart, ← List.append_assoc, ← List.append_assoc]
    refine List.drop_left' ?_
    rw [List.length_append, List.length_append, show ("def" : Text).length = 3 from rfl]
  obtain ⟨c, s, hname⟩ := List.exists_cons_of_ne_nil m.name_ne_nil
  refine ⟨⟨m.indent, m.gap, c, s ++ m.rest, ?_, m.indent_isGap, m.gap_isGap, m.gap_ne_nil, ?_,
    rfl⟩, ?_⟩
  · rw [header, hname]
    rfl
  · exact List.all_eq_true.1 m.name_isWord c (hname ▸ List.mem_cons_self)
  · rw [hdrop, List.takeWhile_append_of_pos (List.all_eq_true.1 m.name_isWord)]
    have hrest := m.rest_notWord
    cases hr : m.rest with
    | nil => simp
    | cons d t =>
      rw [hr] at hrest
      rw [List.takeWhile_cons_of_neg (by simpa using hrest), List.append_nil]

theorem newline_not_mem_header : '\n' ∉ m.header := by
  simp only [header, List.mem_append, not_or]
  exact ⟨newline_not_mem_of_isGap m.indent_isGap, by decide, newline_not_mem_of_isGap m.gap_isGap,
    newline_not_mem_of_isWord m.name_isWord, m.rest_oneLine⟩

end MethodLines

namespace MethodLines

variable (m : MethodLines)

theorem definitionAt?_header_take {n : Nat} (hn : m.nameStart < n) :
    ∃ d, definitionAt? Conventions.standard.methodKeyword 0 (m.header.take n) = some d ∧
      d.start = 0 ∧ d.nameStart = m.nameStart ∧ d.indent = m.indent.length := by
  obtain ⟨d, hd, hs, hstart, -⟩ := (m.header_namesAt.1.take hn).exists_definitionAt? 0
  refine ⟨d, hd, hs, by rw [hstart, Nat.zero_add], ?_⟩
  have hlt : m.indent.length ≤ n := by rw [nameStart] at hn; omega
  obtain ⟨k, rfl⟩ := Nat.exists_eq_add_of_le hlt
  have hk : 0 < k := by rw [nameStart] at hn; omega
  obtain ⟨k, rfl⟩ := Nat.exists_eq_add_of_lt hk
  rw [definitionAt?_indent (c := 'd') rfl hd, header, List.take_length_add_append,
    List.takeWhile_append_of_pos (List.all_eq_true.1 m.indent_isGap)]
  simp [show isGap 'd' = false from rfl]

theorem takeWhile_nameStart : (m.text.drop m.nameStart).takeWhile isWord = m.name := by
  rw [text, List.drop_append_of_le_length (Nat.le_of_lt m.header_namesAt.1.lt_length),
    takeWhile_newline isWord_newline, m.header_namesAt.2]

theorem newline_not_mem_header_take (k : Nat) : '\n' ∉ m.header.take k := by
  intro hmem
  exact m.newline_not_mem_header (List.mem_of_mem_take hmem)

theorem definitions_header_take {d : Definition} {k : Nat}
    (hd : definitionAt? Conventions.standard.methodKeyword 0 (m.header.take k) = some d) :
    definitions Conventions.standard.methodKeyword (m.header.take k) = [d] := by
  rw [definitions_of_line (m.newline_not_mem_header_take k), hd]
  rfl

theorem enclosingMethod?_header {n : Nat} (hn : n ≤ m.header.length) :
    enclosingMethod? .standard m.text n = if m.nameStart < n then some m.name else none := by
  have ht : m.text.take n = m.header.take n := List.take_append_of_le_length hn
  by_cases hlt : m.nameStart < n
  · obtain ⟨d, hd, hs, hstart, -⟩ := m.definitionAt?_header_take hlt
    have hopen : d.isClosed .standard (m.header.take n) = false := by
      rw [Definition.isClosed, Definition.body, hs, List.drop_zero,
        List.splitOn_eq_singleton (m.newline_not_mem_header_take n)]
      rfl
    have hlast : (definitions Conventions.standard.methodKeyword
        (m.text.take (n : Int).toNat)).getLast? = some d := by
      rw [Int.toNat_natCast, ht, m.definitions_header_take hd]
      rfl
    rw [enclosingMethod?_of_last hlast, Int.toNat_natCast, ht, hopen, hstart,
      m.takeWhile_nameStart, if_neg Bool.false_ne_true, if_pos hlt]
  · -- A cut before the name leaves no definition: its name would start at the same place.
    have hnone : definitions Conventions.standard.methodKeyword (m.header.take n) = [] := by
      have hdef : definitionAt? Conventions.standard.methodKeyword 0 (m.header.take n) = none := by
        refine definitionAt?_eq_none_iff.2 fun width hw => ?_
        have hwidth := hw.lt_length
        rw [hw.of_take.unique m.header_namesAt.1, List.length_take] at hwidth
        omega
      rw [definitions_of_line (m.newline_not_mem_header_take n), hdef]
      rfl
    rw [enclosingMethod?_of_none (by rw [Int.toNat_natCast, ht, hnone]), if_neg hlt]

theorem enclosingMethod?_inner (k : Nat) :
    enclosingMethod? .standard m.text ((m.header.length + 1 + k : Nat) : Int) =
      if k < m.inner.length then some m.name else none := by
  have ht : m.text.take (m.header.length + 1 + k) = m.header ++ '\n' :: m.inner.take k :=
    take_newline k
  obtain ⟨d, hd, hs, hstart, hindent⟩ := m.definitionAt?_header_take m.header_namesAt.1.lt_length
  have hdefs := m.definitions_header_take hd
  rw [List.take_length] at hdefs
  have hlast : (definitions Conventions.standard.methodKeyword
      (m.text.take ((m.header.length + 1 + k : Nat) : Int).toNat)).getLast? = some d := by
    rw [Int.toNat_natCast, ht, definitions_newline newline_not_mem_keyword, hdefs, inner,
      definitions_joinLines_take m.body_definesNothing m.closing_definesNothing]
    rfl
  have hclosed : d.isClosed .standard (m.header ++ '\n' :: m.inner.take k) =
      decide (m.inner.length ≤ k) := by
    rw [Definition.isClosed, Definition.body, hs, hindent, List.drop_zero,
      List.splitOn_append_cons_self_of_not_mem m.newline_not_mem_header, List.tail_cons]
    exact any_closes_take
      (fun line hline => ⟨(m.body_definesNothing line hline).1,
        closes_take_of_deeper (by decide) (m.body_deeper line hline)⟩)
      m.closing_definesNothing.1 (fun _ => m.closes_closing_take) m.closing_closes k
  rw [enclosingMethod?_of_last hlast, Int.toNat_natCast, ht, hclosed, hstart,
    m.takeWhile_nameStart]
  by_cases hk : m.inner.length ≤ k
  · rw [decide_eq_true hk, if_pos rfl, if_neg (by omega)]
  · rw [decide_eq_false hk, if_neg Bool.false_ne_true, if_pos (by omega)]

/-- Inside a method the cursor is in it from the first character of its name on until it closes. -/
theorem enclosingMethod?_text (n : Nat) :
    enclosingMethod? .standard m.text n =
      if m.nameStart < n ∧ n < m.text.length then some m.name else none := by
  have hlength : m.text.length = m.header.length + 1 + m.inner.length := by
    rw [text, List.length_append, List.length_cons]
    omega
  have hname := m.header_namesAt.1.lt_length
  rcases take_cases m.header m.inner n with ⟨hn, -⟩ | ⟨k, rfl, -⟩
  · rw [m.enclosingMethod?_header hn]
    by_cases hlt : m.nameStart < n
    · rw [if_pos hlt, if_pos ⟨hlt, by omega⟩]
    · rw [if_neg hlt, if_neg (by omega)]
  · rw [m.enclosingMethod?_inner k]
    by_cases hk : k < m.inner.length
    · rw [if_pos hk, if_pos ⟨by omega, by omega⟩]
    · rw [if_neg hk, if_neg (by omega)]

end MethodLines

theorem sourceText_cons (part : SourcePart) (parts : List SourcePart) :
    sourceText (part :: parts) = part.text ++ '\n' :: sourceText parts := by
  simp [sourceText]

theorem SourcePart.enclosingMethod?_length (part : SourcePart) :
    enclosingMethod? .standard part.text part.text.length = none := by
  cases part with
  | plain line h =>
    exact enclosingMethod?_of_none (by rw [Int.toNat_natCast]; exact h.definitions_take _)
  | method m =>
    rw [SourcePart.text, m.enclosingMethod?_text, if_neg (by omega)]

/-- The cursor is inside a method of the source, from one character into its name up to the end of
the line that closes it. -/
def InMethod (parts : List SourcePart) (cursor : Int) (name : Text) : Prop :=
  ∃ before m after, parts = before ++ .method m :: after ∧ m.name = name ∧
    (sourceText before).length + m.nameStart < cursor ∧
    cursor < (sourceText before).length + m.text.length

theorem inMethod_cons_iff_of_le {part : SourcePart} {parts : List SourcePart} {n : Nat}
    {name : Text} (hn : n ≤ part.text.length) :
    InMethod (part :: parts) n name ↔
      ∃ m, part = .method m ∧ m.name = name ∧ m.nameStart < n ∧ n < m.text.length := by
  constructor
  · rintro ⟨_ | ⟨other, before⟩, m, after, he, hname, hlt, hlt'⟩
    · obtain ⟨rfl, -⟩ := List.cons.inj he
      simp only [sourceText, List.flatMap_nil, List.length_nil] at hlt hlt'
      exact ⟨m, rfl, hname, by omega, by omega⟩
    · obtain ⟨rfl, -⟩ := List.cons.inj he
      rw [sourceText_cons, List.length_append, List.length_cons] at hlt
      omega
  · rintro ⟨m, rfl, hname, hlt, hlt'⟩
    refine ⟨[], m, parts, rfl, hname, ?_, ?_⟩
    · simp only [sourceText, List.flatMap_nil, List.length_nil]
      omega
    · simp only [sourceText, List.flatMap_nil, List.length_nil]
      omega

theorem inMethod_cons_iff_of_lt {part : SourcePart} {parts : List SourcePart} {k : Nat}
    {name : Text} :
    InMethod (part :: parts) ((part.text.length + 1 + k : Nat) : Int) name ↔
      InMethod parts k name := by
  constructor
  · rintro ⟨_ | ⟨other, before⟩, m, after, he, hname, hlt, hlt'⟩
    · obtain ⟨rfl, -⟩ := List.cons.inj he
      simp only [sourceText, List.flatMap_nil, List.length_nil, SourcePart.text] at hlt'
      omega
    · obtain ⟨rfl, rfl⟩ := List.cons.inj he
      rw [sourceText_cons, List.length_append, List.length_cons] at hlt hlt'
      exact ⟨before, m, after, rfl, hname, by omega, by omega⟩
  · rintro ⟨before, m, after, rfl, hname, hlt, hlt'⟩
    refine ⟨part :: before, m, after, rfl, hname, ?_, ?_⟩
    · rw [sourceText_cons, List.length_append, List.length_cons]
      omega
    · rw [sourceText_cons, List.length_append, List.length_cons]
      omega

theorem enclosingMethod?_iff_inMethod (parts : List SourcePart) (n : Nat) (name : Text) :
    enclosingMethod? .standard (sourceText parts) n = some name ↔ InMethod parts n name := by
  induction parts generalizing n with
  | nil =>
    have hnone : enclosingMethod? .standard (sourceText []) n = none :=
      enclosingMethod?_of_none (by simp [sourceText, definitions_of_line]; rfl)
    rw [hnone]
    constructor
    · rintro ⟨⟩
    · rintro ⟨before, m, after, he, -⟩
      simp at he
  | cons part parts ih =>
    rw [sourceText_cons]
    rcases Nat.lt_or_ge part.text.length n with hn | hn
    · obtain ⟨k, rfl⟩ := Nat.exists_eq_add_of_le (Nat.succ_le_of_lt hn)
      rw [Nat.succ_eq_add_one, inMethod_cons_iff_of_lt,
        enclosingMethod?_of_closed newline_not_mem_keyword part.enclosingMethod?_length, ih]
    · rw [enclosingMethod?_of_le hn, inMethod_cons_iff_of_le hn]
      cases part with
      | plain line h =>
        rw [enclosingMethod?_of_none (by rw [Int.toNat_natCast]; exact h.definitions_take n)]
        simp
      | method m =>
        rw [SourcePart.text, m.enclosingMethod?_text]
        split
        · next hin => simp [hin]
        · next hout =>
          constructor
          · rintro ⟨⟩
          · rintro ⟨m', he, -, hin⟩
            obtain rfl := SourcePart.method.inj he
            exact absurd hin hout

theorem enclosingMethod?_toNat (conv : Conventions) (text : Text) (cursor : Int) :
    enclosingMethod? conv text cursor = enclosingMethod? conv text cursor.toNat := by
  simp only [enclosingMethod?, enclosure, clampOffset, Int.toNat_natCast]

/-- In a well-indented source the method around a cursor is the one that the cursor is in, and there
is none around any other cursor. -/
theorem enclosingMethod?_wellIndented (parts : List SourcePart) (cursor : Int) :
    (∀ name, enclosingMethod? .standard (sourceText parts) cursor = some name ↔
      InMethod parts cursor name) ∧
    (enclosingMethod? .standard (sourceText parts) cursor = none ↔
      ∀ name, ¬ InMethod parts cursor name) := by
  have hiff (name : Text) : enclosingMethod? .standard (sourceText parts) cursor = some name ↔
      InMethod parts cursor name := by
    rw [enclosingMethod?_toNat, enclosingMethod?_iff_inMethod]
    -- A cursor before the text is in no method, and neither is one at its start.
    constructor
    · rintro ⟨before, m, after, he, hname, hlt, hlt'⟩
      exact ⟨before, m, after, he, hname, by omega, by omega⟩
    · rintro ⟨before, m, after, he, hname, hlt, hlt'⟩
      exact ⟨before, m, after, he, hname, by omega, by omega⟩
  refine ⟨hiff, ?_⟩
  simp only [Option.eq_none_iff_forall_ne_some, ← hiff, ne_eq]

/-- A method in which a block is closed. -/
def listedMethod : MethodLines where
  indent := "  "
  gap := " "
  name := "index"
  rest := "(all)"
  body := ["    all.each do", [], "    end"]
  closingIndent := "  "
  indent_isGap := by decide
  gap_ne_nil := by decide
  gap_isGap := by decide
  name_ne_nil := by decide
  name_isWord := by decide
  rest_oneLine := by decide
  rest_notWord := by decide
  body_definesNothing := by decide +kernel
  body_deeper := by decide
  closingIndent_isGap := by decide
  closingIndent_le := by decide

/-- The method in a class, between lines outside of methods. -/
def listedSource : List SourcePart :=
  [.plain "class Posts" (by decide +kernel), .method listedMethod, .plain "end" (by decide +kernel)]

/-- The end of the block closes nothing, and the end of the method does. -/
theorem enclosingMethod?_listedSource :
    sourceText listedSource =
        "class Posts\n  def index(all)\n    all.each do\n\n    end\n  end\nend\n" ∧
      enclosingMethod? .standard (sourceText listedSource) 58 = some ("index" : Text) ∧
      enclosingMethod? .standard (sourceText listedSource) 59 = none := by
  have hinside : InMethod listedSource 58 "index" :=
    ⟨_, listedMethod, _, List.singleton_append.symm, by decide, by decide, by decide⟩
  have houtside (name : Text) : ¬ InMethod listedSource 59 name := by
    intro hin
    have hmethod : InMethod [.method listedMethod, .plain "end" (by decide +kernel)] 47 name :=
      (inMethod_cons_iff_of_lt (k := 47)).1 hin
    obtain ⟨m, he, -, -, hlt⟩ := (inMethod_cons_iff_of_le (n := 47) (by decide)).1 hmethod
    obtain rfl := SourcePart.method.inj he
    exact absurd hlt (by decide)
  exact ⟨by decide, ((enclosingMethod?_wellIndented listedSource 58).1 _).2 hinside,
    (enclosingMethod?_wellIndented listedSource 59).2.2 houtside⟩

end Counterpart
