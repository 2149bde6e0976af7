import Mathlib.Order.Bounds.Basic
import Counterpart.Proofs.LineReading
import Counterpart.Proofs.MethodSearch

/-! Where the definition of a name is found. A word is found at the end of the first definition that
has it for its whole name; anything else is found only where it stands, character by character,
behind the keyword. -/

namespace Counterpart

/-- Up to the offset a line reads blanks, the keyword, at least one blank more, and the name. -/
def DefinesAt (keyword text name : Text) (offset : Nat) : Prop :=
  ∃ start indent gap, StartsLine text start ∧ indent.all isGap ∧ gap.all isGap ∧ gap ≠ [] ∧
    offset ≤ text.length ∧
    text.take offset = text.take start ++ (indent ++ (keyword ++ (gap ++ name)))

/-- A definition whose name does not go on behind the offset. -/
def DefinesWhole (keyword text name : Text) (offset : Nat) : Prop :=
  DefinesAt keyword text name offset ∧ (text.drop offset).head?.any isWord = false

section

variable {keyword text name : Text} {offset : Nat}

theorem definesAt_iff : DefinesAt keyword text name offset ↔
    ∃ start indent gap, StartsLine text start ∧ indent.all isGap ∧ gap.all isGap ∧ gap ≠ [] ∧
      text.drop start = indent ++ (keyword ++ (gap ++ (name ++ text.drop offset))) ∧
      offset = start + (indent.length + keyword.length + gap.length) + name.length := by
  refine exists_congr fun start => exists_congr fun indent => exists_congr fun gap =>
    and_congr_right fun hstart => and_congr_right fun _ => and_congr_right fun _ =>
      and_congr_right fun _ => ?_
  have hle := hstart.le_length
  constructor
  · rintro ⟨hoffset, htake⟩
    have hlength := congrArg List.length htake
    simp only [List.length_append, List.length_take] at hlength
    have hcut : text.take start ++ text.drop start =
        text.take start ++ (indent ++ (keyword ++ (gap ++ (name ++ text.drop offset)))) := by
      calc text.take start ++ text.drop start = text.take offset ++ text.drop offset := by
            rw [List.take_append_drop, List.take_append_drop]
        _ = _ := by
            rw [htake]
            simp only [List.append_assoc]
    exact ⟨List.append_cancel_left hcut, by omega⟩
  · rintro ⟨hdrop, hoffset⟩
    have htext : text =
        (text.take start ++ (indent ++ (keyword ++ (gap ++ name)))) ++ text.drop offset := by
      calc text = text.take start ++ text.drop start := (List.take_append_drop start text).symm
        _ = _ := by
            rw [hdrop]
            simp only [List.append_assoc]
    have hfront : (text.take start ++ (indent ++ (keyword ++ (gap ++ name)))).length = offset := by
      simp only [List.length_append, List.length_take]
      omega
    have hlength := congrArg List.length htext
    rw [List.length_append, hfront] at hlength
    exact ⟨by omega, (congrArg (List.take offset) htext).trans (List.take_left' hfront)⟩

theorem head?_dropWhile_isWord (s : Text) : (s.dropWhile isWord).head?.any isWord = false := by
  have hhead := List.head?_dropWhile_not isWord s
  cases hs : (s.dropWhile isWord).head? with
  | none => rfl
  | some c => simpa [hs] using hhead

/-- The places where a word is defined are the ends of the definitions of that name. -/
theorem definesWhole_iff (h : '\n' ∉ keyword) (hne : name ≠ []) (hw : name.all isWord) :
    DefinesWhole keyword text name offset ↔
      ∃ d ∈ definitions keyword text, d.name = name ∧ d.stop = offset := by
  rw [DefinesWhole, definesAt_iff]
  constructor
  · rintro ⟨⟨start, indent, gap, hstart, hi, hg, hgap, hline, hoffset⟩, hend⟩
    obtain ⟨c, rest, rfl⟩ := List.exists_cons_of_ne_nil hne
    have hnames : NamesAt keyword (text.drop start)
        (indent.length + keyword.length + gap.length) :=
      ⟨indent, gap, c, rest ++ text.drop offset, hline, hi, hg, hgap,
        List.all_eq_true.1 hw c List.mem_cons_self, rfl⟩
    obtain ⟨d, hd, hs, hn, hname⟩ := hnames.exists_definitionAt? start
    have hrest : (text.drop start).drop (indent.length + keyword.length + gap.length) =
        c :: rest ++ text.drop offset := by
      rw [hline, drop_heading]
    rw [hrest, (takeWhile_isWord_append hw _).2 hend] at hname
    refine ⟨d, ?_, hname, by rw [Definition.stop, hn, hname, hoffset]⟩
    rw [definitions_eq_filterMap h]
    exact List.mem_filterMap.2 ⟨(start, text.drop start), startsLine_iff.1 hstart, hd⟩
  · rintro ⟨d, hd, rfl, rfl⟩
    obtain ⟨hstart, width, ⟨indent, gap, c, rest, hline, hi, hg, hgap, -, hwidth⟩, hn, hname, -⟩ :=
      mem_definitions hd
    have hrest : text.drop d.nameStart = c :: rest := by
      rw [hn, ← List.drop_drop, hline, hwidth, drop_heading]
    have hword : d.name ++ (c :: rest).dropWhile isWord = c :: rest := by
      rw [hname, hrest, List.takeWhile_append_dropWhile]
    have hbehind : text.drop d.stop = (c :: rest).dropWhile isWord := by
      rw [Definition.stop, ← List.drop_drop, hrest]
      exact (congrArg (List.drop d.name.length) hword).symm.trans List.drop_left
    refine ⟨⟨d.start, indent, gap, startsLine_iff.2 hstart, hi, hg, hgap, ?_, ?_⟩, ?_⟩
    · rw [hbehind, hword, hline]
    · rw [Definition.stop, hn, hwidth]
    · rw [hbehind]
      exact head?_dropWhile_isWord _

end

section Search

variable {conv : Conventions} {text action : Text} {offset : Nat}

/-- Whatever is searched for stands behind the keyword where it is found. -/
theorem definesAt_of_methodOffset? (h : methodOffset? conv text action = some offset) :
    DefinesAt conv.methodKeyword text action offset := by
  obtain ⟨⟨start, line⟩, hmem, hline⟩ := List.exists_of_findSome?_eq_some h
  obtain ⟨heading, hheading, after, hrest, -, rfl⟩ := offsetOnLine?_eq_some hline
  obtain ⟨indent, gap, hread, hi, hg, hgap, -, hwidth⟩ := mem_headings.1 hheading
  obtain ⟨rfl, -⟩ := eq_drop_of_mem_lineStarts hmem
  have hbehind : text.drop (start + heading.width + action.length) = after := by
    rw [← List.drop_drop, ← List.drop_drop, hread, hrest, hwidth, drop_heading, List.drop_left]
  refine definesAt_iff.2 ⟨start, indent, gap, startsLine_iff.2 hmem, hi, hg, hgap, ?_, ?_⟩
  · rw [hbehind, hread, hrest]
  · rw [hwidth]

theorem isLeast_of_methodOffset? (h : '\n' ∉ conv.methodKeyword) (hne : action ≠ [])
    (hw : action.all isWord) (ho : methodOffset? conv text action = some offset) :
    IsLeast {n | DefinesWhole conv.methodKeyword text action n} offset := by
  rw [methodOffset?_eq_find? h hne hw] at ho
  obtain ⟨d, hfirst, rfl⟩ := Option.map_eq_some_iff.1 ho
  have hname : d.name = action := by simpa using List.find?_some hfirst
  refine ⟨(definesWhole_iff h hne hw).2 ⟨d, List.mem_of_find?_eq_some hfirst, hname, rfl⟩, ?_⟩
  intro n hn
  obtain ⟨e, he, hename, rfl⟩ := (definesWhole_iff h hne hw).1 hn
  -- A definition of the same name is the first one, or starts behind its end.
  obtain ⟨-, before, after, hdefs, hbefore⟩ := List.find?_eq_some_iff_append.1 hfirst
  have hpair := definitions_pairwise h text
  obtain ⟨-, width, -, hn, -⟩ := mem_definitions he
  rw [hdefs] at he hpair
  rcases List.mem_append.1 he with he | he
  · simpa [hename] using hbefore e he
  · rcases List.mem_cons.1 he with rfl | he
    · exact le_rfl
    · have hlt := (List.pairwise_cons.1 (List.pairwise_append.1 hpair).2.1).1 e he
      have hstop : e.stop = e.start + width + e.name.length := by rw [Definition.stop, hn]
      omega

theorem not_definesWhole_of_none (h : '\n' ∉ conv.methodKeyword) (hne : action ≠ [])
    (hw : action.all isWord) (ho : methodOffset? conv text action = none) (n : Nat) :
    ¬ DefinesWhole conv.methodKeyword text action n := by
  intro hn
  obtain ⟨d, hd, hname, -⟩ := (definesWhole_iff h hne hw).1 hn
  rw [methodOffset?_eq_find? h hne hw, Option.map_eq_none_iff] at ho
  exact List.find?_eq_none.1 ho d hd (by simpa using hname)

end Search

/-- A word is found at the least place where a line defines it as a whole, and is not found just
when there is none. Any other text is found only where a line defines it literally. -/
theorem methodOffset?_first (conv : Conventions) (text action : Text) :
    ('\n' ∉ conv.methodKeyword → action ≠ [] → action.all isWord →
      (∀ offset, methodOffset? conv text action = some offset ↔
        IsLeast {n | DefinesWhole conv.methodKeyword text action n} offset) ∧
      (methodOffset? conv text action = none ↔
        ∀ n, ¬ DefinesWhole conv.methodKeyword text action n)) ∧
    ∀ offset, methodOffset? conv text action = some offset →
      DefinesAt conv.methodKeyword text action offset := by
  refine ⟨fun h hne hw => ⟨fun offset => ⟨isLeast_of_methodOffset? h hne hw, fun hleast => ?_⟩,
    not_definesWhole_of_none h hne hw, fun hnot => ?_⟩, fun _ => definesAt_of_methodOffset?⟩
  · cases ho : methodOffset? conv text action with
    | none => exact absurd hleast.1 (not_definesWhole_of_none h hne hw ho offset)
    | some found =>
      rw [(isLeast_of_methodOffset? h hne hw ho).unique hleast]
  · refine Option.eq_none_iff_forall_ne_some.2 fun offset ho => ?_
    exact hnot offset (isLeast_of_methodOffset? h hne hw ho).1

/-- A longer name and a word inside another do not count, and characters that are no word
characters stand for themselves. -/
theorem methodOffset?_first_among_longer :
    let text : Text := "def shown\nundef show\n\tdef  show\ndef show\ndef a.b\n"
    '\n' ∉ Conventions.standard.methodKeyword ∧ ("show" : Text).all isWord ∧
      methodOffset? .standard text "show" = some 31 ∧
      IsLeast {n | DefinesWhole "def" text "show" n} 31 ∧
      methodOffset? .standard text "a.b" = some 48 ∧ DefinesAt "def" text "a.b" 48 ∧
      methodOffset? .standard text "a+b" = none ∧ ∀ n, ¬ DefinesWhole "def" text "sho" n := by
  intro text
  have hk : '\n' ∉ Conventions.standard.methodKeyword := by decide
  have hw : ("show" : Text).all isWord := by decide
  have hshow : methodOffset? .standard text "show" = some 31 := by decide +kernel
  have hliteral : methodOffset? .standard text "a.b" = some 48 := by decide +kernel
  have hnone : methodOffset? .standard text "sho" = none := by decide +kernel
  obtain ⟨hfirst, -⟩ := (methodOffset?_first .standard text "show").1 hk (by decide) hw
  obtain ⟨-, hnever⟩ := (methodOffset?_first .standard text "sho").1 hk (by decide) (by decide)
  have hat := (methodOffset?_first .standard text "a.b").2 48 hliteral
  exact ⟨hk, hw, hshow, (hfirst 31).1 hshow, hliteral, hat, by decide +kernel, hnever.1 hnone⟩

end Counterpart
