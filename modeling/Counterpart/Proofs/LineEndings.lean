import Counterpart.Proofs.MethodSearch
import Counterpart.Proofs.Positions

/-! Lines that end in a carriage return and a newline are read like lines that end in a newline. An
offset of the one text stands for the same place as the offset of the other that has as many
characters more as there are newlines before it. -/

namespace Counterpart

/-- The text with CR LF for every newline. -/
def crlf (s : Text) : Text := s.flatMap fun c => if c = '\n' then ['\r', '\n'] else [c]

/-- The offset of a place once every newline before it has become two characters. -/
def crlfOffset (text : Text) (offset : Nat) : Nat := offset + (text.take offset).count '\n'

def Definition.inCrlf (text : Text) (d : Definition) : Definition :=
  { d with start := crlfOffset text d.start, nameStart := crlfOffset text d.nameStart }

theorem line_induction {motive : Text → Prop} (line : ∀ s, '\n' ∉ s → motive s)
    (newline : ∀ a b, '\n' ∉ a → motive b → motive (a ++ '\n' :: b)) (s : Text) : motive s := by
  by_cases h : '\n' ∈ s
  · -- What follows the first newline is shorter.
    obtain ⟨a, b, rfl, ha⟩ := List.eq_append_cons_of_mem h
    exact newline a b ha (line_induction line newline b)
  · exact line s h
termination_by s.length
decreasing_by simp_all; omega

section

variable {s a b : Text} {n : Nat}

theorem crlf_append (a b : Text) : crlf (a ++ b) = crlf a ++ crlf b := List.flatMap_append

theorem crlf_cons (c : Char) (s : Text) :
    crlf (c :: s) = if c = '\n' then '\r' :: '\n' :: crlf s else c :: crlf s := by
  rw [crlf, List.flatMap_cons]
  split <;> rfl

theorem crlf_line (h : '\n' ∉ s) : crlf s = s := by
  induction s with
  | nil => rfl
  | cons c s ih =>
    have hc : c ≠ '\n' := fun hc => h (hc ▸ List.mem_cons_self)
    rw [crlf_cons, if_neg hc, ih fun hmem => h (List.mem_cons_of_mem c hmem)]

theorem crlf_newline (ha : '\n' ∉ a) (b : Text) :
    crlf (a ++ '\n' :: b) = (a ++ ['\r']) ++ '\n' :: crlf b := by
  rw [crlf_append, crlf_line ha, crlf_cons, if_pos rfl, List.append_assoc]
  rfl

theorem length_crlf (s : Text) : (crlf s).length = s.length + s.count '\n' := by
  induction s with
  | nil => rfl
  | cons c s ih =>
    rw [crlf_cons]
    by_cases hc : c = '\n'
    · simp only [hc, if_true, List.length_cons, List.count_cons_self, ih]
      omega
    · rw [if_neg hc, List.length_cons, List.length_cons, List.count_cons_of_ne hc, ih]
      omega

theorem count_crlf (s : Text) : (crlf s).count '\n' = s.count '\n' := by
  induction s with
  | nil => rfl
  | cons c s ih =>
    rw [crlf_cons]
    by_cases hc : c = '\n'
    · rw [if_pos hc, hc, List.count_cons_of_ne (by decide), List.count_cons_self,
        List.count_cons_self, ih]
    · rw [if_neg hc, List.count_cons_of_ne hc, List.count_cons_of_ne hc, ih]

/-- A place of the one text and the same place of the other cut off the same characters. -/
theorem crlf_cut (hn : n ≤ s.length) : ∃ before after, crlf s = before ++ after ∧
    before.length = crlfOffset s n ∧ before = crlf (s.take n) ∧ after = crlf (s.drop n) := by
  refine ⟨crlf (s.take n), crlf (s.drop n), ?_, ?_, rfl, rfl⟩
  · rw [← crlf_append, List.take_append_drop]
  · rw [length_crlf, List.length_take, Nat.min_eq_left hn, crlfOffset]

theorem take_crlf (s : Text) (n : Nat) : (crlf s).take (crlfOffset s n) = crlf (s.take n) := by
  rcases Nat.le_total n s.length with hn | hn
  · obtain ⟨before, after, hcut, hlength, rfl, -⟩ := crlf_cut hn
    rw [hcut, List.take_left' hlength]
  · have hlength : (crlf s).length ≤ crlfOffset s n := by
      rw [length_crlf, crlfOffset, List.take_of_length_le hn]
      omega
    rw [List.take_of_length_le hlength, List.take_of_length_le hn]

theorem drop_crlf (hn : n ≤ s.length) : (crlf s).drop (crlfOffset s n) = crlf (s.drop n) := by
  obtain ⟨before, after, hcut, hlength, -, rfl⟩ := crlf_cut hn
  rw [hcut, List.drop_left' hlength]

theorem takeWhile_crlf {p : Char → Bool} (hp : p '\n' = false) (hp' : p '\r' = false) (s : Text) :
    (crlf s).takeWhile p = s.takeWhile p := by
  induction s with
  | nil => rfl
  | cons c s ih =>
    rw [crlf_cons]
    by_cases hc : c = '\n'
    · rw [if_pos hc, hc, List.takeWhile_cons_of_neg (by simp [hp']),
        List.takeWhile_cons_of_neg (by simp [hp])]
    · rw [if_neg hc, List.takeWhile_cons, List.takeWhile_cons, ih]

theorem crlfOffset_of_le (h : n ≤ a.length) (b : Text) :
    crlfOffset (a ++ b) n = crlfOffset a n := by
  rw [crlfOffset, crlfOffset, List.take_append_of_le_length h]

/-- A word that starts before a cut is read alike behind it. -/
theorem word_crlf {cut : Nat} (hn : n < (s.take cut).length) :
    ((crlf s).drop (crlfOffset (s.take cut) n)).takeWhile isWord =
      (s.drop n).takeWhile isWord := by
  rw [List.length_take] at hn
  have hoffset : crlfOffset (s.take cut) n = crlfOffset s n := by
    rw [crlfOffset, List.take_take, Nat.min_eq_left (by omega), crlfOffset]
  rw [hoffset, drop_crlf (by omega), takeWhile_crlf isWord_newline (by decide)]

theorem crlfOffset_line (ha : '\n' ∉ a) (n : Nat) : crlfOffset a n = n := by
  rw [crlfOffset, List.count_eq_zero.2 fun hmem => ha (List.mem_of_mem_take hmem), Nat.add_zero]

theorem crlfOffset_newline (ha : '\n' ∉ a) (b : Text) (n : Nat) :
    crlfOffset (a ++ '\n' :: b) (a.length + 1 + n) = (a ++ ['\r']).length + 1 + crlfOffset b n := by
  rw [crlfOffset, take_newline, List.count_append, List.count_eq_zero.2 ha, List.count_cons_self,
    crlfOffset, List.length_append, List.length_singleton]
  omega

end

/-! ### Definitions and ends -/

section

variable {keyword : Text}

theorem definitions_return (hr : '\r' ∉ keyword) {line : Text} (hline : '\n' ∉ line) :
    definitions keyword (line ++ ['\r']) = definitions keyword line := by
  rw [definitions_of_line hline, definitions_of_line (by simpa using hline),
    definitionAt?_append_stop hr (by decide) (by decide)]

theorem map_inCrlf_line {line : Text} (hline : '\n' ∉ line) (rest : Text) :
    (definitions keyword line).map (Definition.inCrlf (line ++ rest)) =
      definitions keyword line := by
  refine (List.map_congr_left fun d hd => ?_).trans (List.map_id _)
  obtain ⟨hle, hlt⟩ := Definition.nameStart_lt hd
  rw [Definition.inCrlf, crlfOffset_of_le (by omega), crlfOffset_of_le (by omega),
    crlfOffset_line hline, crlfOffset_line hline]
  rfl

/-- The definitions of both texts are the same, place by place. -/
theorem definitions_crlf (h : '\n' ∉ keyword) (hr : '\r' ∉ keyword) (s : Text) :
    definitions keyword (crlf s) = (definitions keyword s).map (Definition.inCrlf s) := by
  induction s using line_induction with
  | line s hs =>
    have hsame : (definitions keyword s).map (Definition.inCrlf (s ++ [])) =
        definitions keyword s := map_inCrlf_line hs []
    rw [List.append_nil] at hsame
    rw [crlf_line hs, hsame]
  | newline a b ha ih =>
    -- Nothing moves on the first line, and behind it everything moves with its newline.
    rw [crlf_newline ha, definitions_newline h, definitions_newline h, definitions_return hr ha,
      ih, List.map_append, map_inCrlf_line ha, List.map_map, List.map_map]
    refine congrArg _ (List.map_congr_left fun d _ => ?_)
    simp only [Function.comp, Definition.moved, Definition.inCrlf, crlfOffset_newline ha]

theorem closes_return (endKeyword : Text) (indent : Nat) (line : Text) :
    closes endKeyword indent (line ++ ['\r']) = closes endKeyword indent line := by
  rw [closes, closes, Text.trimEnd_append_of_all _ (by decide)]

theorem map_closes_crlf (endKeyword : Text) (indent : Nat) (s : Text) :
    ((crlf s).splitOn '\n').map (closes endKeyword indent) =
      (s.splitOn '\n').map (closes endKeyword indent) := by
  induction s using line_induction with
  | line s hs => rw [crlf_line hs]
  | newline a b ha ih =>
    have ha' : '\n' ∉ a ++ ['\r'] := by simpa using ha
    rw [crlf_newline ha, List.splitOn_append_cons_self_of_not_mem ha',
      List.splitOn_append_cons_self_of_not_mem ha, List.map_cons, List.map_cons, closes_return, ih]

theorem Definition.findIdx?_body_crlf (endKeyword : Text) (indent : Nat) (d : Definition)
    {s : Text} (h : d.start ≤ s.length) :
    ((d.inCrlf s).body (crlf s)).findIdx? (closes endKeyword indent) =
      (d.body s).findIdx? (closes endKeyword indent) := by
  have hmap (lines : List Text) : lines.findIdx? (closes endKeyword indent) =
      (lines.map (closes endKeyword indent)).findIdx? id := by
    rw [List.findIdx?_map]
    rfl
  have hdrop : (crlf s).drop (d.inCrlf s).start = crlf (s.drop d.start) :=
    drop_crlf h
  rw [hmap, hmap, Definition.body, Definition.body, List.map_tail, List.map_tail, hdrop,
    map_closes_crlf]

end

/-! ### Cursors and positions -/

section

variable {conv : Conventions}

/-- However the cursor lies to the definitions before it, it lies so in both texts. -/
theorem enclosure_crlf (h : '\n' ∉ conv.methodKeyword) (hr : '\r' ∉ conv.methodKeyword)
    (text : Text) (cursor : Nat) :
    enclosure conv (crlf text) (crlfOffset text cursor : Nat) = enclosure conv text cursor := by
  have htake : (crlf text).take ((crlfOffset text cursor : Nat) : Int).toNat =
      crlf (text.take cursor) := take_crlf text cursor
  have htoNat : text.take (cursor : Int).toNat = text.take cursor := rfl
  have hdefs := definitions_crlf h hr (text.take cursor)
  cases hd : (definitions conv.methodKeyword (text.take cursor)).getLast? with
  | none =>
    have hnone := List.getLast?_eq_none_iff.1 hd
    rw [hnone, List.map_nil, ← htake] at hdefs
    rw [← htoNat] at hnone
    rw [enclosure_of_none hnone, enclosure_of_none hdefs]
  | some d =>
    obtain ⟨hstart, hlt⟩ := Definition.nameStart_lt (List.mem_of_getLast? hd)
    have hlast := congrArg List.getLast? hdefs
    rw [List.getLast?_map, hd, Option.map_some, ← htake] at hlast
    have hword : ((crlf text).drop (d.inCrlf (text.take cursor)).nameStart).takeWhile isWord =
        (text.drop d.nameStart).takeWhile isWord := word_crlf hlt
    have hline : ((crlf (text.take cursor)).take (d.inCrlf (text.take cursor)).start).count '\n' =
        ((text.take cursor).take d.start).count '\n' := by
      rw [Definition.inCrlf, take_crlf, count_crlf]
    have hindent : (d.inCrlf (text.take cursor)).indent = d.indent := rfl
    rw [enclosure_of_last hlast, enclosure_of_last (htoNat ▸ hd), htake, htoNat, hindent,
      d.findIdx?_body_crlf _ _ (by omega), hword, hline]

theorem enclosingMethod?_crlf (h : '\n' ∉ conv.methodKeyword) (hr : '\r' ∉ conv.methodKeyword)
    (text : Text) (cursor : Nat) :
    enclosingMethod? conv (crlf text) (crlfOffset text cursor : Nat) =
      enclosingMethod? conv text cursor := by
  rw [enclosingMethod?, enclosingMethod?, enclosure_crlf h hr]

theorem columnsAfter_crlf (s : Text) : columnsAfter (crlf s) = columnsAfter s := by
  induction s using line_induction with
  | line s hs => rw [crlf_line hs]
  | newline a b ha ih =>
    have hlast (a b : Text) : columnsAfter (a ++ '\n' :: b) = columnsAfter b := by
      rw [columnsAfter, List.reverse_append, List.reverse_cons, List.append_assoc,
        List.singleton_append, takeWhile_newline (by decide), columnsAfter]
    rw [crlf_newline ha, hlast, hlast, ih]

theorem positionOf_crlf (text : Text) (cursor : Nat) :
    positionOf (crlf text) (crlfOffset text cursor : Nat) = positionOf text cursor := by
  have htake : (crlf text).take (clampOffset (crlf text) (crlfOffset text cursor : Nat)) =
      crlf (text.take (clampOffset text cursor)) := by
    rw [take_clampOffset, take_clampOffset]
    exact take_crlf text cursor
  rw [positionOf_eq, positionOf_eq, htake, count_crlf, columnsAfter_crlf]

theorem Definition.stop_crlf {keyword s : Text} {d : Definition} (h : d ∈ definitions keyword s) :
    (d.inCrlf s).stop = crlfOffset s d.stop := by
  obtain ⟨-, width, -, -, hname, -⟩ := mem_definitions h
  have hword : '\n' ∉ d.name := newline_not_mem_of_isWord (hname ▸ List.all_takeWhile)
  have hat : (s.drop d.nameStart).take d.name.length = d.name := by
    rw [hname, ← List.prefix_iff_eq_take.1 (List.takeWhile_prefix isWord)]
  have hcount : (s.take (d.nameStart + d.name.length)).count '\n' =
      (s.take d.nameStart).count '\n' := by
    rw [List.take_add, hat, List.count_append, List.count_eq_zero.2 hword, Nat.add_zero]
  simp only [stop, Definition.inCrlf, crlfOffset, hcount]
  omega

theorem methodOffset?_crlf (h : '\n' ∉ conv.methodKeyword) (hr : '\r' ∉ conv.methodKeyword)
    (text : Text) {action : Text} (hne : action ≠ []) (hw : action.all isWord) :
    methodOffset? conv (crlf text) action =
      (methodOffset? conv text action).map (crlfOffset text) := by
  have hsame : (fun d : Definition => d.name == action) ∘ Definition.inCrlf text =
      fun d => d.name == action := rfl
  rw [methodOffset?_eq_find? h hne hw, methodOffset?_eq_find? h hne hw, definitions_crlf h hr,
    List.find?_map, hsame, Option.map_map, Option.map_map]
  refine Option.map_congr fun d hd => ?_
  exact Definition.stop_crlf (List.mem_of_find?_eq_some hd)

end

/-- Which of the two ends a text's lines have does not matter: a cursor has the same method and the
same position in both, and a method is defined at the same place. -/
theorem line_endings_alike (conv : Conventions) (h : '\n' ∉ conv.methodKeyword)
    (hr : '\r' ∉ conv.methodKeyword) (text : Text) :
    (∀ cursor : Nat,
      enclosingMethod? conv (crlf text) (crlfOffset text cursor : Nat) =
          enclosingMethod? conv text cursor ∧
        positionOf (crlf text) (crlfOffset text cursor : Nat) = positionOf text cursor) ∧
    ∀ action : Text, action ≠ [] → action.all isWord →
      methodOffset? conv (crlf text) action =
        (methodOffset? conv text action).map (crlfOffset text) :=
  ⟨fun cursor => ⟨enclosingMethod?_crlf h hr text cursor, positionOf_crlf text cursor⟩,
    fun _ hne hw => methodOffset?_crlf h hr text hne hw⟩

/-- A cursor inside the second name has three line ends before it. -/
theorem line_endings_alike_in_name :
    let text : Text := "def index\n  x\nend\ndef show\n"
    let returned : Text := "def index\r\n  x\r\nend\r\ndef show\r\n"
    '\n' ∉ Conventions.standard.methodKeyword ∧ '\r' ∉ Conventions.standard.methodKeyword ∧
      ("show" : Text).all isWord ∧
      enclosingMethod? .standard returned 27 = enclosingMethod? .standard text 24 ∧
      enclosingMethod? .standard text 24 = some ("show" : Text) ∧
      positionOf returned 27 = ⟨4, 7⟩ ∧ methodOffset? .standard returned "show" = some 29 := by
  intro text returned
  have h : '\n' ∉ Conventions.standard.methodKeyword := by decide
  have hr : '\r' ∉ Conventions.standard.methodKeyword := by decide
  have hw : ("show" : Text).all isWord := by decide
  have htext : crlf text = returned := by decide +kernel
  have hcursor : crlfOffset text 24 = 27 := by decide +kernel
  obtain ⟨halike, hdefined⟩ := line_endings_alike .standard h hr text
  obtain ⟨hmethod, hposition⟩ := halike 24
  rw [htext, hcursor] at hmethod hposition
  have hfound := hdefined "show" (by decide) hw
  rw [htext] at hfound
  refine ⟨h, hr, hw, hmethod, by decide +kernel, hposition.trans (by decide +kernel), ?_⟩
  exact hfound.trans (by decide +kernel)

end Counterpart
