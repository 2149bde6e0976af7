import Mathlib.Data.List.TakeWhile
import Counterpart.Proofs.Definitions

/-! The method around a cursor depends on one stretch of lines only. A definition before the cursor
hides everything before it, lines after the cursor do not matter, and lines that leave no method
open can be taken away. -/

namespace Counterpart

theorem trimEnd_append_takeWhile (p : Char → Bool) (s : Text) :
    Text.trimEnd p s ++ (s.reverse.takeWhile p).reverse = s := by
  rw [Text.trimEnd, ← List.reverse_append, List.takeWhile_append_dropWhile, List.reverse_reverse]

/-- Carriage returns at the end of a line make no difference to whether it closes. -/
theorem closes_iff {endKeyword line : Text} {indent : Nat} (he : endKeyword ≠ []) :
    closes endKeyword indent line ↔
      Text.trim isBlank line = endKeyword ∧ leadingBlanks line ≤ indent := by
  obtain ⟨stem, returns, hline, hstem, hall⟩ : ∃ stem returns, line = stem ++ returns ∧
      Text.trimEnd (· == '\r') line = stem ∧ returns.all isBlank := by
    refine ⟨_, _, (trimEnd_append_takeWhile (· == '\r') line).symm, rfl, ?_⟩
    have hr : (line.reverse.takeWhile (· == '\r')).all (· == '\r') := List.all_takeWhile
    simp only [List.all_reverse, List.all_eq_true, beq_iff_eq] at hr ⊢
    intro c hc
    rw [hr c hc]
    decide
  simp only [closes, hstem, Bool.and_eq_true, beq_iff_eq, decide_eq_true_eq]
  have hdrop : returns.dropWhile isBlank = [] :=
    List.dropWhile_eq_nil_iff.2 (List.all_eq_true.1 hall)
  by_cases hblank : stem.dropWhile isBlank = []
  · have hnil : Text.trim isBlank stem = [] := by
      rw [Text.trim, Text.trimStart, hblank]
      rfl
    have hnil' : Text.trim isBlank line = [] := by
      rw [Text.trim, Text.trimStart, hline, List.dropWhile_append, hblank, List.isEmpty_nil,
        if_pos rfl, hdrop]
      rfl
    simp [hnil, hnil', he.symm]
  · have htrim : Text.trim isBlank line = Text.trim isBlank stem := by
      rw [Text.trim, Text.trimStart, hline, List.dropWhile_append,
        if_neg (by simpa using hblank), Text.trimEnd_append_of_all _ hall]
      rfl
    have hleading : leadingBlanks line = leadingBlanks stem := by
      have hlen : (stem.takeWhile isBlank).length ≠ stem.length := fun hlen => hblank <| by
        have := congrArg List.length (List.takeWhile_append_dropWhile (p := isBlank) (l := stem))
        rw [List.length_append] at this
        exact List.eq_nil_of_length_eq_zero (by omega)
      rw [leadingBlanks, leadingBlanks, hline, List.takeWhile_append, if_neg hlen]
    rw [htrim, hleading]

/-- The lines of a text after the line of a definition. -/
def Definition.body (d : Definition) (text : Text) : List Text :=
  ((text.drop d.start).splitOn '\n').tail

/-- A text that ends where the cursor is closes the definition. -/
def Definition.isClosed (conv : Conventions) (d : Definition) (text : Text) : Bool :=
  (d.body text).any (closes conv.blockEndKeyword d.indent)

@[simp] theorem take_clampOffset (text : Text) (cursor : Int) :
    text.take (clampOffset text cursor) = text.take cursor.toNat := by
  rw [clampOffset, ← List.take_eq_take_min]

theorem take_newline {a b : Text} (n : Nat) :
    (a ++ '\n' :: b).take (a.length + 1 + n) = a ++ '\n' :: b.take n := by
  have he : a.length + 1 + n - a.length = n + 1 := by omega
  rw [List.take_append, List.take_of_length_le (by omega), he, List.take_succ_cons]

theorem count_take_newline (a b : Text) :
    ((a ++ '\n' :: b).take (a.length + 1)).count '\n' = a.count '\n' + 1 := by
  have htake : (a ++ '\n' :: b).take (a.length + 1) = a ++ ['\n'] := take_newline 0
  rw [htake, List.count_append, List.count_singleton_self]

theorem mem_definitionsFrom {keyword : Text} {resume : Nat} {lines : List (Nat × Text)}
    {d : Definition} (h : d ∈ definitionsFrom keyword resume lines) :
    ∃ start line, (start, line) ∈ lines ∧ definitionAt? keyword start line = some d := by
  induction lines generalizing resume with
  | nil => simp [definitionsFrom] at h
  | cons p lines ih =>
    obtain ⟨start, line⟩ := p
    have later {resume : Nat} (h : d ∈ definitionsFrom keyword resume lines) :
        ∃ start' line', (start', line') ∈ (start, line) :: lines ∧
          definitionAt? keyword start' line' = some d := by
      obtain ⟨start', line', hmem, hd⟩ := ih h
      exact ⟨start', line', List.mem_cons_of_mem _ hmem, hd⟩
    rw [definitionsFrom] at h
    split at h
    · exact later h
    · cases hd : definitionAt? keyword start line with
      | none => exact later (by simpa [hd] using h)
      | some e =>
        rcases (by simpa [hd] using h : d = e ∨ _) with rfl | h
        · exact ⟨start, line, List.mem_cons_self, hd⟩
        · exact later h

theorem eq_drop_of_mem_lineStarts {n : Nat} {s t : Text} (h : (n, t) ∈ lineStarts s) :
    t = s.drop n ∧ n ≤ s.length := by
  rcases mem_lineStarts.1 h with ⟨rfl, rfl⟩ | ⟨u, rfl, rfl⟩
  · simp
  · exact ⟨by simp [List.drop_append], by simp⟩

theorem mem_definitions {keyword text : Text} {d : Definition} (h : d ∈ definitions keyword text) :
    (d.start, text.drop d.start) ∈ lineStarts text ∧ ∃ width,
      NamesAt keyword (text.drop d.start) width ∧ d.nameStart = d.start + width ∧
      d.name = (text.drop d.nameStart).takeWhile isWord ∧ d.name ≠ [] := by
  obtain ⟨start, line, hmem, hd⟩ := mem_definitionsFrom h
  obtain ⟨rfl, -⟩ := eq_drop_of_mem_lineStarts hmem
  obtain ⟨rfl, width, hw, hn, hname, hne⟩ := definitionAt?_eq_some hd
  refine ⟨hmem, width, hw, hn, ?_, hne⟩
  rw [hname, List.drop_drop, hn]

/-- The line that starts at an offset defines a name, of which the text before the cursor shows at
least one character. -/
def Visible (keyword text : Text) (cursor start width : Nat) : Prop :=
  (start, text.drop start) ∈ lineStarts text ∧ NamesAt keyword (text.drop start) width ∧
    start + width < cursor

/-- The last of the visible definitions. -/
def LastVisible (keyword text : Text) (cursor start width : Nat) : Prop :=
  Visible keyword text cursor start width ∧
    ∀ start' width', Visible keyword text cursor start' width' → start' ≤ start

theorem mem_lineStarts_take {start n : Nat} {text : Text} (hn : start ≤ n) :
    (start, (text.take n).drop start) ∈ lineStarts (text.take n) ↔
      (start, text.drop start) ∈ lineStarts text := by
  constructor
  · intro h
    rcases mem_lineStarts.1 h with ⟨rfl, -⟩ | ⟨u, hu, rfl⟩
    · exact mem_lineStarts.2 (.inl ⟨rfl, List.drop_zero⟩)
    · refine mem_lineStarts.2 (.inr ⟨u, ?_, rfl⟩)
      have htext := List.take_append_drop n text
      rw [hu, List.append_assoc] at htext
      rw [← htext]
      simp [List.drop_append]
  · intro h
    rcases mem_lineStarts.1 h with ⟨rfl, -⟩ | ⟨u, hu, rfl⟩
    · exact mem_lineStarts.2 (.inl ⟨rfl, List.drop_zero⟩)
    · refine mem_lineStarts.2 (.inr ⟨u, ?_, rfl⟩)
      obtain ⟨k, rfl⟩ := Nat.exists_eq_add_of_le hn
      rw [List.drop_take, Nat.add_sub_cancel_left]
      exact (congrArg _ hu).trans (take_newline k)

theorem visible_of_mem {keyword text : Text} {cursor : Nat} {d : Definition}
    (h : d ∈ definitions keyword (text.take cursor)) :
    ∃ width, Visible keyword text cursor d.start width ∧ d.nameStart = d.start + width := by
  obtain ⟨hmem, width, hw, hn, -⟩ := mem_definitions h
  have hlt := hw.lt_length
  rw [List.drop_take] at hw
  rw [List.length_drop, List.length_take] at hlt
  exact ⟨width, ⟨(mem_lineStarts_take (by omega)).1 hmem, hw.of_take, by omega⟩, hn⟩

theorem Visible.exists_mem {keyword text : Text} {cursor start width : Nat} (h : '\n' ∉ keyword)
    (hv : Visible keyword text cursor start width) :
    ∃ d ∈ definitions keyword (text.take cursor), d.start = start := by
  obtain ⟨hmem, hw, hlt⟩ := hv
  have hcut : NamesAt keyword ((text.take cursor).drop start) width := by
    rw [List.drop_take]
    exact hw.take (by omega)
  obtain ⟨d, hd, hs, -⟩ := hcut.exists_definitionAt? start
  refine ⟨d, ?_, hs⟩
  rw [definitions_eq_filterMap h]
  exact List.mem_filterMap.2 ⟨_, (mem_lineStarts_take (by omega)).2 hmem, hd⟩

theorem Definition.start_le_getLast {keyword text : Text} (h : '\n' ∉ keyword) {d e : Definition}
    (hd : (definitions keyword text).getLast? = some d) (he : e ∈ definitions keyword text) :
    e.start ≤ d.start := by
  obtain ⟨before, hb⟩ := List.getLast?_eq_some_iff.1 hd
  have hpair := definitions_pairwise h text
  rw [hb] at he hpair
  rcases List.mem_append.1 he with he | he
  · have hlt := (List.pairwise_append.1 hpair).2.2 e he d (by simp)
    have : e.start ≤ e.stop := by
      obtain ⟨-, width, -, hn, -⟩ := mem_definitions (hb ▸ List.mem_append_left _ he)
      rw [Definition.stop]
      omega
    omega
  · exact Nat.le_of_eq (congrArg Definition.start (List.mem_singleton.1 he))

theorem lastVisible_of_getLast? {keyword text : Text} (h : '\n' ∉ keyword) {cursor : Nat}
    {d : Definition} (hd : (definitions keyword (text.take cursor)).getLast? = some d) :
    ∃ width, LastVisible keyword text cursor d.start width ∧ d.nameStart = d.start + width := by
  obtain ⟨width, hv, hn⟩ := visible_of_mem (List.mem_of_getLast? hd)
  refine ⟨width, ⟨hv, fun start' width' hv' => ?_⟩, hn⟩
  obtain ⟨e, he, rfl⟩ := hv'.exists_mem h
  exact Definition.start_le_getLast h hd he

theorem Definition.nameStart_lt {keyword text : Text} {d : Definition}
    (h : d ∈ definitions keyword text) : d.start ≤ d.nameStart ∧ d.nameStart < text.length := by
  obtain ⟨-, width, hw, hn, -⟩ := mem_definitions h
  have := hw.lt_length
  rw [List.length_drop] at this
  omega

variable {conv : Conventions} {text a b : Text} {cursor : Int}

theorem enclosure_of_none (h : definitions conv.methodKeyword (text.take cursor.toNat) = []) :
    enclosure conv text cursor = .outside := by
  simp [enclosure, h]

/-- The last definition that begins before the cursor settles how the cursor lies. Its name is read
to the end, and so are its lines up to the cursor. -/
theorem enclosure_of_last {d : Definition}
    (h : (definitions conv.methodKeyword (text.take cursor.toNat)).getLast? = some d) :
    enclosure conv text cursor =
      match (d.body (text.take cursor.toNat)).findIdx? (closes conv.blockEndKeyword d.indent) with
      | none => .inside ((text.drop d.nameStart).takeWhile isWord)
      | some i => .closed ((text.drop d.nameStart).takeWhile isWord)
          (((text.take cursor.toNat).take d.start).count '\n' + i + 2) := by
  obtain ⟨-, width, hw, hn, -⟩ := mem_definitions (List.mem_of_getLast? h)
  have hw' : NamesAt conv.methodKeyword (text.drop d.start) width :=
    (List.drop_take ▸ hw : NamesAt _ ((text.drop d.start).take _) width).of_take
  obtain ⟨whole, hwhole, -, -, hname⟩ := hw'.exists_definitionAt? d.start
  rw [List.drop_drop, ← hn] at hname
  simp only [enclosure, take_clampOffset, h, hwhole, Option.getD_some, hname]
  rfl

theorem enclosingMethod?_of_none
    (h : definitions conv.methodKeyword (text.take cursor.toNat) = []) :
    enclosingMethod? conv text cursor = none := by
  rw [enclosingMethod?, enclosure_of_none h]
  rfl

theorem enclosingMethod?_of_last {d : Definition}
    (h : (definitions conv.methodKeyword (text.take cursor.toNat)).getLast? = some d) :
    enclosingMethod? conv text cursor =
      if d.isClosed conv (text.take cursor.toNat) then none
      else some ((text.drop d.nameStart).takeWhile isWord) := by
  have hclosed : d.isClosed conv (text.take cursor.toNat) =
      ((d.body (text.take cursor.toNat)).findIdx? (closes conv.blockEndKeyword d.indent)).isSome :=
    List.findIdx?_isSome.symm
  rw [enclosingMethod?, enclosure_of_last h, hclosed]
  cases (d.body (text.take cursor.toNat)).findIdx? (closes conv.blockEndKeyword d.indent) <;> rfl

/-- A definition before the cursor hides the lines before its own. -/
theorem enclosingMethod?_of_later (h : '\n' ∉ conv.methodKeyword) {n : Nat}
    (hn : definitions conv.methodKeyword (b.take n) ≠ []) :
    enclosingMethod? conv (a ++ '\n' :: b) ((a.length + 1 + n : Nat) : Int) =
      enclosingMethod? conv b n := by
  obtain ⟨d, hd⟩ : ∃ d, (definitions conv.methodKeyword (b.take n)).getLast? = some d :=
    ⟨_, List.getLast?_eq_some_getLast hn⟩
  have hdrop (s : Text) (k : Nat) : (a ++ '\n' :: s).drop (a.length + 1 + k) = s.drop k := by
    rw [Nat.add_assoc, ← List.drop_drop, List.drop_left, Nat.add_comm 1, List.drop_succ_cons]
  have hclosed : (d.moved (a.length + 1)).isClosed conv (a ++ '\n' :: b.take n) =
      d.isClosed conv (b.take n) := by
    simp only [Definition.isClosed, Definition.body, Definition.moved, hdrop]
  have hlower : (definitions conv.methodKeyword (b.take (n : Int).toNat)).getLast? = some d := hd
  have hlast : (definitions conv.methodKeyword
      ((a ++ '\n' :: b).take ((a.length + 1 + n : Nat) : Int).toNat)).getLast? =
        some (d.moved (a.length + 1)) := by
    rw [Int.toNat_natCast, take_newline, definitions_newline h, List.getLast?_append,
      List.getLast?_map, hd]
    rfl
  rw [enclosingMethod?_of_last hlower, enclosingMethod?_of_last hlast,
    Int.toNat_natCast, Int.toNat_natCast, take_newline, hclosed]
  simp only [Definition.moved, hdrop]

/-- Lines after the one with the cursor do not matter. -/
theorem enclosingMethod?_of_le {n : Nat} (hn : n ≤ a.length) :
    enclosingMethod? conv (a ++ '\n' :: b) n = enclosingMethod? conv a n := by
  have htake : (a ++ '\n' :: b).take n = a.take n := List.take_append_of_le_length hn
  cases hd : (definitions conv.methodKeyword (a.take n)).getLast? with
  | none =>
    rw [List.getLast?_eq_none_iff] at hd
    rw [enclosingMethod?_of_none (by simpa [htake] using hd),
      enclosingMethod?_of_none (by simpa using hd)]
  | some d =>
    have hlt := (Definition.nameStart_lt (List.mem_of_getLast? hd)).2
    rw [List.length_take] at hlt
    rw [enclosingMethod?_of_last (d := d) (by simpa [htake] using hd),
      enclosingMethod?_of_last (d := d) (by simpa using hd), Int.toNat_natCast, htake,
      List.drop_append_of_le_length (by omega), takeWhile_newline isWord_newline]

/-- Lines that leave no method open can be taken away. -/
theorem enclosingMethod?_of_closed (h : '\n' ∉ conv.methodKeyword)
    (ha : enclosingMethod? conv a a.length = none) (n : Nat) :
    enclosingMethod? conv (a ++ '\n' :: b) ((a.length + 1 + n : Nat) : Int) =
      enclosingMethod? conv b n := by
  by_cases hn : definitions conv.methodKeyword (b.take n) = []
  · have hnone : enclosingMethod? conv b n = none := enclosingMethod?_of_none hn
    rw [hnone]
    have hdefs : definitions conv.methodKeyword
        ((a ++ '\n' :: b).take ((a.length + 1 + n : Nat) : Int).toNat) =
          definitions conv.methodKeyword a := by
      rw [Int.toNat_natCast, take_newline, definitions_newline h, hn, List.map_nil,
        List.append_nil]
    cases hd : (definitions conv.methodKeyword a).getLast? with
    | none => exact enclosingMethod?_of_none (by rwa [hdefs, ← List.getLast?_eq_none_iff])
    | some d =>
      have hle := Definition.nameStart_lt (List.mem_of_getLast? hd)
      have hclosed : d.isClosed conv a = true := by
        rw [enclosingMethod?_of_last (d := d) (by simpa using hd)] at ha
        simpa using ha
      have hbody : d.body (a ++ '\n' :: b.take n) = d.body a ++ (b.take n).splitOn '\n' := by
        rw [Definition.body, List.drop_append_of_le_length (by omega),
          List.splitOn_append_cons_self, List.tail_append_of_ne_nil (by simp), Definition.body]
      have hstill : d.isClosed conv (a ++ '\n' :: b.take n) = true := by
        rw [Definition.isClosed, hbody, List.any_append]
        exact Bool.or_eq_true_iff.2 (.inl hclosed)
      rw [enclosingMethod?_of_last (hdefs ▸ hd), Int.toNat_natCast, take_newline, if_pos hstill]
  · exact enclosingMethod?_of_later h hn

end Counterpart
