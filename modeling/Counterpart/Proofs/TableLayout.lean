import Mathlib.Algebra.BigOperators.Group.List.Basic
import Mathlib.Algebra.GroupWithZero.Nat
import Counterpart.Proofs.Segments
import Counterpart.Table

/-! Laying out a table. A text is cut to a number of cells at its clusters, which take as many cells
as the text unless a joiner starts a line. Without joiners nothing on the way to the lines of a
table can fail. -/

namespace Counterpart

/-- The computation succeeds, with a result of this kind. -/
def Yields {ε α : Type} (P : α → Prop) (x : Except ε α) : Prop := ∃ a, x = .ok a ∧ P a

namespace Yields

variable {ε ε' α β : Type} {P : α → Prop} {Q : β → Prop} {x : Except ε α} {a : α}

theorem ok (h : P a) : Yields P (.ok a : Except ε α) := ⟨a, rfl, h⟩

theorem bind {f : α → Except ε β} (hx : Yields P x) (hf : ∀ a, P a → Yields Q (f a)) :
    Yields Q (x >>= f) := by
  obtain ⟨a, rfl, ha⟩ := hx
  exact hf a ha

theorem map {f : α → β} (hx : Yields P x) (hf : ∀ a, P a → Q (f a)) : Yields Q (x.map f) := by
  obtain ⟨a, rfl, ha⟩ := hx
  exact ok (hf a ha)

theorem mapError (hx : Yields P x) (f : ε → ε') : Yields P (x.mapError f) := by
  obtain ⟨a, rfl, ha⟩ := hx
  exact ok ha

theorem mapM {f : α → Except ε β} {l : List α} (h : ∀ a ∈ l, Yields Q (f a)) :
    Yields (∀ b ∈ ·, Q b) (l.mapM f) := by
  induction l with
  | nil => exact ok (by simp)
  | cons a l ih =>
    rw [List.forall_mem_cons] at h
    rw [List.mapM_cons]
    refine h.1.bind fun b hb => (ih h.2).bind fun l' hl => ok ?_
    exact List.forall_mem_cons.2 ⟨hb, hl⟩

end Yields

/-! ### Texts without joiners -/

/-- No character is drawn into the one before it. -/
def Unjoined (s : Text) : Prop := joiner ∉ s

instance : DecidablePred Unjoined := fun s => inferInstanceAs (Decidable (joiner ∉ s))

namespace Unjoined

variable {s t : Text} {c : Char}

theorem of_subset (h : Unjoined s) (ht : t ⊆ s) : Unjoined t := fun hmem => h (ht hmem)

theorem append (hs : Unjoined s) (ht : Unjoined t) : Unjoined (s ++ t) := fun hmem =>
  (List.mem_append.1 hmem).elim hs ht

theorem replicate (h : c ≠ joiner) (n : Nat) : Unjoined (List.replicate n c) := fun hmem =>
  h (List.eq_of_mem_replicate hmem).symm

theorem blanks (n : Nat) : Unjoined (Text.blanks n) := replicate (by decide) n

theorem flatten {parts : List Text} (h : ∀ part ∈ parts, Unjoined part) :
    Unjoined parts.flatten := fun hmem => by
  obtain ⟨part, hpart, hc⟩ := List.mem_flatten.1 hmem
  exact h part hpart hc

theorem joinWith {separator : Text} {parts : List Text} (hs : Unjoined separator)
    (h : ∀ part ∈ parts, Unjoined part) : Unjoined (Text.joinWith separator parts) := by
  induction parts with
  | nil => exact List.not_mem_nil
  | cons part rest ih =>
    rw [List.forall_mem_cons] at h
    cases rest with
    | nil =>
      rw [Text.joinWith, List.intercalate_singleton]
      exact h.1
    | cons next rest =>
      rw [Text.joinWith, List.intercalate_cons_cons]
      exact (h.1.append hs).append (ih h.2)

end Unjoined

namespace Text

/-! ### Clusters -/

section

variable {found : List Cluster} {a b : Option Char} {s : Text}

theorem extend_ne_nil (c : Char) (gain : Nat) (found : List Cluster) :
    extend c gain found ≠ [] := by
  cases found <;> simp [extend]

theorem sum_extend {gain : Nat} (h : found = [] → gain = 0) (c : Char) :
    ((extend c gain found).map Cluster.cells).sum = (found.map Cluster.cells).sum + gain := by
  cases found with
  | nil => simp [extend, h rfl]
  | cons last before =>
    simp only [extend, List.map_cons, List.sum_cons]
    omega

/-- Clusters take the cells of their text. -/
theorem sum_clustersAfter (hs : Unjoined s) (hgain : pictureGain a = pictureGain b)
    (hfound : found = [] → pictureGain a = 0) :
    ((clustersAfter a found s).map Cluster.cells).sum =
      (found.map Cluster.cells).sum + widthAfter b s := by
  induction s generalizing a b found with
  | nil => simp [clustersAfter, widthAfter]
  | cons c s ih =>
    have hc : c ≠ joiner := fun hc => hs (hc ▸ List.mem_cons_self)
    have hrest : Unjoined s := hs.of_subset (List.subset_cons_self c s)
    have hzero {gain : Nat} (h : gain = 0) : found = [] → gain = 0 := fun _ => h
    cases s with
    | nil =>
      rw [clustersAfter, widthAfter, if_neg hc, if_neg hc]
      split
      · rw [sum_extend hfound, hgain]
      · split
        · next hwidth => rw [sum_extend (hzero rfl), hwidth]
        · rw [List.map_cons, List.sum_cons, Nat.add_comm]
    | cons d rest =>
      rw [clustersAfter, widthAfter, if_neg hc, if_neg hc]
      split
      · have hnone : pictureGain (if pictureGain a = 0 then a else none) = pictureGain none := by
          split
          · next h => exact h
          · rfl
        rw [ih hrest hnone fun h => absurd h (extend_ne_nil _ _ _), sum_extend hfound, hgain,
          Nat.add_assoc]
      · split
        · rw [ih hrest hgain fun h => absurd h (extend_ne_nil _ _ _), sum_extend (hzero rfl),
            Nat.add_zero]
        · rw [ih hrest rfl fun h => absurd h (List.cons_ne_nil _ _), List.map_cons, List.sum_cons]
          simp only
          omega

theorem unjoined_extend {c : Char} (hc : c ≠ joiner) (gain : Nat)
    (h : ∀ cluster ∈ found, Unjoined cluster.text) :
    ∀ cluster ∈ extend c gain found, Unjoined cluster.text := by
  have hself : Unjoined [c] := fun hmem => hc (List.mem_singleton.1 hmem).symm
  cases found with
  | nil => simpa [extend] using hself
  | cons last before =>
    rw [List.forall_mem_cons] at h
    exact List.forall_mem_cons.2 ⟨h.1.append hself, h.2⟩

theorem unjoined_clustersAfter (hs : Unjoined s) (h : ∀ cluster ∈ found, Unjoined cluster.text) :
    ∀ cluster ∈ clustersAfter a found s, Unjoined cluster.text := by
  induction s generalizing a found with
  | nil => rwa [clustersAfter]
  | cons c s ih =>
    have hc : c ≠ joiner := fun hc => hs (hc ▸ List.mem_cons_self)
    have hrest : Unjoined s := hs.of_subset (List.subset_cons_self c s)
    have hself : Unjoined [c] := fun hmem => hc (List.mem_singleton.1 hmem).symm
    have hnew : ∀ cluster ∈ (⟨[c], cellWidth c⟩ : Cluster) :: found, Unjoined cluster.text :=
      List.forall_mem_cons.2 ⟨hself, h⟩
    cases s with
    | nil =>
      rw [clustersAfter, if_neg hc]
      split
      · exact unjoined_extend hc _ h
      · split
        · exact unjoined_extend hc _ h
        · exact hnew
    | cons d rest =>
      rw [clustersAfter, if_neg hc]
      split
      · exact ih hrest (unjoined_extend hc _ h)
      · split
        · exact ih hrest (unjoined_extend hc _ h)
        · exact ih hrest hnew

theorem unjoined_clusters (hs : Unjoined s) : ∀ cluster ∈ clusters s, Unjoined cluster.text :=
  fun cluster hmem => unjoined_clustersAfter hs (by simp) cluster (List.mem_reverse.1 hmem)

theorem totalCells_clusters (hs : Unjoined s) : totalCells s.clusters = s.width := by
  rw [totalCells, ← List.sum_eq_foldl, clusters, List.map_reverse, List.sum_reverse,
    sum_clustersAfter hs rfl fun _ => rfl, width]
  exact Nat.zero_add _

end

/-! ### Cutting -/

section

variable {s : Text} {parts : List Text} (cells : Nat)

theorem unjoined_takeCells {clusters : List Cluster}
    (h : ∀ cluster ∈ clusters, Unjoined cluster.text) : Unjoined (takeCells cells clusters) := by
  induction clusters generalizing cells with
  | nil => exact List.not_mem_nil
  | cons cluster rest ih =>
    rw [List.forall_mem_cons] at h
    rw [takeCells]
    split
    · split
      · exact List.not_mem_nil
      · exact h.1.append (ih _ h.2)
    · exact Unjoined.blanks cells

theorem fit_yields (hs : Unjoined s) : Yields Unjoined (fit cells s) := by
  rw [fit]
  split
  · exact .ok (hs.append (.blanks _))
  · next hwide =>
    rw [totalCells_clusters hs, if_pos (Nat.le_of_not_le hwide)]
    exact .ok (unjoined_takeCells cells (unjoined_clusters hs))

theorem takeParts_yields (h : ∀ part ∈ parts, Unjoined part) :
    Yields (∀ part ∈ ·, Unjoined part) (takeParts cells parts) := by
  induction parts generalizing cells with
  | nil => exact .ok h
  | cons part rest ih =>
    rw [List.forall_mem_cons] at h
    rw [takeParts]
    split
    · exact (ih _ h.2).map fun parts hparts => List.forall_mem_cons.2 ⟨h.1, hparts⟩
    · exact (fit_yields cells h.1).map fun part hpart => by simpa using hpart

theorem cropParts_yields (h : ∀ part ∈ parts, Unjoined part) :
    Yields (∀ part ∈ ·, Unjoined part) (cropParts cells parts) := by
  rw [cropParts]
  split
  · exact .ok h
  · exact takeParts_yields cells h

theorem fitParts_yields (h : ∀ part ∈ parts, Unjoined part) :
    Yields (∀ part ∈ ·, Unjoined part) (fitParts cells parts) := by
  rw [fitParts]
  split
  · exact .ok (List.forall_mem_append.2 ⟨h, by simpa using Unjoined.blanks _⟩)
  · exact takeParts_yields cells h

theorem cutLine_yields (overflow : Overflow) (hs : Unjoined s) :
    Yields Unjoined (cutLine overflow cells s) := by
  cases overflow with
  | fold => exact fit_yields cells hs
  | ellipsis => exact (fit_yields (cells - 1) hs).map fun t ht => ht.append (by decide)

/-! ### Breaking into lines -/

theorem unjoined_wordsAfter {word : Text} (hw : Unjoined word) (hs : Unjoined s) :
    ∀ part ∈ wordsAfter word s, Unjoined part := by
  induction s generalizing word with
  | nil =>
    rw [wordsAfter]
    split
    · simp
    · simpa using hw
  | cons c s ih =>
    have hrest : Unjoined s := hs.of_subset (List.subset_cons_self c s)
    have hself : Unjoined [c] := hs.of_subset (by simp)
    rw [wordsAfter]
    split
    · exact List.forall_mem_cons.2 ⟨hw, ih hself hrest⟩
    · exact ih (hw.append hself) hrest

theorem unjoined_chopAfter {clusters : List Cluster} {piece : Text} (size : Nat)
    (hp : Unjoined piece) (h : ∀ cluster ∈ clusters, Unjoined cluster.text) :
    ∀ part ∈ chopAfter cells piece size clusters, Unjoined part := by
  induction clusters generalizing piece size with
  | nil =>
    rw [chopAfter]
    split
    · simp
    · simpa using hp
  | cons cluster rest ih =>
    rw [List.forall_mem_cons] at h
    rw [chopAfter]
    split
    · exact List.forall_mem_cons.2 ⟨hp, ih _ h.1 h.2⟩
    · exact ih _ (hp.append h.1) h.2

theorem unjoined_chop (hs : Unjoined s) : ∀ part ∈ chop cells s, Unjoined part :=
  unjoined_chopAfter cells 0 List.not_mem_nil (unjoined_clusters hs)

namespace Lines

def Unjoined (lines : Lines) : Prop :=
  Counterpart.Unjoined lines.current ∧ ∀ line ∈ lines.finished, Counterpart.Unjoined line

variable {lines : Lines} {word : Text}

theorem Unjoined.next (h : lines.Unjoined) (hw : Counterpart.Unjoined word) :
    (lines.next word).Unjoined := by
  refine ⟨hw, ?_⟩
  rw [Lines.next]
  dsimp only
  split
  · exact h.2
  · exact List.forall_mem_cons.2 h

theorem Unjoined.foldl {step : Lines → Text → Lines}
    (hstep : ∀ lines word, Unjoined lines → Counterpart.Unjoined word → (step lines word).Unjoined)
    {words : List Text} (h : lines.Unjoined) (hwords : ∀ word ∈ words, Counterpart.Unjoined word) :
    (words.foldl step lines).Unjoined := by
  induction words generalizing lines with
  | nil => exact h
  | cons word words ih =>
    rw [List.forall_mem_cons] at hwords
    exact ih (hstep _ _ h hwords.1) hwords.2

theorem Unjoined.place (overflow : Overflow) (h : lines.Unjoined)
    (hw : Counterpart.Unjoined word) : (lines.place overflow cells word).Unjoined := by
  rw [Lines.place]
  split
  · exact ⟨h.1.append hw, h.2⟩
  · split
    · exact h.foldl (fun _ _ => .next) (unjoined_chop cells hw)
    · exact h.next hw

end Lines

theorem unjoined_breakLine (overflow : Overflow) (hs : Unjoined s) :
    ∀ line ∈ breakLine overflow cells s, Unjoined line := by
  have hwords := @unjoined_wordsAfter s [] List.not_mem_nil hs
  rw [breakLine, words]
  split
  · simpa using hs
  · have hnone : Lines.Unjoined {} := ⟨List.not_mem_nil, by simp⟩
    have hlines := hnone.foldl (fun _ _ h hword => h.place cells overflow hword) hwords
    intro line hline
    rcases List.mem_cons.1 (List.mem_reverse.1 hline) with rfl | hline
    · exact hlines.1
    · exact hlines.2 line hline

end

theorem unjoined_joinAtStops {parts : List Text} (h : ∀ part ∈ parts, Unjoined part)
    (cell : Nat) : Unjoined (joinAtStops cell parts) := by
  induction parts generalizing cell with
  | nil => exact List.not_mem_nil
  | cons part rest ih =>
    rw [List.forall_mem_cons] at h
    cases rest with
    | nil => exact h.1
    | cons next rest =>
      exact ((h.1.append (by decide)).append (.blanks _)).append (ih h.2 _)

theorem unjoined_expandTabs {s : Text} (hs : Unjoined s) : Unjoined (expandTabs s) :=
  unjoined_joinAtStops (fun _ hpart => hs.of_subset (mem_splitOn hpart).2) 0

theorem unjoined_dropExcess (cells : Nat) {s : Text} (hs : Unjoined s) :
    Unjoined (dropExcess cells s) := hs.of_subset (List.take_subset _ _)

theorem unjoined_trimEnd (p : Char → Bool) {s : Text} (hs : Unjoined s) :
    Unjoined (trimEnd p s) := fun hmem =>
  hs (List.mem_reverse.1 (List.dropWhile_subset _ (List.mem_reverse.1 hmem)))

end Text

/-! ### Rendered cells -/

namespace Markup

namespace Span

variable {span part : Span}

theorem isFaulty_congr (h : part.style = span.style) : part.isFaulty = span.isFaulty := by
  rw [isFaulty, isFaulty, h]

theorem style_within {offset length : Nat} (h : span.within offset length = some part) :
    part.style = span.style := by
  rw [within] at h
  split at h
  · exact Option.some.inj h ▸ rfl
  · cases h

theorem style_cropped {length kept : Nat} (h : span.cropped length kept = some part) :
    part.style = span.style := by
  rw [cropped] at h
  split at h
  · exact Option.some.inj h ▸ rfl
  · split at h
    · exact Option.some.inj h ▸ rfl
    · cases h

theorem style_parted {cuts : List Nat} (h : part ∈ span.parted cuts) :
    part.style = span.style := by
  induction cuts generalizing span with
  | nil => exact List.mem_singleton.1 h ▸ rfl
  | cons cut cuts ih =>
    rw [parted] at h
    split at h
    · rcases List.mem_cons.1 h with rfl | h
      · rfl
      · exact (ih h).trans rfl
    · exact ih h

end Span

namespace Rendered

open Text

/-- A text without joiners in which all styles can be looked up. -/
structure Placeable (r : Rendered) : Prop where
  text : Unjoined r.text
  spans : ∀ span ∈ r.spans, span.isFaulty = false

variable {r : Rendered} (overflow : Overflow) (cells : Nat)

theorem Placeable.cutTo {s : Text} (h : r.Placeable) (hs : Unjoined s) :
    (r.cutTo s).Placeable := by
  refine ⟨hs, fun part hpart => ?_⟩
  obtain ⟨span, hspan, hcropped⟩ := List.mem_filterMap.1 hpart
  rw [Span.isFaulty_congr (Span.style_cropped hcropped), h.spans span hspan]

theorem Placeable.shorten (h : r.Placeable) : Yields Placeable (r.shorten overflow cells) := by
  rw [Rendered.shorten]
  split
  · exact (cutLine_yields cells overflow h.text).map fun _ hs => h.cutTo hs
  · exact .ok h

theorem Placeable.brought (h : r.Placeable) : Yields Placeable (r.brought overflow cells) := by
  have hcutTo := h.cutTo (unjoined_dropExcess cells h.text)
  refine (hcutTo.shorten overflow cells).bind fun cut hcut => ?_
  exact Placeable.shorten overflow cells ⟨hcut.text.append (.blanks _), hcut.spans⟩

theorem ofBroken_yields {spans : List Span} {lines : List Text}
    (hspans : ∀ span ∈ spans, span.isFaulty = false) (hlines : ∀ line ∈ lines, Unjoined line)
    (offset : Nat) :
    Yields (∀ line ∈ ·, Placeable line) (ofBroken overflow cells spans offset lines) := by
  induction lines generalizing offset with
  | nil => exact .ok (by simp)
  | cons line rest ih =>
    rw [List.forall_mem_cons] at hlines
    have hline : Placeable ⟨line, spans.filterMap (·.within offset line.length)⟩ := by
      refine ⟨hlines.1, fun part hpart => ?_⟩
      obtain ⟨span, hspan, hwithin⟩ := List.mem_filterMap.1 hpart
      rw [Span.isFaulty_congr (Span.style_within hwithin), hspans span hspan]
    refine (hline.brought overflow cells).bind fun first hfirst => ?_
    refine (ih hlines.2 _).bind fun lines hlines => .ok ?_
    exact List.forall_mem_cons.2 ⟨hfirst, hlines⟩

theorem ofLines_yields {spans : List Span} {lines : List Text}
    (hspans : ∀ span ∈ spans, span.isFaulty = false) (hlines : ∀ line ∈ lines, Unjoined line) :
    Yields (∀ line ∈ ·, Placeable line) (ofLines overflow cells spans lines) := by
  induction lines generalizing spans with
  | nil => exact .ok (by simp)
  | cons line rest ih =>
    rw [List.forall_mem_cons] at hlines
    have hbroken := unjoined_breakLine cells overflow (unjoined_expandTabs hlines.1)
    refine (ofBroken_yields overflow cells ?_ hbroken 0).bind fun first hfirst => ?_
    · intro moved hmoved
      obtain ⟨part, hpart, rfl⟩ := List.mem_map.1 hmoved
      obtain ⟨span, hspan, hparted⟩ := List.mem_flatMap.1 hpart
      rw [← hspans span hspan, ← Span.isFaulty_congr (Span.style_parted hparted)]
      rfl
    · refine (ih (fun moved hmoved => ?_) hlines.2).bind fun lines hlines => .ok ?_
      · obtain ⟨span, hspan, rfl⟩ := List.mem_map.1 hmoved
        exact hspans span hspan
      · exact List.forall_mem_append.2 ⟨hfirst, hlines⟩

theorem Placeable.wrap (h : r.Placeable) :
    Yields (∀ line ∈ ·, Placeable line) (r.wrap overflow cells) := by
  rw [Rendered.wrap]
  split
  · exact ofLines_yields overflow cells h.spans fun _ hline =>
      h.text.of_subset (mem_splitOn hline).2
  · exact (h.brought overflow cells).map fun line hline => by simpa using hline

theorem unjoined_partsAt {s : Text} (hs : Unjoined s) (offset : Nat) (cuts : List Nat) :
    ∀ part ∈ partsAt offset cuts s, Unjoined part := by
  induction cuts generalizing s offset with
  | nil => simpa [partsAt] using hs
  | cons cut cuts ih =>
    refine List.forall_mem_cons.2 ⟨hs.of_subset (List.take_subset _ _), ?_⟩
    exact ih (hs.of_subset (List.drop_subset _ _)) cut

end Rendered

end Markup

/-! ### Tables -/

namespace Table

open Text Markup

/-- All parts of lines are without joiners. -/
def LinesUnjoined (lines : List (List Text)) : Prop :=
  ∀ parts ∈ lines, ∀ part ∈ parts, Unjoined part

theorem LinesUnjoined.append {lines more : List (List Text)} (h : LinesUnjoined lines)
    (hmore : LinesUnjoined more) : LinesUnjoined (lines ++ more) :=
  List.forall_mem_append.2 ⟨h, hmore⟩

theorem LinesUnjoined.single {s : Text} (h : Unjoined s) : LinesUnjoined [[s]] :=
  List.forall_mem_singleton.2 (List.forall_mem_singleton.2 h)

theorem LinesUnjoined.flatten {rows : List (List (List Text))}
    (h : ∀ lines ∈ rows, LinesUnjoined lines) : LinesUnjoined rows.flatten := fun parts hparts => by
  obtain ⟨lines, hlines, hmem⟩ := List.mem_flatten.1 hparts
  exact h lines hlines parts hmem

theorem unjoined_aligned (alignment : Alignment) (cells : Nat) {parts : List Text}
    (h : ∀ part ∈ parts, Unjoined part) :
    ∀ part ∈ aligned alignment cells parts, Unjoined part := by
  cases alignment with
  | left => exact h
  | right =>
    have hcontent : Unjoined (trimEnd isBlank parts.flatten) :=
      unjoined_trimEnd isBlank (.flatten h)
    rw [aligned]
    simpa using ⟨.blanks _, hcontent⟩

theorem fitLines_yields {lines : List (List Text)} (cells : Nat) (h : LinesUnjoined lines) :
    Yields LinesUnjoined ((lines.mapM (fitParts cells)).mapError MarkupError.uncut) :=
  (Yields.mapM fun parts hparts => fitParts_yields cells (h parts hparts)).mapError _

theorem cellLines_yields (column : Column) (cells : Nat) {cell : Rendered} (h : cell.Placeable) :
    Yields LinesUnjoined (cellLines column cells cell) := by
  rw [cellLines]
  split
  · exact .ok (by simp [LinesUnjoined])
  refine ((h.wrap column.overflow cells).mapError _).bind fun broken hbroken => ?_
  have hsound : ¬ (broken.any fun line => line.spans.any Span.isFaulty) = true := by
    simp only [List.any_eq_true, not_exists, not_and]
    intro line hline span hspan
    rw [(hbroken line hline).spans span hspan]
    exact Bool.false_ne_true
  rw [if_neg hsound]
  have hparts : LinesUnjoined (broken.map Rendered.parts) := by
    intro parts hparts
    obtain ⟨line, hline, rfl⟩ := List.mem_map.1 hparts
    exact Rendered.unjoined_partsAt (hbroken line hline).text 0 _
  have hfilled := fitLines_yields cells hparts
  rw [List.mapM_map] at hfilled
  refine hfilled.bind fun filled hfilled => fitLines_yields _ fun parts hparts => ?_
  obtain ⟨line, hline, rfl⟩ := List.mem_map.1 hparts
  have hblank : ∀ part ∈ [[' ']], Unjoined part := List.forall_mem_singleton.2 (.blanks 1)
  have haligned := unjoined_aligned column.alignment cells (hfilled line hline)
  exact List.forall_mem_append.2 ⟨List.forall_mem_append.2 ⟨hblank, haligned⟩, hblank⟩

variable {t : Table}

theorem rowLines_yields (isHead : Bool) {row : List Rendered}
    (h : ∀ cell ∈ row, cell.Placeable) : Yields LinesUnjoined (t.rowLines isHead row) := by
  have hcells : ∀ entry ∈ t.columns.zip (t.contentWidths.zip row), Yields LinesUnjoined
      (cellLines entry.1 entry.2.1 entry.2.2) := by
    intro entry hentry
    have hcell := (List.of_mem_zip (List.of_mem_zip hentry).2).2
    exact cellLines_yields _ _ (h _ hcell)
  refine (Yields.mapM hcells).bind fun cells hcells => ?_
  refine Yields.bind (P := fun columns => ∀ lines ∈ columns, LinesUnjoined lines)
    (Yields.mapM fun entry hentry => fitLines_yields _ ?_) fun columns hcolumns => .ok ?_
  · have hlines : LinesUnjoined entry.2 := hcells _ (List.of_mem_zip hentry).2
    have hblank (n : Nat) : LinesUnjoined (List.replicate n [Text.blanks entry.1]) :=
      fun parts hparts => by
        obtain rfl := List.eq_of_mem_replicate hparts
        simpa using Unjoined.blanks _
    cases isHead
    · exact hlines.append (hblank _)
    · exact (hblank _).append hlines
  · intro parts hparts
    obtain ⟨i, -, rfl⟩ := List.mem_map.1 hparts
    have hstroke : Unjoined [if isHead then '┃' else '│'] := by cases isHead <;> decide
    refine List.forall_mem_cons.2 ⟨hstroke, fun part hpart => ?_⟩
    obtain ⟨lines, hlines, hpart⟩ := List.mem_flatMap.1 hpart
    rcases List.mem_append.1 hpart with hpart | hpart
    · cases hi : lines[i]? with
      | none => simp [hi] at hpart
      | some found =>
        rw [hi] at hpart
        exact hcolumns lines hlines found (List.mem_of_getElem? hi) part hpart
    · exact List.mem_singleton.1 hpart ▸ hstroke

theorem unjoined_rule {r : Rule} (hl : r.left ≠ joiner) (hs : r.stroke ≠ joiner)
    (hc : r.crossing ≠ joiner) (hr : r.right ≠ joiner) : Unjoined (t.rule r) := by
  have hone {c : Char} (h : c ≠ joiner) : Unjoined [c] := .replicate h 1
  refine ((hone hl).append (.joinWith (hone hc) fun part hpart => ?_)).append (hone hr)
  obtain ⟨width, -, rfl⟩ := List.mem_map.1 hpart
  exact .replicate hs width

/-- A table without joiners can be printed. -/
theorem exists_text (htitle : Unjoined t.title) (hheadings : ∀ c ∈ t.columns, Unjoined c.heading)
    (hrows : ∀ row ∈ t.rows, ∀ cell ∈ row, cell.Placeable) : ∃ s, t.text = .ok s := by
  have hhead : ∀ cell ∈ t.headings, cell.Placeable := by
    intro cell hcell
    obtain ⟨c, hc, rfl⟩ := List.mem_map.1 hcell
    exact ⟨hheadings c hc, by simp⟩
  have htitle : LinesUnjoined (t.titleLines.map ([·])) := by
    intro parts hparts
    obtain ⟨centredLine, hcentred, rfl⟩ := List.mem_map.1 hparts
    obtain ⟨line, hline, rfl⟩ := List.mem_map.1 hcentred
    have hline := unjoined_trimEnd isBlank (unjoined_breakLine _ _ htitle line hline)
    exact List.forall_mem_singleton.2 (((Unjoined.blanks _).append hline).append (.blanks _))
  have htop : Unjoined (t.rule topRule) :=
    unjoined_rule (by decide) (by decide) (by decide) (by decide)
  have hmiddle : Unjoined (t.rule headRule) :=
    unjoined_rule (by decide) (by decide) (by decide) (by decide)
  have hbottom : Unjoined (t.rule bottomRule) :=
    unjoined_rule (by decide) (by decide) (by decide) (by decide)
  have hlines : Yields (fun _ => True) t.lines := by
    refine (rowLines_yields true hhead).bind fun head hhead => ?_
    refine (Yields.mapM fun row hrow => rowLines_yields false (hrows row hrow)).bind
      fun body hbody => ?_
    have hall : LinesUnjoined (t.titleLines.map ([·]) ++ [[t.rule topRule]] ++ head
        ++ [[t.rule headRule]] ++ body.flatten ++ [[t.rule bottomRule]]) :=
      ((((htitle.append (.single htop)).append hhead).append
        (.single hmiddle)).append (.flatten hbody)).append (.single hbottom)
    refine Yields.bind ((Yields.mapM fun parts hparts =>
      cropParts_yields t.pageWidth (hall parts hparts)).mapError _) fun _ _ => .ok trivial
  obtain ⟨lines, hlines, -⟩ := hlines
  exact ⟨_, by rw [text, hlines, Except.map]⟩

end Table
end Counterpart
