import Mathlib.Data.List.Infix
import Counterpart.Proofs.Codes
import Counterpart.Proofs.MarkupEscape
import Counterpart.Proofs.Segments

/-! Styled texts are printed as they are. All that tells their tags apart is in the brackets, so a
text without tags is its own markup, and in an escaped text no tag is left. Only backslashes at the
end of a text, or before a bracket that is no tag, can be lost. -/

namespace Counterpart.Markup

/-! ### Tags in a text -/

/-- A tag begins with one of its own characters and holds no bracket; the text starts after the
`[`. -/
def BeginsTag (rest : Text) : Prop :=
  ∃ inner after, rest = inner ++ ']' :: after ∧ inner.head?.any opensTag ∧
    ∀ c ∈ inner, c ≠ ']' ∧ c ≠ '['

def HasTag (s : Text) : Prop := ∃ rest, '[' :: rest <:+ s ∧ BeginsTag rest

/-- No backslash stands right before a bracket that is no tag. -/
def KeepsSlashes (s : Text) : Prop := ∀ rest, '\\' :: '[' :: rest <:+ s → BeginsTag rest

theorem beginsTag_iff {rest : Text} : BeginsTag rest ↔ (tag? rest).isSome := by
  rw [Option.isSome_iff_exists]
  constructor
  · rintro ⟨inner, after, hrest, hhead, hinner⟩
    exact ⟨(inner, after), tag?_eq_some_iff.2 ⟨closing?_eq_some_iff.2 ⟨hrest, hinner⟩, hhead⟩⟩
  · rintro ⟨⟨inner, after⟩, htag⟩
    obtain ⟨hclosing, hhead⟩ := tag?_eq_some_iff.1 htag
    obtain ⟨hrest, hinner⟩ := closing?_eq_some_iff.1 hclosing
    exact ⟨inner, after, hrest, hhead, hinner⟩

theorem not_beginsTag {rest : Text} (h : tag? rest = none) : ¬ BeginsTag rest := by
  rw [beginsTag_iff, h]
  exact Bool.false_ne_true

theorem keepsSlashes_iff {s : Text} : KeepsSlashes s ↔
    ∀ t ∈ s.tails, t.take 2 = ['\\', '['] → (tag? (t.drop 2)).isSome := by
  simp only [KeepsSlashes, List.mem_tails, beginsTag_iff]
  constructor
  · intro h t ht htake
    refine h _ ?_
    rwa [← List.take_append_drop 2 t, htake] at ht
  · intro h rest hrest
    exact h _ hrest rfl

instance : DecidablePred KeepsSlashes := fun _ => decidable_of_iff _ keepsSlashes_iff.symm

theorem hasTag_iff_tails {s : Text} :
    HasTag s ↔ ∃ t ∈ s.tails, t.head? = some '[' ∧ (tag? t.tail).isSome := by
  simp only [HasTag, List.mem_tails, beginsTag_iff]
  constructor
  · rintro ⟨rest, hrest, htag⟩
    exact ⟨_, hrest, rfl, htag⟩
  · rintro ⟨t, ht, hhead, htag⟩
    obtain ⟨rest, rfl⟩ := List.head?_eq_some_iff.1 hhead
    exact ⟨rest, ht, htag⟩

instance : DecidablePred HasTag := fun _ => decidable_of_iff _ hasTag_iff_tails.symm

theorem KeepsSlashes.of_suffix {s t : Text} (h : KeepsSlashes s) (ht : t <:+ s) : KeepsSlashes t :=
  fun rest hrest => h rest (hrest.trans ht)

theorem keepsSlashes_of_not_mem {s : Text} (h : '\\' ∉ s) : KeepsSlashes s := fun _ hrest =>
  absurd (hrest.subset List.mem_cons_self) h

theorem hasTag_cons {c : Char} {s : Text} (h : c = '[' → tag? s = none) :
    HasTag (c :: s) ↔ HasTag s := by
  constructor
  · rintro ⟨rest, hrest, htag⟩
    rcases List.suffix_cons_iff.1 hrest with he | hrest
    · obtain ⟨rfl, rfl⟩ := List.cons.inj he
      exact absurd htag (not_beginsTag (h rfl))
    · exact ⟨rest, hrest, htag⟩
  · rintro ⟨rest, hrest, htag⟩
    exact ⟨rest, hrest.trans (List.suffix_cons _ _), htag⟩

theorem hasTag_iff (slashes : Nat) (s : Text) :
    HasTag s ↔ ∃ n inner, Piece.bracket n inner ∈ piecesFrom slashes s := by
  have hslashes (n k : Nat) (inner : Text) :
      Piece.bracket n inner ∉ List.replicate k (Piece.plain '\\') := fun hmem => by
    cases List.eq_of_mem_replicate hmem
  induction slashes, s using piecesFrom.induct with
  | case1 slashes =>
    rw [piecesFrom]
    refine iff_of_false ?_ ?_
    · rintro ⟨rest, hrest, -⟩
      exact absurd (List.suffix_nil.1 hrest) (List.cons_ne_nil _ _)
    · rintro ⟨n, inner, hmem⟩
      exact hslashes n slashes inner hmem
  | case2 slashes rest ih =>
    rw [piecesFrom, hasTag_cons (by simp)]
    exact ih
  | case3 slashes rest inner after htag =>
    rw [piecesFrom_of_tag htag]
    refine iff_of_true ⟨rest, List.suffix_rfl, beginsTag_iff.2 (by rw [htag]; rfl)⟩ ?_
    exact ⟨slashes, inner, List.mem_cons_self⟩
  | case4 slashes rest htag ih =>
    rw [piecesFrom_of_no_tag htag, hasTag_cons fun _ => htag]
    refine Iff.trans ih ?_
    simp [hslashes]
  | case5 slashes c rest hslash hopen ih =>
    rw [piecesFrom.eq_4 _ _ _ hslash hopen, hasTag_cons fun hc => absurd hc hopen]
    refine Iff.trans ih ?_
    simp [hslashes]

/-! ### What pieces print -/

theorem flatMap_text_replicate (k : Nat) :
    (List.replicate k (Piece.plain '\\')).flatMap Piece.text = List.replicate k '\\' := by
  induction k with
  | zero => rfl
  | succ k ih => rw [List.replicate_succ, List.flatMap_cons, ih, List.replicate_succ]; rfl

/-- The pieces of a text make up the text. -/
theorem flatMap_text_piecesFrom (slashes : Nat) (s : Text) :
    (piecesFrom slashes s).flatMap Piece.text = List.replicate slashes '\\' ++ s := by
  induction slashes, s using piecesFrom.induct with
  | case1 slashes => rw [piecesFrom, flatMap_text_replicate, List.append_nil]
  | case2 slashes rest ih =>
    rw [piecesFrom, ih, List.replicate_succ', List.append_assoc]
    rfl
  | case3 slashes rest inner after htag _ ih =>
    obtain ⟨hrest, -⟩ := closing?_eq_some_iff.1 (tag?_eq_some_iff.1 htag).1
    rw [piecesFrom_of_tag htag, List.flatMap_cons, ih, hrest]
    simp [Piece.text, bracketed]
  | case4 slashes rest htag ih =>
    rw [piecesFrom_of_no_tag htag, List.flatMap_append, List.flatMap_cons, flatMap_text_replicate,
      ih]
    rfl
  | case5 slashes c rest hslash hopen ih =>
    rw [piecesFrom.eq_4 _ _ _ hslash hopen, List.flatMap_append, List.flatMap_cons,
      flatMap_text_replicate, ih]
    rfl

theorem unslashed_replicate (k : Nat) :
    unslashed (List.replicate k (.plain '\\')) = List.replicate k (.plain '\\') := by
  induction k with
  | zero => rfl
  | succ k ih =>
    have hhead : (List.replicate k (Piece.plain '\\')).head? ≠ some (.plain '[') := by
      cases k <;> simp [List.replicate_succ]
    rw [List.replicate_succ, unslashed_cons fun _ => hhead, ih]

/-- Only backslashes before brackets that are no tags are dropped. -/
theorem unslashed_piecesFrom {slashes : Nat} {s : Text}
    (h : KeepsSlashes (List.replicate slashes '\\' ++ s)) :
    unslashed (piecesFrom slashes s) = piecesFrom slashes s := by
  induction slashes, s using piecesFrom.induct with
  | case1 slashes => rw [piecesFrom, unslashed_replicate]
  | case2 slashes rest ih =>
    have hmove : List.replicate slashes '\\' ++ '\\' :: rest =
        List.replicate (slashes + 1) '\\' ++ rest := by
      rw [List.replicate_succ', List.append_assoc]
      rfl
    rw [hmove] at h
    rw [piecesFrom, ih h]
  | case3 slashes rest inner after htag _ ih =>
    obtain ⟨hrest, -⟩ := closing?_eq_some_iff.1 (tag?_eq_some_iff.1 htag).1
    have hafter : after <:+ List.replicate slashes '\\' ++ '[' :: rest := by
      rw [hrest]
      exact ⟨List.replicate slashes '\\' ++ bracketed inner, by simp [bracketed]⟩
    rw [piecesFrom_of_tag htag, unslashed_cons (by simp), ih (h.of_suffix hafter)]
  | case4 slashes rest htag ih =>
    have hrest : rest <:+ List.replicate slashes '\\' ++ '[' :: rest :=
      (List.suffix_cons _ _).trans (List.suffix_append _ _)
    obtain rfl : slashes = 0 := by
      refine Nat.eq_zero_of_not_pos fun hpos => not_beginsTag htag (h rest ?_)
      obtain ⟨k, rfl⟩ := Nat.exists_eq_add_one_of_ne_zero hpos.ne'
      exact ⟨List.replicate k '\\', by rw [List.replicate_succ', List.append_assoc]; rfl⟩
    rw [piecesFrom_of_no_tag htag, List.replicate_zero, List.nil_append, unslashed_cons (by simp),
      ih (h.of_suffix hrest)]
  | case5 slashes c rest hslash hopen ih =>
    have hrest : rest <:+ List.replicate slashes '\\' ++ c :: rest :=
      (List.suffix_cons _ _).trans (List.suffix_append _ _)
    rw [piecesFrom.eq_4 _ _ _ hslash hopen, unslashed_append (by simpa using hopen),
      unslashed_replicate, unslashed_cons fun hc => absurd (Piece.plain.inj hc) hslash,
      ih (h.of_suffix hrest)]

theorem unslashed_pieces {s : Text} (h : KeepsSlashes s) : unslashed (pieces s) = pieces s :=
  unslashed_piecesFrom h

variable {d : Display}

/-- What holds no code has none before a bracket, in it or after it. -/
theorem not_hasCode_around {before inner after : Text} {slashes : Nat}
    (h : ¬ d.HasCode (before ++ (List.replicate slashes '\\' ++ bracketed inner ++ after))) :
    ¬ d.HasCode before ∧ ¬ d.HasCode (bracketed inner) ∧ ¬ d.HasCode after := by
  refine ⟨fun hcode => h (hcode.of_infix (List.prefix_append _ _).isInfix),
    fun hcode => h (hcode.of_infix ?_), fun hcode => h (hcode.of_infix ?_)⟩
  · exact ⟨before ++ List.replicate slashes '\\', after, by simp⟩
  · exact ⟨before ++ (List.replicate slashes '\\' ++ bracketed inner), [], by simp⟩

theorem shownAfter_eq {pieces : List Piece} {before : Text}
    (h : ¬ d.HasCode (before ++ pieces.flatMap Piece.text)) :
    shownAfter d before pieces = before ++ pieces.flatMap Piece.text := by
  induction pieces generalizing before with
  | nil =>
    rw [List.flatMap_nil, List.append_nil] at h ⊢
    rw [shownAfter, Display.pictured_eq_self h]
  | cons piece rest ih =>
    rw [List.flatMap_cons] at h ⊢
    cases piece with
    | plain c =>
      rw [Piece.text, ← List.append_assoc] at h ⊢
      exact ih h
    | bracket slashes inner =>
      rw [Piece.text] at h ⊢
      obtain ⟨hbefore, hinner, hrest⟩ := not_hasCode_around h
      rw [← List.nil_append (rest.flatMap Piece.text)] at hrest
      rw [shownAfter, Display.pictured_eq_self hbefore, Display.pictured_eq_self hinner, ih hrest]
      simp only [List.nil_append, List.append_assoc]

/-- A text without tags prints itself. -/
theorem render_of_not_hasTag {s : Text} (h : ¬ HasTag s) (hs : KeepsSlashes s)
    (hc : ¬ d.HasCode s) : render d s = .ok ⟨s, []⟩ := by
  have hliteral : (pieces s).map Piece.literal = pieces s := by
    refine (List.map_congr_left fun piece hpiece => ?_).trans (List.map_id _)
    cases piece with
    | plain c => rfl
    | bracket n inner => exact absurd ((hasTag_iff 0 s).2 ⟨n, inner, hpiece⟩) h
  have htext : (pieces s).flatMap Piece.text = s := flatMap_text_piecesFrom 0 s
  have hmarks := marksAfter_literal d (by simp : ∀ c, ([] : List Piece).head? ≠ some (.plain c))
    (pieces s) []
  rw [List.append_nil, hliteral, shownAfter_eq (by rwa [htext]), htext] at hmarks
  have hend : marksAfter d [] [] = [] := rfl
  rw [render, marks, unslashed_pieces hs, hmarks, renderMarks_chars, hend]
  simp [renderMarks, Except.map, Rendered.after]

end Counterpart.Markup

namespace Counterpart

open Markup

/-! ### Printed lines -/

theorem Text.expandTabs_eq_self {line : Text} (h : '\t' ∉ line) : expandTabs line = line := by
  rw [expandTabs, List.splitOn_eq_singleton h, joinAtStops]

theorem Text.kept_iff {s : Text} :
    (∀ c ∈ s, isDropped c = false) ↔ s.all (!isDropped ·) = true := by
  simp

theorem Text.printed_eq_self {s : Text} (hd : ∀ c ∈ s, isDropped c = false) (ht : '\t' ∉ s) :
    printed s = s := by
  have hfilter : s.filter (!isDropped ·) = s :=
    List.filter_eq_self.2 (List.all_eq_true.1 (kept_iff.1 hd))
  have hlines : (s.splitOn '\n').map expandTabs = s.splitOn '\n' := by
    refine (List.map_congr_left fun line hline => ?_).trans (List.map_id _)
    exact expandTabs_eq_self fun hmem => ht ((mem_splitOn hline).2 hmem)
  rw [printed, hfilter, hlines]
  exact List.intercalate_splitOn '\n'

namespace Style

variable (style : Style)

/-- The closing tag after no backslash, or after two. -/
theorem renderMarks_closing_even (d : Display) (start printed k : Nat) :
    renderMarks [⟨style.name, none, start⟩] printed
        (marksAfter d [] [.bracket (2 * k) ('/' :: style.name)]) =
      .ok ⟨List.replicate k '\\', [⟨start, printed + k, style.name⟩]⟩ := by
  have hend : marksAfter d [] [] = [] := rfl
  rw [marksAfter, if_neg (by omega), Nat.mul_div_cancel_left k (by omega), hend, List.append_nil,
    renderMarks_chars, renderMarks, enter_closing]
  simp [renderMarks, Except.map, Rendered.after, Display.pictured, Display.picturedAfter]

theorem render_apply_exact {d : Display} {text : Text} (hs : KeepsSlashes text)
    (hend : ¬ ['\\', '\\'] <:+ text) (hc : ¬ d.HasCode text) :
    render d (style.apply text) = .ok ⟨text, [⟨0, text.length, style.name⟩]⟩ := by
  obtain ⟨stem, k, hstem, hrender⟩ := style.render_apply d text
  have hhead : (List.replicate k (Piece.plain '\\')).head? ≠ some (.plain '[') := by
    cases k <;> simp [List.replicate_succ]
  have hunslashed : unslashed stem = stem := by
    have hpieces := unslashed_pieces hs
    rw [hstem, unslashed_append hhead, unslashed_replicate] at hpieces
    exact List.append_cancel_right hpieces
  have htext : text = stem.flatMap Piece.text ++ List.replicate k '\\' := by
    rw [← flatMap_text_replicate, ← List.flatMap_append, ← hstem]
    exact (flatMap_text_piecesFrom 0 text).symm
  have hshown : shownAfter d [] (unslashed stem) = stem.flatMap Piece.text := by
    rw [hunslashed, shownAfter_eq, List.nil_append]
    exact fun hcode => hc (hcode.of_infix ⟨[], List.replicate k '\\', by simp [← htext]⟩)
  have hk : k < 2 := by
    refine Nat.lt_of_not_le fun hk => hend ?_
    obtain ⟨k, rfl⟩ := Nat.exists_eq_add_of_le hk
    refine ⟨stem.flatMap Piece.text ++ List.replicate k '\\', ?_⟩
    rw [htext, Nat.add_comm, List.replicate_add, List.append_assoc]
    rfl
  have hslashes : (if k = 1 then 2 else k) = 2 * k := by
    split <;> omega
  rw [hrender, hslashes, hshown, renderMarks_closing_even]
  conv_rhs => rw [htext, List.length_append, List.length_replicate]
  rfl

/-- A styled text can always be printed. It is printed as it is, and as a whole in its style, unless
a code of the console stands in it, it ends in several backslashes, or it has one before a bracket
that is no tag. -/
theorem prints_text (d : Display) (text : Text) :
    (∃ r, render d (style.apply text) = .ok r) ∧
    (¬ d.HasCode text → KeepsSlashes text → ¬ ['\\', '\\'] <:+ text →
      render d (style.apply text) = .ok ⟨text, [⟨0, text.length, style.name⟩]⟩ ∧
      ((∀ c ∈ text, Text.isDropped c = false) → '\t' ∉ text →
        style.line d text = .ok (text ++ ['\n']))) := by
  refine ⟨style.exists_render_apply d text, fun hc hs hend => ?_⟩
  have hrender := style.render_apply_exact hs hend hc
  refine ⟨hrender, fun hd ht => ?_⟩
  rw [line, hrender, Except.map, Text.printed_eq_self hd ht]

/-- Tags of the style itself, tags behind backslashes, brackets that are no tags, and a backslash at
the end. -/
theorem prints_text_of_tags :
    let text : Text := "[/bold red] \\\\[a] [A] [b [/]\\"
    ¬ Display.festive.HasCode text ∧ KeepsSlashes text ∧ ¬ ['\\', '\\'] <:+ text ∧
      Style.line ⟨.red, .bold⟩ .festive text = .ok (text ++ ['\n']) := by
  intro text
  have hcode : ¬ Display.festive.HasCode text := Display.not_hasCode_of_not_mem (by decide)
  have hkeeps : KeepsSlashes text := by decide +kernel
  have hend : ¬ ['\\', '\\'] <:+ text := by decide
  have hkept : ∀ c ∈ text, Text.isDropped c = false := Text.kept_iff.2 (by decide)
  have hline := ((prints_text ⟨.red, .bold⟩ .festive text).2 hcode hkeeps hend).2
    hkept (by decide)
  exact ⟨hcode, hkeeps, hend, hline⟩

end Style
end Counterpart
