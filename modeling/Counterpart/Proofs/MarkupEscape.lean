import Mathlib.Data.List.Basic
import Mathlib.Data.List.TakeWhile
import Counterpart.Style

/-! Escaping leaves no tag in a text. Each bracket that would be one keeps its place with an odd
number of backslashes before it, and what was no tag does not become one, so that styling a message
never fails. -/

namespace Counterpart.Markup

theorem closing?_eq_some_iff {s inner after : Text} :
    closing? s = some (inner, after) ↔
      s = inner ++ ']' :: after ∧ ∀ c ∈ inner, c ≠ ']' ∧ c ≠ '[' := by
  induction s generalizing inner with
  | nil => simp [closing?]
  | cons c s ih =>
    rw [closing?]
    by_cases hclose : c = ']'
    · subst hclose
      rw [if_pos rfl]
      constructor
      · rintro ⟨⟩
        simp
      · rintro ⟨he, hinner⟩
        cases inner with
        | nil => simpa using he
        | cons d inner => exact absurd (List.cons.inj he).1.symm (hinner d List.mem_cons_self).1
    rw [if_neg hclose]
    by_cases hopen : c = '['
    · subst hopen
      rw [if_pos rfl]
      constructor
      · rintro ⟨⟩
      · rintro ⟨he, hinner⟩
        cases inner with
        | nil => exact absurd (List.cons.inj he).1 hclose
        | cons d inner => exact absurd (List.cons.inj he).1.symm (hinner d List.mem_cons_self).2
    rw [if_neg hopen, Option.map_eq_some_iff]
    constructor
    · rintro ⟨⟨inner, after⟩, h, ⟨⟩⟩
      obtain ⟨rfl, hinner⟩ := ih.1 h
      exact ⟨rfl, List.forall_mem_cons.2 ⟨⟨hclose, hopen⟩, hinner⟩⟩
    · rintro ⟨he, hinner⟩
      cases inner with
      | nil => exact absurd (List.cons.inj he).1 hclose
      | cons d inner =>
        obtain ⟨rfl, rfl⟩ := List.cons.inj he
        exact ⟨(inner, after), ih.2 ⟨rfl, (List.forall_mem_cons.1 hinner).2⟩, rfl⟩

theorem tag?_eq_some_iff {s inner after : Text} :
    tag? s = some (inner, after) ↔
      closing? s = some (inner, after) ∧ inner.head?.any opensTag := by
  cases s with
  | nil => simp [tag?, closing?]
  | cons c s =>
    rw [tag?]
    by_cases hc : opensTag c
    · have hplain : c ≠ ']' ∧ c ≠ '[' := by
        constructor <;> rintro rfl <;> exact absurd hc (by decide)
      rw [if_pos hc, closing?, if_neg hplain.1, if_neg hplain.2]
      refine ⟨fun h => ⟨h, ?_⟩, And.left⟩
      obtain ⟨⟨inner, after⟩, -, ⟨⟩⟩ := Option.map_eq_some_iff.1 h
      simpa using hc
    · rw [if_neg hc]
      refine ⟨fun h => (by cases h), ?_⟩
      rintro ⟨h, hinner⟩
      obtain ⟨he, -⟩ := closing?_eq_some_iff.1 h
      cases inner with
      | nil => exact absurd hinner (by simp)
      | cons d inner => exact absurd ((List.cons.inj he).1 ▸ by simpa using hinner) hc

theorem tag?_append {s inner after : Text} (h : tag? s = some (inner, after)) (more : Text) :
    tag? (inner ++ ']' :: more) = some (inner, more) := by
  obtain ⟨hclosing, hhead⟩ := tag?_eq_some_iff.1 h
  exact tag?_eq_some_iff.2
    ⟨closing?_eq_some_iff.2 ⟨rfl, (closing?_eq_some_iff.1 hclosing).2⟩, hhead⟩

theorem closing?_replicate (k : Nat) (s : Text) :
    (closing? (List.replicate k '\\' ++ s) = none) = (closing? s = none) := by
  induction k with
  | zero => rfl
  | succ k ih =>
    rw [List.replicate_succ, List.cons_append, closing?, if_neg (by decide), if_neg (by decide),
      Option.map_eq_none_iff, ih]

theorem piecesFrom_replicate (k slashes : Nat) (s : Text) :
    piecesFrom slashes (List.replicate k '\\' ++ s) = piecesFrom (slashes + k) s := by
  induction k generalizing slashes with
  | zero => rfl
  | succ k ih =>
    rw [List.replicate_succ, List.cons_append, piecesFrom, ih, Nat.add_right_comm, Nat.add_assoc]

theorem piecesFrom_of_tag {slashes : Nat} {rest inner after : Text}
    (h : tag? rest = some (inner, after)) :
    piecesFrom slashes ('[' :: rest) = .bracket slashes inner :: piecesFrom 0 after := by
  rw [piecesFrom]
  split
  · next inner' after' h' =>
    obtain ⟨rfl, rfl⟩ := Prod.mk.inj (Option.some.inj (h'.symm.trans h))
    rfl
  · next h' =>
    rw [h] at h'
    cases h'

theorem piecesFrom_of_no_tag {slashes : Nat} {rest : Text} (h : tag? rest = none) :
    piecesFrom slashes ('[' :: rest) =
      List.replicate slashes (.plain '\\') ++ .plain '[' :: piecesFrom 0 rest := by
  rw [piecesFrom]
  split
  · next h' =>
    rw [h] at h'
    cases h'
  · rfl

/-- The escaped pieces of a text before which a number of backslashes were read. -/
def escapedFrom (slashes : Nat) (s : Text) : Text :=
  (piecesFrom slashes s).flatMap Piece.escaped

theorem flatMap_escaped_replicate (k : Nat) :
    (List.replicate k (Piece.plain '\\')).flatMap Piece.escaped = List.replicate k '\\' := by
  induction k with
  | zero => rfl
  | succ k ih => rw [List.replicate_succ, List.flatMap_cons, ih, List.replicate_succ]; rfl

theorem escape_eq (s : Text) :
    escape s = if endsInOneSlash (escapedFrom 0 s) then escapedFrom 0 s ++ ['\\']
      else escapedFrom 0 s := rfl

theorem escapedFrom_nil (slashes : Nat) : escapedFrom slashes [] = List.replicate slashes '\\' := by
  rw [escapedFrom, piecesFrom, flatMap_escaped_replicate]

theorem escapedFrom_slash (slashes : Nat) (rest : Text) :
    escapedFrom slashes ('\\' :: rest) = escapedFrom (slashes + 1) rest := by
  rw [escapedFrom, piecesFrom, escapedFrom]

theorem escapedFrom_of_tag {slashes : Nat} {rest inner after : Text}
    (h : tag? rest = some (inner, after)) :
    escapedFrom slashes ('[' :: rest) =
      List.replicate (2 * slashes + 1) '\\' ++ '[' :: (inner ++ ']' :: escapedFrom 0 after) := by
  rw [escapedFrom, piecesFrom_of_tag h, List.flatMap_cons]
  simp [Piece.escaped, bracketed, escapedFrom]

theorem escapedFrom_of_no_tag {slashes : Nat} {rest : Text} (h : tag? rest = none) :
    escapedFrom slashes ('[' :: rest) =
      List.replicate slashes '\\' ++ '[' :: escapedFrom 0 rest := by
  rw [escapedFrom, piecesFrom_of_no_tag h, List.flatMap_append, flatMap_escaped_replicate]
  rfl

theorem escapedFrom_plain {c : Char} (hslash : c ≠ '\\') (hopen : c ≠ '[') (slashes : Nat)
    (rest : Text) : escapedFrom slashes (c :: rest) =
      List.replicate slashes '\\' ++ c :: escapedFrom 0 rest := by
  rw [escapedFrom, piecesFrom, List.flatMap_append, flatMap_escaped_replicate]
  · rfl
  · exact hslash
  · exact hopen

theorem closing?_escapedFrom {s more : Text} (h : closing? s = none) (hmore : closing? more = none)
    (slashes : Nat) : closing? (escapedFrom slashes s ++ more) = none := by
  induction slashes, s using piecesFrom.induct with
  | case1 slashes =>
    rw [escapedFrom_nil, closing?_replicate]
    exact hmore
  | case2 slashes rest ih =>
    rw [closing?, if_neg (by decide), if_neg (by decide), Option.map_eq_none_iff] at h
    rw [escapedFrom_slash]
    exact ih h
  | case3 slashes rest inner after htag =>
    rw [escapedFrom_of_tag htag, List.append_assoc, closing?_replicate]
    rfl
  | case4 slashes rest htag =>
    rw [escapedFrom_of_no_tag htag, List.append_assoc, closing?_replicate]
    rfl
  | case5 slashes c rest hslash hopen ih =>
    have hclose : c ≠ ']' := fun hc => by
      rw [hc, closing?, if_pos rfl] at h
      cases h
    rw [closing?, if_neg hclose, if_neg hopen, Option.map_eq_none_iff] at h
    rw [escapedFrom_plain hslash hopen, List.append_assoc, closing?_replicate, List.cons_append,
      closing?, if_neg hclose, if_neg hopen, ih h]
    rfl

theorem escapedFrom_succ (slashes : Nat) (s : Text) :
    ∃ rest, escapedFrom (slashes + 1) s = '\\' :: rest := by
  induction s generalizing slashes with
  | nil => exact ⟨_, escapedFrom_nil _⟩
  | cons c s ih =>
    by_cases hslash : c = '\\'
    · subst hslash
      rw [escapedFrom_slash]
      exact ih (slashes + 1)
    by_cases hopen : c = '['
    · subst hopen
      cases htag : tag? s with
      | none => exact ⟨_, escapedFrom_of_no_tag htag⟩
      | some found => exact ⟨_, escapedFrom_of_tag htag⟩
    · exact ⟨_, escapedFrom_plain hslash hopen _ _⟩

/-- What is no tag does not become one when the text after it is escaped. -/
theorem tag?_escapedFrom {s more : Text} (h : tag? s = none) (hmore : tag? more = none)
    (hmore' : closing? more = none) : tag? (escapedFrom 0 s ++ more) = none := by
  cases s with
  | nil => exact escapedFrom_nil 0 ▸ hmore
  | cons c s =>
    by_cases hslash : c = '\\'
    · subst hslash
      obtain ⟨rest, hrest⟩ := escapedFrom_succ 0 s
      rw [escapedFrom_slash, hrest]
      rfl
    by_cases hopen : c = '['
    · subst hopen
      cases htag : tag? s with
      | none =>
        rw [escapedFrom_of_no_tag htag]
        rfl
      | some found =>
        rw [escapedFrom_of_tag htag]
        rfl
    rw [escapedFrom_plain hslash hopen, List.replicate_zero, List.nil_append, List.cons_append,
      tag?]
    split
    · next hc =>
      rw [tag?, if_pos hc, Option.map_eq_none_iff] at h
      rw [closing?_escapedFrom h hmore' 0]
      rfl
    · rfl

def Piece.literal : Piece → Piece
  | .plain c => .plain c
  | .bracket slashes inner => .bracket (2 * slashes + 1) inner

theorem map_literal_replicate (k : Nat) :
    (List.replicate k (Piece.plain '\\')).map Piece.literal = List.replicate k (.plain '\\') :=
  List.map_replicate

theorem getLast?_append_cons_ne {piece : Piece} {stem : List Piece} (before : List Piece)
    (h : piece ≠ .plain '\\') (hstem : stem.getLast? ≠ some (.plain '\\')) :
    (before ++ piece :: stem).getLast? ≠ some (.plain '\\') := by
  rw [List.getLast?_append, List.getLast?_cons, Option.some_or]
  cases hs : stem.getLast? with
  | none => simpa using h
  | some last => rwa [← hs, hs, Option.getD_some, ← hs]

/-- Read again, an escaped text has the same pieces with its brackets literal. The backslashes at
its end fall to what comes after it. -/
theorem piecesFrom_escapedFrom {more : Text} (hmore : tag? more = none)
    (hmore' : closing? more = none) (slashes : Nat) (s : Text) :
    ∃ stem k, piecesFrom slashes s = stem ++ List.replicate k (.plain '\\') ∧
      stem.getLast? ≠ some (.plain '\\') ∧
      piecesFrom 0 (escapedFrom slashes s ++ more) =
        stem.map Piece.literal ++ piecesFrom k more := by
  induction slashes, s using piecesFrom.induct with
  | case1 slashes =>
    refine ⟨[], slashes, by rw [piecesFrom, List.nil_append], by simp, ?_⟩
    rw [escapedFrom_nil, piecesFrom_replicate, Nat.zero_add]
    rfl
  | case2 slashes rest ih =>
    rw [escapedFrom_slash, piecesFrom]
    exact ih
  | case3 slashes rest inner after htag hlt ih =>
    obtain ⟨stem, k, hstem, hlast, hread⟩ := ih
    refine ⟨.bracket slashes inner :: stem, k, ?_, getLast?_append_cons_ne [] (by simp) hlast, ?_⟩
    · rw [piecesFrom_of_tag htag, hstem, List.cons_append]
    · rw [escapedFrom_of_tag htag, List.append_assoc, piecesFrom_replicate, List.cons_append,
        List.append_assoc, List.cons_append, piecesFrom_of_tag (tag?_append htag _), hread,
        Nat.zero_add]
      rfl
  | case4 slashes rest htag ih =>
    obtain ⟨stem, k, hstem, hlast, hread⟩ := ih
    refine ⟨List.replicate slashes (.plain '\\') ++ .plain '[' :: stem, k, ?_, ?_, ?_⟩
    · rw [piecesFrom_of_no_tag htag, hstem, List.append_assoc, List.cons_append]
    · exact getLast?_append_cons_ne _ (by simp) hlast
    · rw [escapedFrom_of_no_tag htag, List.append_assoc, piecesFrom_replicate, List.cons_append,
        piecesFrom_of_no_tag (tag?_escapedFrom htag hmore hmore'), hread, List.map_append,
        map_literal_replicate, Nat.zero_add, List.append_assoc]
      rfl
  | case5 slashes c rest hslash hopen ih =>
    obtain ⟨stem, k, hstem, hlast, hread⟩ := ih
    refine ⟨List.replicate slashes (.plain '\\') ++ .plain c :: stem, k, ?_, ?_, ?_⟩
    · rw [piecesFrom.eq_4 _ _ _ hslash hopen, hstem, List.append_assoc, List.cons_append]
    · exact getLast?_append_cons_ne _ (by simpa using hslash) hlast
    · rw [escapedFrom_plain hslash hopen, List.append_assoc, piecesFrom_replicate,
        List.cons_append, piecesFrom.eq_4 _ _ _ hslash hopen, hread, List.map_append,
        map_literal_replicate, Nat.zero_add, List.append_assoc]
      rfl

theorem getLast?_flatMap_escaped {stem : List Piece}
    (h : stem.getLast? ≠ some (.plain '\\')) :
    (stem.flatMap Piece.escaped).getLast? ≠ some '\\' := by
  rcases List.eq_nil_or_concat' stem with rfl | ⟨before, piece, rfl⟩
  · simp
  rw [List.getLast?_concat] at h
  rw [List.flatMap_append, List.flatMap_singleton]
  cases piece with
  | plain c => simpa [Piece.escaped] using h
  | bracket slashes inner =>
    simp [Piece.escaped, bracketed, List.getLast?_append, List.getLast?_cons]

theorem endsInOneSlash_append {s : Text} (h : s.getLast? ≠ some '\\') (k : Nat) :
    endsInOneSlash (s ++ List.replicate k '\\') = decide (k = 1) := by
  match k with
  | 0 => simp [endsInOneSlash, h]
  | 1 => simpa [endsInOneSlash] using h
  | k + 2 =>
    rw [List.replicate_succ', List.replicate_succ', endsInOneSlash]
    simp

/-! ### What literal pieces print -/

theorem unslashed_cons {piece : Piece} {rest : List Piece}
    (h : piece = .plain '\\' → rest.head? ≠ some (.plain '[')) :
    unslashed (piece :: rest) = piece :: unslashed rest := by
  rw [unslashed]
  rintro others rfl rfl
  exact h rfl rfl

theorem head?_ne_of_unpaired {piece : Piece} {rest : List Piece}
    (h : ∀ others, piece = .plain '\\' → rest = .plain '[' :: others → False) :
    piece = .plain '\\' → rest.head? ≠ some (.plain '[') := by
  intro hpiece hrest
  obtain ⟨others, hothers⟩ := List.head?_eq_some_iff.1 hrest
  exact h others hpiece hothers

theorem head?_append_ne {rest more : List Piece} {piece : Piece} (hrest : rest.head? ≠ some piece)
    (hmore : more.head? ≠ some piece) : (rest ++ more).head? ≠ some piece := by
  cases rest with
  | nil => exact hmore
  | cons next rest => exact hrest

theorem unslashed_append {more : List Piece} (hmore : more.head? ≠ some (.plain '['))
    (stem : List Piece) : unslashed (stem ++ more) = unslashed stem ++ unslashed more := by
  induction stem using unslashed.induct with
  | case1 rest ih =>
    rw [List.cons_append, List.cons_append, unslashed, unslashed, ih]
    rfl
  | case2 piece rest hpair ih =>
    have hhead := head?_ne_of_unpaired hpair
    rw [List.cons_append, unslashed_cons fun h => head?_append_ne (hhead h) hmore,
      unslashed_cons hhead, ih]
    rfl
  | case3 => rfl

theorem head?_map_literal_ne {rest : List Piece} {c : Char} (h : rest.head? ≠ some (.plain c)) :
    (rest.map Piece.literal).head? ≠ some (.plain c) := by
  intro hliteral
  rw [List.head?_map, Option.map_eq_some_iff] at hliteral
  obtain ⟨next, hnext, he⟩ := hliteral
  cases next with
  | plain d => exact h (hnext.trans (congrArg some he))
  | bracket slashes inner => cases he

theorem unslashed_map_literal (stem : List Piece) :
    unslashed (stem.map Piece.literal) = (unslashed stem).map Piece.literal := by
  induction stem using unslashed.induct with
  | case1 rest ih =>
    rw [List.map_cons, List.map_cons, Piece.literal, Piece.literal, unslashed, unslashed, ih]
    rfl
  | case2 piece rest hpair ih =>
    have hhead := head?_ne_of_unpaired hpair
    rw [List.map_cons, unslashed_cons hhead, unslashed_cons, ih]
    · rfl
    · intro hpiece
      refine head?_map_literal_ne (hhead ?_)
      cases piece with
      | plain c => exact hpiece
      | bracket slashes inner => cases hpiece
  | case3 => rfl

variable (d : Display)

/-- What pieces print after plain text when their brackets are literal. -/
def shownAfter (before : Text) : List Piece → Text
  | [] => d.pictured before
  | .plain c :: rest => shownAfter (before ++ [c]) rest
  | .bracket slashes inner :: rest =>
    d.pictured before ++ List.replicate slashes '\\' ++ d.pictured (bracketed inner)
      ++ shownAfter [] rest

theorem marksAfter_literal {more : List Piece} (hmore : ∀ c, more.head? ≠ some (.plain c))
    (stem : List Piece) (before : Text) :
    marksAfter d before (stem.map Piece.literal ++ more) =
      (shownAfter d before stem).map .char ++ marksAfter d [] more := by
  induction stem generalizing before with
  | nil =>
    match more with
    | [] => simp [marksAfter, shownAfter, Display.pictured, Display.picturedAfter]
    | .plain c :: rest => exact absurd rfl (hmore c)
    | .bracket slashes inner :: rest =>
      simp [marksAfter, shownAfter, Display.pictured, Display.picturedAfter]
  | cons piece stem ih =>
    cases piece with
    | plain c => exact ih (before ++ [c])
    | bracket slashes inner =>
      have hhalf : (2 * slashes + 1) / 2 = slashes := by omega
      rw [List.map_cons, List.cons_append, Piece.literal, marksAfter, if_pos (by omega), hhalf,
        ih, shownAfter]
      simp only [List.map_append, List.append_assoc]

theorem map_after_map (r : Except MarkupError Rendered) (s t : Text) :
    (r.map (Rendered.after t)).map (Rendered.after s) = r.map (Rendered.after (s ++ t)) := by
  cases r with
  | error e => rfl
  | ok r => simp [Except.map, Rendered.after]

/-- Characters are printed and leave the open tags alone. -/
theorem renderMarks_chars (opened : OpenTags) (printed : Nat) (s : Text) (more : List Mark) :
    renderMarks opened printed (s.map .char ++ more) =
      (renderMarks opened (printed + s.length) more).map (.after s) := by
  induction s generalizing printed with
  | nil =>
    rw [List.map_nil, List.nil_append, List.length_nil, Nat.add_zero]
    cases renderMarks opened printed more <;> rfl
  | cons c s ih =>
    rw [List.map_cons, List.cons_append, renderMarks, ih, map_after_map, List.length_cons,
      Nat.add_assoc, Nat.add_comm 1]
    rfl

end Counterpart.Markup

namespace Counterpart.Style

open Markup

theorem name_cases (style : Style) :
    tag? (style.name ++ [']']) = some (style.name, []) ∧ '=' ∉ style.name ∧ style.name ≠ [] ∧
      style.name.head? ≠ some '/' ∧ style.name.head? ≠ some '@' ∧
      Text.trim isBlank style.name = style.name ∧
      (matchName style.name).toOption = some style.name := by
  obtain ⟨color, modifier⟩ := style
  cases color <;> cases modifier <;> decide +kernel

variable (style : Style)

theorem matchName_name : matchName style.name = .ok style.name := by
  obtain ⟨-, -, -, -, -, -, hname⟩ := style.name_cases
  cases h : matchName style.name with
  | error e => simp [h, Except.toOption] at hname
  | ok name => simpa [h, Except.toOption] using hname

theorem takeWhile_name : style.name.takeWhile (· != '=') = style.name := by
  obtain ⟨-, hequals, -⟩ := style.name_cases
  have hall : ∀ c ∈ style.name, (c != '=') = true := fun c hc => by
    simpa using fun he : c = '=' => hequals (he ▸ hc)
  exact List.takeWhile_eq_self_iff.2 hall

theorem enter_name (printed : Nat) :
    enter [] printed style.name = .ok ([⟨style.name, none, printed⟩], []) := by
  obtain ⟨-, -, -, hslash, -⟩ := style.name_cases
  rw [enter, takeWhile_name]
  dsimp only
  split
  · next name h => exact absurd (by rw [h]; rfl) hslash
  · rw [matchName_name, if_pos rfl]
    rfl

theorem enter_closing (start printed : Nat) :
    enter [⟨style.name, none, start⟩] printed ('/' :: style.name) =
      .ok ([], [⟨start, printed, style.name⟩]) := by
  obtain ⟨-, -, hne, -, hhandler, htrim, -⟩ := style.name_cases
  have hstem : ('/' :: style.name).takeWhile (· != '=') = '/' :: style.name := by
    rw [List.takeWhile_cons_of_pos (by decide), takeWhile_name]
  have hclosed : closed [⟨style.name, none, start⟩] ('/' :: style.name) style.name =
      .ok (⟨style.name, none, start⟩, []) := by
    rw [closed, htrim, if_neg hne, matchName_name]
    simp [takeTag?]
  have hclose : OpenTag.close ⟨style.name, none, start⟩ printed =
      .ok [⟨start, printed, style.name⟩] := by
    rw [OpenTag.close, OpenTag.isHandler, if_neg (by simpa using hhandler)]
    rfl
  rw [enter, hstem]
  simp only [hclosed]
  exact congrArg (Except.map fun spans => (([], spans) : OpenTags × List Span)) hclose

/-- The closing tag after any number of backslashes closes its style or is literal. -/
theorem renderMarks_closing (d : Display) (start slashes printed : Nat) :
    ∃ r, renderMarks [⟨style.name, none, start⟩] printed
      (marksAfter d [] [.bracket slashes ('/' :: style.name)]) = .ok r := by
  rw [marksAfter]
  split
  · rw [marksAfter, ← List.map_append, ← List.map_append, ← List.append_nil (List.map _ _),
      renderMarks_chars]
    exact ⟨_, rfl⟩
  · rw [List.append_assoc, renderMarks_chars, List.singleton_append, renderMarks, enter_closing]
    exact ⟨_, rfl⟩

theorem piecesFrom_closing (slashes : Nat) :
    piecesFrom slashes (bracketed ('/' :: style.name)) =
      [.bracket slashes ('/' :: style.name)] := by
  obtain ⟨htag, -⟩ := style.name_cases
  have hclosing : tag? ('/' :: style.name ++ [']']) = some ('/' :: style.name, []) := by
    refine tag?_eq_some_iff.2 ⟨closing?_eq_some_iff.2 ⟨rfl, ?_⟩, rfl⟩
    exact List.forall_mem_cons.2
      ⟨by decide, (closing?_eq_some_iff.1 (tag?_eq_some_iff.1 htag).1).2⟩
  rw [bracketed, List.cons_append, piecesFrom_of_tag hclosing, piecesFrom]
  rfl

/-- A styled text is a tag, literal pieces, and the closing tag after some backslashes: those at the
end of the text, and one more if there is one. -/
theorem pieces_apply (text : Text) : ∃ (stem : List Piece) (k : Nat),
    pieces text = stem ++ List.replicate k (.plain '\\') ∧
      pieces (style.apply text) = .bracket 0 style.name :: (stem.map Piece.literal ++
        [.bracket (if k = 1 then 2 else k) ('/' :: style.name)]) := by
  obtain ⟨htag, -⟩ := style.name_cases
  obtain ⟨more, hescape, hmore, hmore', hread⟩ : ∃ more,
      escape text ++ bracketed ('/' :: style.name) = escapedFrom 0 text ++ more ∧
        tag? more = none ∧ closing? more = none ∧ ∀ n, piecesFrom n more =
          [.bracket (n + if endsInOneSlash (escapedFrom 0 text) then 1 else 0)
            ('/' :: style.name)] := by
    rw [escape_eq]
    split
    · refine ⟨'\\' :: bracketed ('/' :: style.name), by simp, rfl, rfl, fun n => ?_⟩
      rw [piecesFrom, piecesFrom_closing]
    · exact ⟨_, rfl, rfl, rfl, piecesFrom_closing style⟩
  obtain ⟨stem, k, hstem, hlast, hpieces⟩ := piecesFrom_escapedFrom hmore hmore' 0 text
  have hescaped : escapedFrom 0 text = stem.flatMap Piece.escaped ++ List.replicate k '\\' := by
    rw [escapedFrom, hstem, List.flatMap_append, flatMap_escaped_replicate]
  have happly : style.apply text =
      '[' :: (style.name ++ ']' :: (escape text ++ bracketed ('/' :: style.name))) := by
    simp [apply, bracketed]
  refine ⟨stem, k, hstem, ?_⟩
  rw [pieces, happly, piecesFrom_of_tag (tag?_append htag _), hescape, hpieces, hread, hescaped,
    endsInOneSlash_append (getLast?_flatMap_escaped hlast)]
  by_cases hk : k = 1 <;> simp [hk]

/-- What a styled text prints is its literal pieces, and what the closing tag leaves. -/
theorem render_apply (d : Display) (text : Text) : ∃ (stem : List Piece) (k : Nat),
    pieces text = stem ++ List.replicate k (.plain '\\') ∧
      render d (style.apply text) = (renderMarks [⟨style.name, none, 0⟩]
        (shownAfter d [] (unslashed stem)).length
        (marksAfter d [] [.bracket (if k = 1 then 2 else k) ('/' :: style.name)])).map
          (.after (shownAfter d [] (unslashed stem))) := by
  obtain ⟨stem, k, hstem, hpieces⟩ := style.pieces_apply text
  have hunslashed : unslashed (pieces (style.apply text)) = .bracket 0 style.name ::
      ((unslashed stem).map Piece.literal ++
        [.bracket (if k = 1 then 2 else k) ('/' :: style.name)]) := by
    rw [hpieces, unslashed_cons (by simp), unslashed_append (by simp), unslashed_map_literal]
    rfl
  refine ⟨stem, k, hstem, ?_⟩
  rw [render, marks, hunslashed, marksAfter, if_neg (by decide), marksAfter_literal d (by simp)]
  simp only [Nat.zero_div, List.replicate_zero, List.append_nil]
  rw [show d.pictured [] = [] from rfl, List.map_nil, List.nil_append, List.singleton_append,
    renderMarks, enter_name]
  dsimp only
  rw [renderMarks_chars, Nat.zero_add]
  cases renderMarks [⟨style.name, none, 0⟩] (shownAfter d [] (unslashed stem)).length
    (marksAfter d [] [.bracket (if k = 1 then 2 else k) ('/' :: style.name)]) <;> rfl

theorem exists_render_apply (d : Display) (text : Text) :
    ∃ r, render d (style.apply text) = .ok r := by
  obtain ⟨stem, k, -, hrender⟩ := style.render_apply d text
  obtain ⟨r, hr⟩ := style.renderMarks_closing d 0 (if k = 1 then 2 else k)
    (shownAfter d [] (unslashed stem)).length
  exact ⟨_, by rw [hrender, hr]; rfl⟩

/-- Whatever a message says, its styled form can be printed. -/
theorem exists_line (d : Display) (text : Text) : ∃ line, style.line d text = .ok line := by
  obtain ⟨r, hr⟩ := style.exists_render_apply d text
  exact ⟨_, by rw [line, hr]; rfl⟩

end Counterpart.Style
