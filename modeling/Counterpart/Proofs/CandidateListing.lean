import Mathlib.Data.List.Forall2
import Counterpart.Proofs.CommandRuns
import Counterpart.Proofs.StyledText
import Counterpart.Proofs.TableLayout

/-! What a listing of candidates shows. A status is shown as it is, whatever the error in it says; a
path is read as markup, so that it is shown as it is just when no tag stands in it. -/

namespace Counterpart

namespace Markup

/-! ### What tags lose -/

def Piece.isBracket : Piece → Bool
  | .plain _ => false
  | .bracket _ _ => true

def Mark.char? : Mark → Option Char
  | .char c => some c
  | .tag _ => none

theorem filterMap_char_map (s : Text) : (s.map Mark.char).filterMap Mark.char? = s := by
  rw [List.filterMap_map]
  exact List.filterMap_some

theorem text_renderMarks {opened : OpenTags} {printed : Nat} {marks : List Mark} {r : Rendered}
    (h : renderMarks opened printed marks = .ok r) : r.text = marks.filterMap Mark.char? := by
  induction marks generalizing opened printed r with
  | nil =>
    rw [renderMarks] at h
    exact Except.ok.inj h ▸ rfl
  | cons mark rest ih =>
    cases mark with
    | char c =>
      rw [renderMarks] at h
      obtain ⟨r, hr, rfl⟩ := map_eq_ok_iff.1 h
      rw [Rendered.after, ih hr]
      rfl
    | tag inner =>
      rw [renderMarks] at h
      split at h
      · cases h
      · obtain ⟨r, hr, rfl⟩ := map_eq_ok_iff.1 h
        exact (ih hr).trans rfl

variable {d : Display}

/-- Each bracket prints less than its own text. -/
theorem length_marksAfter {pieces : List Piece} {before : Text}
    (h : ¬ d.HasCode (before ++ pieces.flatMap Piece.text)) :
    ((marksAfter d before pieces).filterMap Mark.char?).length + pieces.countP Piece.isBracket ≤
      (before ++ pieces.flatMap Piece.text).length := by
  induction pieces generalizing before with
  | nil =>
    rw [List.flatMap_nil, List.append_nil] at h ⊢
    rw [marksAfter, filterMap_char_map, Display.pictured_eq_self h]
    exact Nat.le_refl _
  | cons piece rest ih =>
    rw [List.flatMap_cons] at h ⊢
    cases piece with
    | plain c =>
      rw [Piece.text, ← List.append_assoc] at h ⊢
      exact ih h
    | bracket slashes inner =>
      rw [Piece.text] at h ⊢
      obtain ⟨hbefore, hinner, hrest⟩ := not_hasCode_around h
      have hlength := @ih [] hrest
      rw [marksAfter, Display.pictured_eq_self hbefore, Display.pictured_eq_self hinner,
        List.countP_cons_of_pos rfl]
      simp only [List.filterMap_append, filterMap_char_map, List.length_append,
        List.length_replicate, List.nil_append] at hlength ⊢
      split
      · rw [filterMap_char_map]
        omega
      · have htag : [Mark.tag inner].filterMap Mark.char? = [] := rfl
        have htwo : 2 ≤ (bracketed inner).length := by simp [bracketed]
        rw [htag, List.length_nil]
        omega

/-- A text with a tag is not printed as a whole. -/
theorem length_render_lt {s : Text} {r : Rendered} (h : HasTag s) (hs : KeepsSlashes s)
    (hc : ¬ d.HasCode s) (hr : render d s = .ok r) : r.text.length < s.length := by
  obtain ⟨n, inner, hmem⟩ := (hasTag_iff 0 s).1 h
  have hcount : 0 < (pieces s).countP Piece.isBracket := List.countP_pos_iff.2 ⟨_, hmem, rfl⟩
  have htext : (pieces s).flatMap Piece.text = s := flatMap_text_piecesFrom 0 s
  have hlength := @length_marksAfter d (pieces s) [] (by rwa [List.nil_append, htext])
  rw [List.nil_append, htext] at hlength
  rw [text_renderMarks hr, marks, unslashed_pieces hs]
  omega

namespace Rendered

theorem filter_eq_self {r : Rendered} {keep : Char → Bool} (h : ∀ c ∈ r.text, keep c = true)
    (hspans : ∀ span ∈ r.spans, span.start ≤ r.text.length ∧ span.stop ≤ r.text.length) :
    r.filter keep = r := by
  have hplace (offset : Nat) :
      ((r.text.take offset).filter keep).length = min offset r.text.length := by
    rw [List.filter_eq_self.2 fun c hc => h c (List.mem_of_mem_take hc), List.length_take]
  have hmap : r.spans.map (fun span => { span with
      start := ((r.text.take span.start).filter keep).length
      stop := ((r.text.take span.stop).filter keep).length }) = r.spans := by
    refine (List.map_congr_left fun span hspan => ?_).trans (List.map_id _)
    rw [hplace, hplace, Nat.min_eq_left (hspans span hspan).1,
      Nat.min_eq_left (hspans span hspan).2]
    rfl
  rw [filter]
  dsimp only
  rw [hmap, List.filter_eq_self.2 h]

end Rendered
end Markup

open Markup

/-! ### Cells -/

/-- No backslash, no character that a console drops, and no code. -/
structure IsPrintable (d : Display) (s : Text) : Prop where
  unescaped : '\\' ∉ s
  kept : ∀ c ∈ s, Text.isDropped c = false
  uncoded : ¬ d.HasCode s

instance (d : Display) : DecidablePred (IsPrintable d) := fun s =>
  decidable_of_iff ('\\' ∉ s ∧ s.all (!Text.isDropped ·) = true ∧ ¬ d.HasCode s) <| by
    rw [← Text.kept_iff]
    exact ⟨fun ⟨hs, hk, hc⟩ => ⟨hs, hk, hc⟩, fun ⟨hs, hk, hc⟩ => ⟨hs, hk, hc⟩⟩

/-- A cell with this markup shows the text. -/
def Shows (d : Display) (markup text : Text) : Prop :=
  ∃ shown, renderCell d markup = .ok shown ∧ shown.text = text

instance (d : Display) : DecidableRel (Shows d) := fun markup text =>
  decidable_of_iff ((renderCell d markup).toOption.map (·.text) = some text) <| by
    cases h : renderCell d markup <;> simp [Shows, h, Except.toOption]

namespace IsPrintable

variable {d : Display} {s : Text}

theorem keepsSlashes (h : IsPrintable d s) : KeepsSlashes s := keepsSlashes_of_not_mem h.unescaped

theorem renderCell_eq (h : IsPrintable d s) {markup : Text} {spans : List Span}
    (hr : render d markup = .ok ⟨s, spans⟩)
    (hspans : ∀ span ∈ spans, span.start ≤ s.length ∧ span.stop ≤ s.length) :
    renderCell d markup = .ok ⟨s, spans⟩ := by
  have hkeep := List.all_eq_true.1 (Text.kept_iff.1 h.kept)
  have hfilter := @Rendered.filter_eq_self ⟨s, spans⟩ _ hkeep hspans
  rw [renderCell, hr, Except.map, hfilter]

theorem renderCell_self (h : IsPrintable d s) (ht : ¬ HasTag s) : renderCell d s = .ok ⟨s, []⟩ :=
  h.renderCell_eq (render_of_not_hasTag ht h.keepsSlashes h.uncoded) (by simp)

theorem renderCell_apply (h : IsPrintable d s) (style : Style) :
    renderCell d (style.apply s) = .ok ⟨s, [⟨0, s.length, style.name⟩]⟩ := by
  have hend : ¬ ['\\', '\\'] <:+ s := fun hend => h.unescaped (hend.subset List.mem_cons_self)
  exact h.renderCell_eq (style.render_apply_exact h.keepsSlashes hend h.uncoded) (by simp)

/-- A text is shown as it is just when no tag stands in it. -/
theorem shows_self_iff (h : IsPrintable d s) : Shows d s s ↔ ¬ HasTag s := by
  constructor
  · rintro ⟨shown, hshown, htext⟩ htag
    obtain ⟨r, hr, rfl⟩ := map_eq_ok_iff.1 hshown
    have hfilter : (r.filter (!Text.isDropped ·)).text.length ≤ r.text.length :=
      List.length_filter_le _ _
    have hlt := length_render_lt htag h.keepsSlashes h.uncoded hr
    rw [htext] at hfilter
    omega
  · exact fun ht => ⟨_, h.renderCell_self ht, rfl⟩

end IsPrintable

section

variable {n : Int} {c : Char}

theorem Text.mem_ofInt (h : c ∈ ofInt n) : c = '-' ∨ c.isDigit = true := by
  cases n with
  | ofNat n => exact .inr (isDigit_of_mem_ofNat h)
  | negSucc n => exact (List.mem_cons.1 h).imp_right isDigit_of_mem_ofNat

theorem Text.isPrintable_ofInt (d : Display) (n : Int) : IsPrintable d (ofInt n) := by
  refine ⟨fun hmem => absurd (mem_ofInt hmem) (by decide), fun c hc => ?_,
    Display.not_hasCode_of_not_mem fun hmem => absurd (mem_ofInt hmem) (by decide)⟩
  rcases mem_ofInt hc with rfl | hdigit
  · decide
  · have hlow : 48 ≤ c.toNat := by
      rw [Char.isDigit, Bool.and_eq_true, decide_eq_true_eq] at hdigit
      exact hdigit.1
    have hdropped : c.toNat ∉ [7, 8, 11, 12, 13] := fun hmem => by
      simp at hmem
      omega
    simpa [isDropped] using hdropped

theorem Text.not_hasTag_ofInt (n : Int) : ¬ HasTag (ofInt n) := by
  rintro ⟨rest, hrest, -⟩
  exact absurd (mem_ofInt (hrest.subset List.mem_cons_self)) (by decide)

theorem Text.unjoined_ofInt (n : Int) : Unjoined (ofInt n) := fun hmem =>
  absurd (mem_ofInt hmem) (by decide)

end

/-! ### Rows -/

/-- Steps that each give what is due for them. -/
theorem mapM_eq_ok_iff_forall₂ {ε α β γ : Type} {f : α → Except ε β} {k : β → γ} {l : List α}
    {due : List γ} : (∃ found, l.mapM f = .ok found ∧ found.map k = due) ↔
      List.Forall₂ (fun a c => ∃ b, f a = .ok b ∧ k b = c) l due := by
  induction l generalizing due with
  | nil =>
    rw [List.forall₂_nil_left_iff]
    constructor
    · rintro ⟨found, hfound, rfl⟩
      exact Except.ok.inj hfound ▸ rfl
    · rintro rfl
      exact ⟨[], rfl, rfl⟩
  | cons a l ih =>
    rw [List.forall₂_cons_left_iff, List.mapM_cons]
    constructor
    · rintro ⟨found, hfound, rfl⟩
      cases hfirst : f a with
      | error e =>
        rw [hfirst] at hfound
        cases hfound
      | ok b =>
        cases hrest : l.mapM f with
        | error e =>
          rw [hfirst, hrest] at hfound
          cases hfound
        | ok later =>
          rw [hfirst, hrest] at hfound
          obtain rfl := Except.ok.inj hfound
          exact ⟨_, _, ⟨b, rfl, rfl⟩, ih.1 ⟨later, hrest, rfl⟩, rfl⟩
    · rintro ⟨c, due, ⟨b, hb, rfl⟩, hlater, rfl⟩
      obtain ⟨later, hrest, rfl⟩ := ih.2 hlater
      exact ⟨b :: later, by rw [hb, hrest]; rfl, rfl⟩

theorem exists_ok_of_mapM_ok {ε α β : Type} {f : α → Except ε β} {l : List α} {found : List β}
    (h : l.mapM f = .ok found) : ∀ a ∈ l, ∃ b, f a = .ok b := by
  have hall := (mapM_eq_ok_iff_forall₂ (k := id)).1 ⟨found, h, rfl⟩
  have hsplit : List.Forall₂ (fun a _ => (∃ b, f a = .ok b) ∧ True) l (found.map id) :=
    hall.imp fun _ _ hb => ⟨hb.imp fun _ => And.left, trivial⟩
  exact ((List.forall₂_and_left _ _).1 hsplit).1

namespace CandidateReport

/-- What the cells should show. -/
def texts (r : CandidateReport) : List Text := [Text.ofInt r.precedence, r.path, r.statusText]

/-- The path and the error in a report are texts of a kind. -/
def Carries (P : Text → Prop) (r : CandidateReport) : Prop :=
  P r.path ∧ ∀ error, r.error = some error → P error

variable {d : Display} {r : CandidateReport} {reports : List CandidateReport}

theorem Carries.statusText {P : Text → Prop} (h : r.Carries P) (hword : ∀ s : ProbeStatus, P s.word)
    (happend : ∀ {s t : Text}, P s → P t → P (s ++ t)) (hcolon : P ": ") : P r.statusText := by
  rw [CandidateReport.statusText]
  split
  · exact hword _
  · next error he => exact happend (happend (hword _) hcolon) (h.2 error he)

theorem isPrintable_statusText (h : r.Carries (IsPrintable d)) : IsPrintable d r.statusText := by
  obtain ⟨hword, hword', hcolon⟩ : '\\' ∉ r.status.word ∧
      r.status.word.all (!Text.isDropped ·) = true ∧ ':' ∉ r.status.word := by
    cases r.status <;> decide
  rw [← Text.kept_iff] at hword'
  rw [CandidateReport.statusText]
  split
  · exact ⟨hword, hword', Display.not_hasCode_of_not_mem hcolon⟩
  · next error he =>
    obtain ⟨herror, herror', hcode⟩ := h.2 error he
    refine ⟨by simp [hword, herror], ?_, fun hcoded => ?_⟩
    · have hcolon' : ∀ c ∈ (": " : Text), Text.isDropped c = false := Text.kept_iff.2 (by decide)
      rw [List.append_assoc]
      exact List.forall_mem_append.2 ⟨hword', List.forall_mem_append.2 ⟨hcolon', herror'⟩⟩
    · -- The blank after the colon keeps the word and the error apart.
      have hsplit : r.status.word ++ ": " ++ error = (r.status.word ++ [':']) ++ ' ' :: error := by
        simp
      rw [hsplit] at hcoded
      exact (Display.hasCode_append_blank hcoded).elim
        (Display.not_hasCode_of_colon_at_end hcolon) hcode

theorem unjoined_statusText (h : r.Carries Unjoined) : Unjoined r.statusText :=
  h.statusText (fun s => by cases s <;> decide) .append (by decide)

theorem shows_status (h : r.Carries (IsPrintable d)) :
    Shows d (r.statusStyle.apply r.statusText) r.statusText :=
  ⟨_, (isPrintable_statusText h).renderCell_apply _, rfl⟩

theorem row_shows_iff (h : r.Carries (IsPrintable d)) :
    (∃ row, r.cells.mapM (renderCell d) = .ok row ∧ row.map (·.text) = r.texts) ↔
      ¬ HasTag r.path := by
  have hprecedence : Shows d (Text.ofInt r.precedence) (Text.ofInt r.precedence) :=
    (Text.isPrintable_ofInt d _).shows_self_iff.2 (Text.not_hasTag_ofInt _)
  rw [mapM_eq_ok_iff_forall₂, ← h.1.shows_self_iff]
  constructor
  · intro hrow
    exact (List.forall₂_cons.1 (List.forall₂_cons.1 hrow).2).1
  · intro hpath
    exact .cons hprecedence (.cons hpath (.cons (shows_status h) .nil))

theorem isFaulty_status (r : CandidateReport) (start stop : Nat) :
    Span.isFaulty ⟨start, stop, r.statusStyle.name⟩ = false := by
  have hcongr : Span.isFaulty ⟨start, stop, r.statusStyle.name⟩ =
      Span.isFaulty ⟨0, 0, r.statusStyle.name⟩ := Span.isFaulty_congr rfl
  rw [hcongr, statusStyle]
  split <;> decide +kernel

theorem row_placeable (hc : r.Carries (IsPrintable d)) (ht : ¬ HasTag r.path)
    (hu : r.Carries Unjoined) :
    Yields (∀ cell ∈ ·, cell.Placeable) (r.cells.mapM (renderCell d)) := by
  refine .mapM fun markup hmarkup => ?_
  have hcells : markup = Text.ofInt r.precedence ∨ markup = r.path ∨
      markup = r.statusStyle.apply r.statusText := by simpa [cells] using hmarkup
  rcases hcells with rfl | rfl | rfl
  · refine ⟨_, (Text.isPrintable_ofInt d _).renderCell_self (Text.not_hasTag_ofInt _), ?_⟩
    exact ⟨Text.unjoined_ofInt _, by simp⟩
  · exact ⟨_, hc.1.renderCell_self ht, hu.1, by simp⟩
  · refine ⟨_, (isPrintable_statusText hc).renderCell_apply _, unjoined_statusText hu, ?_⟩
    exact List.forall_mem_singleton.2 (r.isFaulty_status _ _)

/-! ### The table -/

/-- The table with these rows. -/
def listing (d : Display) (rows : List (List Rendered)) : Table where
  pageWidth := d.width
  title := "Counterpart candidates"
  columns := [
    { heading := "#", alignment := .right },
    { heading := "Path", overflow := .fold },
    { heading := "Status" }]
  rows := rows

theorem candidateTable_eq_ok_iff {table : Table} : candidateTable d reports = .ok table ↔
    (reports.mapM fun r : CandidateReport => r.cells.mapM (renderCell d)) = .ok table.rows ∧
      table = listing d table.rows := by
  have htable : candidateTable d reports =
      (reports.mapM fun r : CandidateReport => r.cells.mapM (renderCell d)).map (listing d) := by
    rw [candidateTable]
    cases reports.mapM fun r : CandidateReport => r.cells.mapM (renderCell d) <;> rfl
  rw [htable, map_eq_ok_iff]
  constructor
  · rintro ⟨rows, hrows, rfl⟩
    exact ⟨hrows, rfl⟩
  · rintro ⟨hrows, htable⟩
    exact ⟨_, hrows, htable⟩

theorem candidateTable_shows_iff (h : ∀ r ∈ reports, r.Carries (IsPrintable d)) :
    (∃ table, candidateTable d reports = .ok table ∧
        table.rows.map (·.map (·.text)) = reports.map texts) ↔
      ∀ r ∈ reports, ¬ HasTag r.path := by
  have hrows : (∃ table, candidateTable d reports = .ok table ∧
        table.rows.map (·.map (·.text)) = reports.map texts) ↔
      ∃ rows, (reports.mapM fun r : CandidateReport => r.cells.mapM (renderCell d)) = .ok rows ∧
        rows.map (·.map (·.text)) = reports.map texts := by
    constructor
    · rintro ⟨table, htable, htexts⟩
      exact ⟨_, (candidateTable_eq_ok_iff.1 htable).1, htexts⟩
    · rintro ⟨rows, hrows, htexts⟩
      exact ⟨listing d rows, candidateTable_eq_ok_iff.2 ⟨hrows, rfl⟩, htexts⟩
  rw [hrows, mapM_eq_ok_iff_forall₂, List.forall₂_map_right_iff, List.forall₂_same]
  exact forall₂_congr fun r hr => row_shows_iff (h r hr)

theorem exists_text_candidateTable {table : Table} (h : candidateTable d reports = .ok table)
    (hc : ∀ r ∈ reports, r.Carries (IsPrintable d)) (ht : ∀ r ∈ reports, ¬ HasTag r.path)
    (hu : ∀ r ∈ reports, r.Carries Unjoined) : ∃ output, table.text = .ok output := by
  obtain ⟨hrows, htable⟩ := candidateTable_eq_ok_iff.1 h
  obtain ⟨rows, hrows', hplaceable⟩ :=
    Yields.mapM fun r hr => row_placeable (hc r hr) (ht r hr) (hu r hr)
  obtain rfl := Except.ok.inj (hrows.symm.trans hrows')
  have htitle : Unjoined "Counterpart candidates" := by decide
  have hnumber : Unjoined "#" := by decide
  have hpath : Unjoined "Path" := by decide
  have hstatus : Unjoined "Status" := by decide
  have hheadings : ∀ c ∈ (listing d table.rows).columns, Unjoined c.heading :=
    List.forall_mem_cons.2 ⟨hnumber, List.forall_mem_cons.2 ⟨hpath,
      List.forall_mem_singleton.2 hstatus⟩⟩
  rw [htable]
  exact Table.exists_text htitle hheadings hplaceable

/-- A table is made only when all paths are markup. -/
theorem exists_renders_of_candidateTable {table : Table}
    (h : candidateTable d reports = .ok table) :
    ∀ r ∈ reports, ∃ shown, renderCell d r.path = .ok shown := fun r hr => by
  obtain ⟨row, hrow⟩ := exists_ok_of_mapM_ok (candidateTable_eq_ok_iff.1 h).1 r hr
  exact exists_ok_of_mapM_ok hrow r.path (by simp [cells])

end CandidateReport

namespace CommandLine

/-! ### The command -/

/-- A command line that asks for the candidates; the second tree is what it finds once the journal
is open. -/
structure Lists (settings : Settings) (naming : Naming) (files : FileTree) (args : List Text)
    (opened : FileTree) (request : Request) : Prop where
  globals : ∃ a rest level b, Arguments.read globalForms false args = .ok a ∧
    a.has .help = false ∧ a.positionals = Command.candidates.word :: rest ∧
    threshold settings a = .ok level ∧
    Arguments.read (commandForms .candidates) true rest = .ok b ∧ b.has .help = false ∧
    Request.ofArguments b = .ok request
  log : openLog settings naming files = .ok opened

theorem toOption_eq_some_iff {ε α : Type} {x : Except ε α} {a : α} :
    x.toOption = some a ↔ x = .ok a := by
  cases x <;> simp [Except.toOption]

/-- The reports that a request leads to, if it leads to any. -/
def reported (d : Display) (files : FileTree) (request : Request) :
    Option (List CandidateReport) := do
  let w ← (openHost d files request true).toOption
  (navigator.report.run.run w).1.toOption

variable {d : Display} {settings : Settings} {naming : Naming} {files opened : FileTree}
variable {args : List Text} {request : Request} {reports : List CandidateReport}

theorem exists_host_of_reported (h : reported d files request = some reports) :
    ∃ w, openHost d files request true = .ok w ∧
      (navigator.report.run.run w).1 = .ok reports := by
  obtain ⟨w, hopen, hreports⟩ := Option.bind_eq_some_iff.1 h
  exact ⟨w, toOption_eq_some_iff.1 hopen, toOption_eq_some_iff.1 hreports⟩

theorem Lists.run_eq (h : Lists settings naming files args opened request) :
    (run settings naming files args).ending = (candidates settings.display opened request).1 := by
  obtain ⟨a, rest, level, b, ha, hhelp, hpositionals, hlevel, hb, hhelp', hrequest⟩ := h.globals
  rw [run, ha]
  dsimp only
  rw [hhelp, if_neg Bool.false_ne_true, hpositionals]
  dsimp only
  rw [show Command.ofWord? Command.candidates.word = some .candidates from rfl]
  dsimp only
  rw [hlevel, h.log]
  dsimp only
  rw [runCommand, hb]
  dsimp only
  rw [hhelp', if_neg Bool.false_ne_true, hrequest]

theorem candidates_of_reported (h : reported d files request = some reports) :
    (candidates d files request).1 = match candidateTable d reports >>= Table.text with
      | .ok output => .finished true output
      | .error e => .died (.markup e) := by
  obtain ⟨w, hopen, hreports⟩ := exists_host_of_reported h
  rw [candidates, hopen]
  dsimp only
  rcases hrun : navigator.report.run.run w with ⟨e | found, after⟩
  · rw [hrun] at hreports
    cases hreports
  · rw [hrun] at hreports
    obtain rfl := Except.ok.inj hreports
    dsimp only
    cases candidateTable d found >>= Table.text <;> rfl

theorem precedence_of_reported (h : reported d files request = some reports) :
    reports.map CandidateReport.precedence =
      (List.range reports.length).map fun (i : Nat) => (i : Int) := by
  obtain ⟨⟨host, journal⟩, -, hreports⟩ := exists_host_of_reported h
  obtain ⟨after, hrun⟩ := @LocalHost.report_gives .standard host journal
  rw [navigator, hrun] at hreports
  cases hs : host.sought .standard with
  | error e =>
    rw [hs] at hreports
    cases hreports
  | ok found =>
    rw [hs] at hreports
    obtain rfl := Except.ok.inj hreports
    rw [CandidateReport.map_precedence_ofResults]
    simp [CandidateReport.ofResults]

/-- A listing shows the status of every candidate as it is. It shows all paths as they are, and
succeeds unless joiners get in the way of the table, just when there is no tag in any of them; and
it dies of a path that is no markup. -/
theorem Lists.shows_reports (h : Lists settings naming files args opened request)
    (hreports : reported settings.display opened request = some reports)
    (hclean : ∀ r ∈ reports, r.Carries (IsPrintable settings.display)) :
    reports.map CandidateReport.precedence =
        (List.range reports.length).map (fun (i : Nat) => (i : Int)) ∧
      (∀ r ∈ reports, Shows settings.display (r.statusStyle.apply r.statusText) r.statusText ∧
        (Shows settings.display r.path r.path ↔ ¬ HasTag r.path)) ∧
      ((∃ table, candidateTable settings.display reports = .ok table ∧
          table.rows.map (·.map (·.text)) = reports.map CandidateReport.texts ∧
          ((∀ r ∈ reports, r.Carries Unjoined) → ∃ output, table.text = .ok output ∧
            (run settings naming files args).ending = .finished true output ∧
            (run settings naming files args).ending.exitCode = 0)) ↔
        ∀ r ∈ reports, ¬ HasTag r.path) ∧
      ((∀ r ∈ reports, ∃ shown, renderCell settings.display r.path = .ok shown) ∨
        ∃ e, (run settings naming files args).ending = .died (.markup e)) := by
  have hending := h.run_eq.trans (candidates_of_reported hreports)
  refine ⟨precedence_of_reported hreports, fun r hr => ⟨CandidateReport.shows_status (hclean r hr),
    (hclean r hr).1.shows_self_iff⟩, ⟨?_, fun ht => ?_⟩, ?_⟩
  · rintro ⟨table, htable, htexts, -⟩
    exact (CandidateReport.candidateTable_shows_iff hclean).1 ⟨table, htable, htexts⟩
  · obtain ⟨table, htable, htexts⟩ := (CandidateReport.candidateTable_shows_iff hclean).2 ht
    refine ⟨table, htable, htexts, fun hu => ?_⟩
    obtain ⟨output, htext⟩ := CandidateReport.exists_text_candidateTable htable hclean ht hu
    have hfinished : (run settings naming files args).ending = .finished true output := by
      rw [hending, htable]
      dsimp only [Bind.bind, Except.bind]
      rw [htext]
    exact ⟨output, htext, hfinished, by rw [hfinished]; rfl⟩
  · cases htable : candidateTable settings.display reports with
    | error e =>
      rw [htable] at hending
      exact .inr ⟨e, hending⟩
    | ok table => exact .inl (CandidateReport.exists_renders_of_candidateTable htable)

/-- Views in directories with brackets in their names: no tag, a tag, and a tag that closes none. -/
def bracketedViews : FileTree where
  entries := [
    (["app"], .directory),
    (["app", "views"], .directory),
    (["app", "views", "[Admin]"], .directory),
    (["app", "views", "[Admin]", "index.html.erb"], .file []),
    (["app", "views", "[admin]"], .directory),
    (["app", "views", "[admin]", "index.html.erb"], .file []),
    (["app", "views", "["], .directory),
    (["app", "views", "[", "admin]"], .directory),
    (["app", "views", "[", "admin]", "index.html.erb"], .file [])]
  workingDirectory := []

/-- The arguments that ask for the counterpart of the index of an identity. -/
def indexArgs (identity : Text) : List Text :=
  ["-q", "candidates", "app/views/" ++ identity ++ "/index.html.erb"]

def indexRequest (identity : Text) : Request where
  file := .ofText ("app/views/" ++ identity ++ "/index.html.erb")
  line := none
  column := 1
  offset := none
  workspaces := []
  json := false

theorem indexArgs_lists {identity : Text} :
    Lists {} .ok bracketedViews (indexArgs identity) bracketedViews
      (indexRequest identity) where
  globals := ⟨⟨[(.quiet, [])], _⟩, _, .error, ⟨[], _⟩, rfl, rfl, rfl, rfl, rfl, rfl, rfl⟩
  log := rfl

theorem capital_directory_listed :
    ∃ output, (run {} .ok bracketedViews (indexArgs "[Admin]")).ending =
      .finished true output := by
  have hreported : reported {} bracketedViews (indexRequest "[Admin]") =
      some [⟨0, "/app/controllers/[Admin]_controller.rb", .missing, none⟩] := by
    decide +kernel
  generalize hpath : ("/app/controllers/[Admin]_controller.rb" : Text) = path at hreported
  have hclean : IsPrintable {} path := by
    rw [← hpath]
    decide +kernel
  have htag : ¬ HasTag path := by
    rw [← hpath]
    decide +kernel
  have hunjoined : Unjoined path := by
    rw [← hpath]
    decide +kernel
  obtain ⟨-, -, hshows, -⟩ :=
    indexArgs_lists.shows_reports hreported (by simpa [CandidateReport.Carries])
  obtain ⟨table, -, -, hended⟩ := hshows.2 (by simpa using htag)
  obtain ⟨output, -, hended, -⟩ := hended (by simpa [CandidateReport.Carries])
  exact ⟨output, hended⟩

/-- A directory in brackets is left out of the path that is shown. One that closes a tag ends the
run, as no tag is open. -/
theorem bracketed_directory_lost :
    let path : Text := "/app/controllers/[admin]_controller.rb"
    Lists {} .ok bracketedViews (indexArgs "[admin]") bracketedViews (indexRequest "[admin]") ∧
      reported {} bracketedViews (indexRequest "[admin]") = some [⟨0, path, .missing, none⟩] ∧
      IsPrintable {} path ∧ Shows {} path "/app/controllers/_controller.rb" ∧ ¬ Shows {} path path ∧
      (reported {} bracketedViews (indexRequest "[/admin]")).isSome ∧
      (run {} .ok bracketedViews (indexArgs "[/admin]")).ending.exitCode = 1 := by
  refine ⟨indexArgs_lists, ?_, ?_, ?_, ?_, ?_, ?_⟩ <;> decide +kernel

end CommandLine
end Counterpart
