import Counterpart.Proofs.MarkupEscape
import Counterpart.Proofs.MethodSearch
import Counterpart.Proofs.Probing
import Counterpart.Session

/-! What a toggle does at a local host without faults, as a function of its state. The journal is
written along but never read. -/

namespace Counterpart

namespace LocalHost

open Act

variable (conv : Conventions) (host : LocalHost)

def focused : Except NavigationError (Document × Path) :=
  match host.active with
  | none => .error .noActiveEditor
  | some doc =>
    match innermostRoot? (forwardSlashes doc.path) host.folders with
    | none => .error .outsideWorkspace
    | some root => .ok (doc, .ofText root)

def sought : Except NavigationError Lookup :=
  match host.focused with
  | .error e => .error e
  | .ok (doc, root) => Lookup.find conv doc root

/-- What an attempt to navigate looks for, once the place it starts from is in the journal. -/
def started : Except Failure Lookup :=
  match host.focused with
  | .error e => .error (.navigation e)
  | .ok (doc, root) =>
    if doc.isSpelled then (Lookup.find conv doc root).mapError .navigation
    else .error .longNumeral

/-- The document that opening a path makes the active one. -/
def loaded (path : Path) : Except Failure Document :=
  match host.files.readText path with
  | .error e => .error e
  | .ok text =>
    match host.files.resolve path with
    | .error e => .error e
    | .ok real => .ok ⟨forwardSlashes real.text, text, 0⟩

/-- The outcome of opening a counterpart, and the document that is active then. -/
def arrival (found : Lookup) (doc : Document) : Outcome × Document :=
  match found.kind with
  | .controller => (.ofDocument .opened ("Opened view: " ++ found.action) doc found.action, doc)
  | _ =>
    match methodOffset? conv doc.text found.action with
    | none => (.ofDocument .partly ("Opened controller (action " ++ found.action ++ " not found)")
        doc found.action, doc)
    | some offset =>
      let doc := { doc with cursor := (offset : Int) }
      (.ofDocument .opened ("Jumped to action: " ++ found.action) doc found.action, doc)

/-- What an attempt to navigate comes to, with the document that is active after it. -/
def attempted : Except Failure (Outcome × Document) :=
  match host.started conv with
  | .error e => .error e
  | .ok found =>
    match found.candidates.find? host.files.holds with
    | none => .error (.navigation (Navigator.notFound found))
    | some path => (host.loaded path).map (arrival conv found)

def shown (outcome : Outcome) : LocalHost :=
  { host with
    messages := host.messages ++ [(outcome.level, outcome.message)]
    console := host.console.map fun text => text ++
      (((messageStyle outcome.level).line host.display outcome.message).toOption.getD []) }

/-- The outcome of a toggle and the host after it. -/
def toggled : Outcome × LocalHost :=
  match host.attempted conv with
  | .ok (outcome, doc) => (outcome, shown { host with active := some doc } outcome)
  | .error e => (Navigator.outcomeOf e, host.shown (Navigator.outcomeOf e))

variable {conv host}

theorem focused_ok {doc : Document} {root : Path} (h : host.focused = .ok (doc, root)) :
    host.active = some doc ∧ ∃ text, innermostRoot? (forwardSlashes doc.path) host.folders =
      some text ∧ root = .ofText text := by
  rw [focused] at h
  split at h
  · cases h
  · next active hactive =>
    split at h
    · cases h
    · next text hroot =>
      obtain ⟨rfl, rfl⟩ := Prod.mk.inj (Except.ok.inj h)
      exact ⟨hactive, text, hroot, rfl⟩

theorem focused_error {e : NavigationError} (h : host.focused = .error e) :
    ∃ kind, e.kind = some kind ∧ kind ≠ .notFound := by
  rw [focused] at h
  split at h
  · obtain rfl := Except.error.inj h
    exact ⟨.environment, rfl, by decide⟩
  split at h
  · obtain rfl := Except.error.inj h
    exact ⟨.environment, rfl, by decide⟩
  · cases h

theorem sought_ok {found : Lookup} (h : host.sought conv = .ok found) :
    ∃ doc root, host.focused = .ok (doc, root) ∧ Lookup.find conv doc root = .ok found := by
  rw [sought] at h
  cases hfocused : host.focused with
  | error e =>
    rw [hfocused] at h
    cases h
  | ok place =>
    rw [hfocused] at h
    exact ⟨place.1, place.2, rfl, h⟩

theorem started_eq (h : ∀ doc, host.active = some doc → doc.isSpelled = true) :
    host.started conv = (host.sought conv).mapError .navigation := by
  rw [started, sought]
  cases hfocused : host.focused with
  | error e => rfl
  | ok place => exact if_pos (h _ (focused_ok hfocused).1)

theorem started_of_sought {found : Lookup} (hs : host.sought conv = .ok found)
    (h : ∀ doc, host.active = some doc → doc.isSpelled = true) :
    host.started conv = .ok found := by
  rw [started_eq h, hs]
  rfl

theorem started_cases {found : Lookup} (hs : host.sought conv = .ok found) :
    host.started conv = .ok found ∨ host.started conv = .error .longNumeral := by
  obtain ⟨doc, root, hfocused, hfind⟩ := sought_ok hs
  rw [started, hfocused]
  dsimp only
  split
  · exact .inl (by rw [hfind]; rfl)
  · exact .inr rfl

theorem started_error {e : Failure} (h : host.started conv = .error e) : e.IsHandled := by
  rw [started] at h
  split at h
  · next he =>
    obtain ⟨kind, hkind, -⟩ := focused_error he
    exact Except.error.inj h ▸ Failure.isHandled_navigation hkind
  split at h
  · next doc root _ _ =>
    cases hfind : Lookup.find conv doc root with
    | error e' =>
      rw [hfind] at h
      obtain ⟨kind, hkind, -⟩ := Lookup.find_error hfind
      exact Except.error.inj h ▸ Failure.isHandled_navigation hkind
    | ok found =>
      rw [hfind] at h
      cases h
  · exact Except.error.inj h ▸ ⟨_, rfl⟩

theorem started_ok {found : Lookup} (h : host.started conv = .ok found) :
    host.sought conv = .ok found ∧ ∀ doc, host.active = some doc → doc.isSpelled = true := by
  rw [started] at h
  rw [sought]
  cases hfocused : host.focused with
  | error e =>
    rw [hfocused] at h
    cases h
  | ok place =>
    rw [hfocused] at h
    dsimp only at h ⊢
    split at h
    · next hspelled =>
      refine ⟨?_, fun doc hdoc => ?_⟩
      · cases hfind : Lookup.find conv place.1 place.2 with
        | error e =>
          rw [hfind] at h
          cases h
        | ok found' =>
          rw [hfind] at h
          exact congrArg Except.ok (Except.ok.inj h)
      · obtain rfl := Option.some.inj ((focused_ok hfocused).1.symm.trans hdoc)
        exact hspelled
    · cases h

theorem loaded_ok {path : Path} {doc : Document} (h : host.loaded path = .ok doc) :
    ∃ text real, host.files.readText path = .ok text ∧ host.files.resolve path = .ok real ∧
      doc = ⟨forwardSlashes real.text, text, 0⟩ := by
  rw [loaded] at h
  split at h
  · cases h
  · next text htext =>
    split at h
    · cases h
    · next real hreal => exact ⟨text, real, htext, hreal, (Except.ok.inj h).symm⟩

theorem loaded_isSpelled {path : Path} {doc : Document} (h : host.loaded path = .ok doc) :
    doc.isSpelled = true := by
  obtain ⟨text, real, -, -, rfl⟩ := loaded_ok h
  simp [Document.isSpelled, clampOffset]

theorem attempted_of_none {found : Lookup} (hs : host.started conv = .ok found)
    (hf : found.candidates.find? host.files.holds = none) :
    host.attempted conv = .error (.navigation (Navigator.notFound found)) := by
  rw [attempted, hs]
  dsimp only
  rw [hf]

theorem attempted_of_some {found : Lookup} (hs : host.started conv = .ok found) {path : Path}
    (hf : found.candidates.find? host.files.holds = some path) :
    host.attempted conv = (host.loaded path).map (arrival conv found) := by
  rw [attempted, hs]
  dsimp only
  rw [hf]

theorem attempted_ok {outcome : Outcome} {doc : Document}
    (h : host.attempted conv = .ok (outcome, doc)) :
    ∃ found path opened, host.started conv = .ok found ∧
      found.candidates.find? host.files.holds = some path ∧ host.loaded path = .ok opened ∧
      arrival conv found opened = (outcome, doc) := by
  cases hs : host.started conv with
  | error e =>
    rw [attempted, hs] at h
    cases h
  | ok found =>
    cases hfind : found.candidates.find? host.files.holds with
    | none =>
      rw [attempted_of_none hs hfind] at h
      cases h
    | some path =>
      rw [attempted_of_some hs hfind] at h
      cases hload : host.loaded path with
      | error e =>
        rw [hload] at h
        cases h
      | ok opened =>
        rw [hload] at h
        exact ⟨found, path, opened, rfl, hfind, hload, Except.ok.inj h⟩

theorem isSpelled_of_attempted {arrived : Outcome × Document}
    (h : host.attempted conv = .ok arrived) :
    ∀ doc, host.active = some doc → doc.isSpelled = true := by
  obtain ⟨found, path, opened, hs, -⟩ := attempted_ok h
  exact (started_ok hs).2

theorem started_of_attempted {found : Lookup} (hs : host.sought conv = .ok found)
    {arrived : Outcome × Document} (h : host.attempted conv = .ok arrived) :
    host.started conv = .ok found :=
  started_of_sought hs (isSpelled_of_attempted h)

/-- An attempt depends only on what is looked for and on the files. -/
theorem attempted_congr {host' : LocalHost} (hs : host.started conv = host'.started conv)
    (hf : host.files = host'.files) : host.attempted conv = host'.attempted conv := by
  simp only [attempted, loaded, hs, hf]

theorem focused_gives : Gives (navigator conv {}).focused host
    (host.focused.mapError Failure.navigation) host := by
  have hactive : Gives (navigator conv {}).host.activeEditor host (.ok host.active) host :=
    .bind .state (.pure _)
  rw [Navigator.focused, focused]
  refine .bind hactive ?_
  cases host.active with
  | none => exact .throw _
  | some doc =>
    dsimp only
    have hroot : Gives ((navigator conv {}).host.workspaceRootFor (forwardSlashes doc.path)) host
        (.ok ((innermostRoot? (forwardSlashes doc.path) host.folders).map Path.ofText)) host :=
      .bind .state (.pure _)
    refine .bind hroot ?_
    cases innermostRoot? (forwardSlashes doc.path) host.folders with
    | none => exact .throw (.navigation .outsideWorkspace)
    | some root => exact .pure (doc, Path.ofText root)

theorem probeAll_gives (candidates : List Path) : Gives ((navigator conv {}).probeAll candidates)
    host (.ok (candidates.map host.files.answer)) host := by
  intro journal
  have hrun := (navigator conv {}).probeAll_run (List.Perm.refl (List.range candidates.length))
    ⟨host, journal⟩
  rw [show (navigator conv {}).probe (Journaled.mk host journal).state = host.files.probe from rfl,
    host.files.probeAll_eq] at hrun
  exact ⟨_, hrun⟩

theorem firstExisting_gives (candidates : List Path) :
    Gives ((navigator conv {}).firstExisting candidates) host
      (.ok (candidates.find? host.files.holds)) host := by
  rw [Navigator.firstExisting]
  refine .bind (probeAll_gives candidates) ?_
  rw [host.files.firstFound?_map_answer]
  exact .bind (.note _) (.pure _)

theorem focus_gives {host : LocalHost} {path real : Path} {text : Text}
    (hread : host.files.readText path = .ok text) (hreal : host.files.resolve path = .ok real) :
    Gives (focus path 0) host (.ok ⟨forwardSlashes real.text, text, 0⟩)
      { host with active := some ⟨forwardSlashes real.text, text, 0⟩ } := by
  have hclamp : clampOffset text 0 = 0 := by simp [clampOffset]
  refine .bind .state ?_
  rw [hread]
  refine .bind .state ?_
  rw [hreal, hclamp]
  exact .bind (.update _) (.pure _)

theorem openDocument_gives (path : Path) : Gives ((navigator conv {}).host.openDocument path) host
    (host.loaded path)
    (match host.loaded path with
      | .ok doc => { host with active := some doc }
      | .error _ => host) := by
  have hstart : Gives (Act.note [.documentOpening path.text]) host (.ok ()) host := .note _
  refine .bind hstart (.bind .state ?_)
  rw [loaded]
  cases host.files.readText path with
  | error e => exact .bind (.note _) (.throw e)
  | ok text =>
    refine .bind .state ?_
    cases host.files.resolve path with
    | error e => exact .throw e
    | ok real => exact .bind (.update _) (.pure _)

theorem reveal_clamps {doc : Document} (hactive : host.active = some doc)
    (hslash : forwardSlashes doc.path = doc.path) (offset : Int) :
    Gives (reveal doc.path offset) host (.ok ())
      { host with active := some { doc with cursor := (clampOffset doc.text offset : Int) } } := by
  refine .bind .state ?_
  rw [hactive]
  dsimp only
  rw [if_pos hslash.symm]
  exact .bind (.update _) (.note _)

theorem reveal_gives {doc : Document} (hactive : host.active = some doc)
    (hslash : forwardSlashes doc.path = doc.path) {offset : Nat} (hle : offset ≤ doc.text.length) :
    Gives ((navigator conv {}).host.reveal doc.path offset) host (.ok ())
      { host with active := some { doc with cursor := (offset : Int) } } := by
  have hreveal := reveal_clamps hactive hslash offset
  rwa [clampOffset_natCast hle] at hreveal

theorem showMessage_gives (outcome : Outcome) :
    Gives ((navigator conv {}).host.showMessage outcome.level outcome.message) host (.ok ())
      (host.shown outcome) := by
  have hkeep : Gives (Act.update fun h : LocalHost =>
      { h with messages := h.messages ++ [(outcome.level, outcome.message)] }) host (.ok ())
      { host with messages := host.messages ++ [(outcome.level, outcome.message)] } := .update _
  refine .bind hkeep (.bind .state ?_)
  rw [shown]
  obtain ⟨files, folders, active, messages, console, display⟩ := host
  cases console with
  | none => exact .pure ()
  | some text =>
    obtain ⟨line, hline⟩ := (messageStyle outcome.level).exists_line display outcome.message
    dsimp only
    rw [hline]
    exact .update _

theorem lookup_gives (doc : Document) (root : Path) :
    Gives ((navigator conv {}).lookup doc root) host
      ((Lookup.find conv doc root).mapError Failure.navigation) host := by
  rw [Navigator.lookup]
  refine .bind (.note _) ?_
  rw [show (navigator conv {}).conventions = conv from rfl]
  cases Lookup.find conv doc root with
  | error e => exact .throw _
  | ok found => exact .pure found

theorem loaded_path {path : Path} {doc : Document} (h : host.loaded path = .ok doc) :
    forwardSlashes doc.path = doc.path := by
  obtain ⟨text, real, -, -, rfl⟩ := loaded_ok h
  exact forwardSlashes_forwardSlashes _

/-- Opening a controller puts the cursor on the action if it is there. -/
theorem jumpTo_gives {doc : Document} {found : Lookup} (hactive : host.active = some doc)
    (hslash : forwardSlashes doc.path = doc.path) (hkind : found.kind ≠ .controller) :
    Gives ((navigator conv {}).jumpTo doc found.action) host (.ok (arrival conv found doc).1)
      { host with active := some (arrival conv found doc).2 } := by
  have harrival : arrival conv found doc =
      match methodOffset? conv doc.text found.action with
      | none => (.ofDocument .partly ("Opened controller (action " ++ found.action ++
          " not found)") doc found.action, doc)
      | some offset =>
        (.ofDocument .opened ("Jumped to action: " ++ found.action)
          { doc with cursor := (offset : Int) } found.action,
            { doc with cursor := (offset : Int) }) := by
    rw [arrival]
    split
    · next h => exact absurd h hkind
    · split <;> rfl
  rw [Navigator.jumpTo, harrival, show (navigator conv {}).conventions = conv from rfl]
  refine .bind (.note _) ?_
  cases ho : methodOffset? conv doc.text found.action with
  | none =>
    dsimp only
    rw [← hactive]
    exact .pure _
  | some offset => exact .bind (reveal_gives hactive hslash (methodOffset?_le ho)) (.pure _)

theorem start_gives (doc : Document) : Gives (Navigator.start doc) host
    (if doc.isSpelled = true then .ok () else .error .longNumeral) host := by
  rw [Navigator.start]
  split
  · exact .note _
  · exact .throw _

theorem attempt_gives : Gives (navigator conv {}).attempt host
    ((host.attempted conv).map Prod.fst)
    (match host.attempted conv with
      | .ok (_, doc) => { host with active := some doc }
      | .error _ => host) := by
  have hfocused := @focused_gives conv host
  rw [attempted, started]
  cases hf : host.focused with
  | error e =>
    rw [hf] at hfocused
    exact .bind_error _ hfocused
  | ok place =>
    obtain ⟨doc, root⟩ := place
    rw [hf] at hfocused
    refine .bind hfocused ?_
    have hstart := @start_gives host doc
    dsimp only
    by_cases hs : doc.isSpelled = true
    case neg =>
      rw [if_neg hs] at hstart ⊢
      exact .bind_error _ hstart
    rw [if_pos hs] at hstart ⊢
    refine .bind hstart ?_
    have hlookup := @lookup_gives conv host doc root
    cases hl : Lookup.find conv doc root with
    | error e =>
      rw [hl] at hlookup
      exact .bind_error _ hlookup
    | ok found =>
      rw [hl] at hlookup
      refine .bind hlookup (.bind (firstExisting_gives found.candidates) ?_)
      dsimp only [Except.mapError]
      cases found.candidates.find? host.files.holds with
      | none => exact .throw _
      | some path =>
        have hopen := @openDocument_gives conv host path
        dsimp only
        cases ho : host.loaded path with
        | error e =>
          rw [ho] at hopen
          exact .bind_error _ hopen
        | ok opened =>
          rw [ho] at hopen
          refine .bind hopen ?_
          dsimp only [Except.map]
          split
          · next hkind =>
            rw [arrival, hkind]
            exact .pure _
          · next hkind => exact jumpTo_gives rfl (loaded_path ho) hkind

theorem readText_error {tree : FileTree} {path : Path} {e : Failure}
    (h : tree.readText path = .error e) :
    e.IsHandled ∧ (Navigator.outcomeOf e).errorKind = none := by
  rw [FileTree.readText] at h
  split at h
  · exact Except.error.inj h ▸ ⟨⟨_, rfl⟩, rfl⟩
  split at h
  · exact Except.error.inj h ▸ ⟨⟨_, rfl⟩, rfl⟩
  · cases h

theorem resolve_error {tree : FileTree} {path : Path} {e : Failure}
    (h : tree.resolve path = .error e) :
    e.IsHandled ∧ (Navigator.outcomeOf e).errorKind = none := by
  rw [FileTree.resolve] at h
  split at h
  · exact Except.error.inj h ▸ ⟨⟨_, rfl⟩, rfl⟩
  · cases h

/-- A file that cannot be opened is no error of a kind. -/
theorem loaded_error {path : Path} {e : Failure} (h : host.loaded path = .error e) :
    e.IsHandled ∧ (Navigator.outcomeOf e).errorKind = none := by
  rw [loaded] at h
  split at h
  · next he => exact Except.error.inj h ▸ readText_error he
  split at h
  · next he => exact Except.error.inj h ▸ resolve_error he
  · cases h

/-- Nothing calls a navigation off but a fault of the host. -/
theorem attempted_error {e : Failure} (h : host.attempted conv = .error e) : e.IsHandled := by
  rw [attempted] at h
  split at h
  · next he => exact Except.error.inj h ▸ started_error he
  split at h
  · next found _ _ _ =>
    obtain rfl := Except.error.inj h
    exact Failure.isHandled_navigation (Navigator.notFound_kind found)
  · next path _ =>
    cases ho : host.loaded path with
    | ok doc =>
      rw [ho] at h
      cases h
    | error e' =>
      rw [ho] at h
      exact Except.error.inj h ▸ (loaded_error ho).1

theorem toggle_gives : Gives (navigator conv {}).toggle host (.ok (host.toggled conv).1)
    (host.toggled conv).2 := by
  have hattempt := @attempt_gives conv host
  rw [toggled]
  cases h : host.attempted conv with
  | ok arrived =>
    obtain ⟨outcome, doc⟩ := arrived
    rw [h] at hattempt
    refine .bind (.tryCatch_ok _ hattempt) ?_
    exact .bind (showMessage_gives outcome) (.bind (.note _) (.pure outcome))
  | error e =>
    rw [h] at hattempt
    have hnavigate : Gives (navigator conv {}).navigate host (.ok (Navigator.outcomeOf e))
        host := by
      obtain ⟨event, hevent⟩ := attempted_error h
      refine .tryCatch_error hattempt ?_
      rw [hevent]
      exact .bind (.note _) (.pure _)
    refine .bind hnavigate ?_
    exact .bind (showMessage_gives _) (.bind (.note _) (.pure _))

/-- A toggle never fails, and what it comes to does not depend on the journal. -/
theorem step_toggle (w : Journaled LocalHost) : ∃ journal,
    Session.step (navigator conv {}) w .toggle =
      (.ok (.outcome (w.state.toggled conv).1), ⟨(w.state.toggled conv).2, journal⟩) := by
  have hstep : Gives (Session.perform (navigator conv {}) .toggle) w.state
      (.ok (.outcome (w.state.toggled conv).1)) (w.state.toggled conv).2 :=
    .bind toggle_gives (.pure _)
  exact hstep w.journal

def toggles (conv : Conventions) (host : LocalHost) : Nat → List Outcome
  | 0 => []
  | n + 1 => (host.toggled conv).1 :: toggles conv (host.toggled conv).2 n

/-- A session of toggles comes to their outcomes. -/
theorem run_toggles (n : Nat) (w : Journaled LocalHost) :
    (Session.run (navigator conv {}) w (List.replicate n .toggle)).map Prod.fst =
      (toggles conv w.state n).map fun o => .ok (.outcome o) := by
  induction n generalizing w with
  | zero => rfl
  | succ n ih =>
    obtain ⟨journal, hstep⟩ := @step_toggle conv w
    rw [List.replicate_succ, Session.run, hstep]
    exact congrArg (_ :: ·) (ih _)

end LocalHost

end Counterpart
