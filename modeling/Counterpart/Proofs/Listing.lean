import Counterpart.Proofs.FixedPaths
import Counterpart.Proofs.LocalNavigation
import Counterpart.Proofs.OneMessage
import Counterpart.Proofs.Sessions

/-! Listing the candidates and toggling agree: they stop for the same reasons, and a toggle opens
the candidate that a listing shows to exist first, unless it is no text file. -/

namespace Counterpart

/-! ### Errors -/

theorem ErrorKind.mem_iff_ne_notFound {kind : ErrorKind} :
    kind ∈ [ErrorKind.environment, .classification, .pattern, .heuristicMiss] ↔
      kind ≠ .notFound := by
  cases kind <;> decide

namespace LocalHost

open Act

variable {conv : Conventions} {host : LocalHost}

theorem sought_error {e : NavigationError} (h : host.sought conv = .error e) :
    ∃ kind, e.kind = some kind ∧ kind ≠ .notFound := by
  rw [sought] at h
  split at h
  · next e' he => exact Except.error.inj h ▸ focused_error he
  · exact Lookup.find_error h

theorem report_gives : Gives (navigator conv {}).report host
    (match host.sought conv with
      | .error e => .error (.navigation e)
      | .ok found =>
        .ok (CandidateReport.ofResults (found.candidates.map host.files.answer))) host := by
  have hfocused := @focused_gives conv host
  rw [sought]
  cases hf : host.focused with
  | error e =>
    rw [hf] at hfocused
    exact .bind_error _ hfocused
  | ok place =>
    obtain ⟨doc, root⟩ := place
    rw [hf] at hfocused
    refine .bind hfocused ?_
    have hlookup := @lookup_gives conv host doc root
    dsimp only
    cases hl : Lookup.find conv doc root with
    | error e =>
      rw [hl] at hlookup
      exact .bind_error _ hlookup
    | ok found =>
      rw [hl] at hlookup
      exact .bind hlookup (.bind (probeAll_gives found.candidates) (.pure _))

theorem step_candidates (w : Journaled LocalHost) :
    (Session.step (navigator conv {}) w .candidates).1 =
      match w.state.sought conv with
      | .error e => .error (.navigation e)
      | .ok found => .ok (.reports
          (CandidateReport.ofResults (found.candidates.map w.state.files.answer))) := by
  have hreport := @report_gives conv w.state
  cases hs : w.state.sought conv with
  | error e =>
    rw [hs] at hreport
    obtain ⟨journal, hrun⟩ := hreport w.journal
    exact congrArg Prod.fst (run_bind_of_error _ hrun)
  | ok found =>
    rw [hs] at hreport
    obtain ⟨journal, hrun⟩ := hreport w.journal
    exact congrArg Prod.fst (run_bind_of_ok _ hrun)

theorem arrival_outcome (found : Lookup) (doc : Document) :
    ((arrival conv found doc).1.status = .opened ∨ (arrival conv found doc).1.status = .partly) ∧
      (arrival conv found doc).1.targetPath = some doc.path := by
  rw [arrival]
  split
  · exact ⟨.inl rfl, rfl⟩
  · split
    · exact ⟨.inr rfl, rfl⟩
    · exact ⟨.inl rfl, rfl⟩

theorem toggled_of_error {e : Failure} (h : host.attempted conv = .error e) :
    (host.toggled conv).1 = Navigator.outcomeOf e := by
  rw [toggled, h]

theorem toggled_of_ok {arrived : Outcome × Document} (h : host.attempted conv = .ok arrived) :
    (host.toggled conv).1 = arrived.1 := by
  rw [toggled, h]

theorem attempted_of_sought_error {e : NavigationError} (h : host.sought conv = .error e)
    (hd : ∀ doc, host.active = some doc → doc.isSpelled = true) :
    host.attempted conv = .error (.navigation e) := by
  rw [attempted, started_eq hd, h]
  rfl

/-- A document in a workspace whose cursor cannot be written makes every toggle fail. -/
theorem toggled_of_unspelled {doc : Document} {root : Path} (h : host.focused = .ok (doc, root))
    (hd : doc.isSpelled = false) :
    (host.toggled conv).1 = Navigator.outcomeOf .longNumeral := by
  refine toggled_of_error ?_
  rw [attempted, started, h]
  dsimp only
  rw [if_neg (by simp [hd])]

theorem loaded_of_unreadable {path : Path} (h : host.files.Unreadable path) :
    ∃ e, host.loaded path = .error e := by
  obtain ⟨e, he⟩ := FileTree.readText_of_unreadable h
  exact ⟨e, by rw [loaded, he]⟩

/-- A candidate that exists is opened if it is a text file, at its real path. -/
theorem exists_loaded {path : Path} (hp : path.anchor ≠ .relative)
    (hh : host.files.holds path = true) (h : ¬ host.files.Unreadable path) :
    ∃ doc real, host.loaded path = .ok doc ∧ host.files.resolve path = .ok real ∧
      doc.path = forwardSlashes real.text := by
  obtain ⟨entry, hentry⟩ := FileTree.holds_iff.1 hh
  obtain ⟨⟨real, hreal⟩, hlink⟩ := FileTree.exists_resolve_of_find hp hentry
  obtain ⟨text, htext⟩ := FileTree.exists_readText hentry hlink h
  exact ⟨_, real, by rw [loaded, htext]; dsimp only; rw [hreal], hreal, rfl⟩

/-- Where there are candidates to look for, a toggle fails because none exists or because the first
that does cannot be opened. -/
theorem errorKind_of_started {found : Lookup} (hs : host.started conv = .ok found)
    (hfailed : (host.toggled conv).1.status = .failed) :
    (host.toggled conv).1.errorKind = none ∨
      (host.toggled conv).1.errorKind = some .notFound := by
  cases hf : found.candidates.find? host.files.holds with
  | none =>
    rw [toggled_of_error (attempted_of_none hs hf)]
    exact .inr (Navigator.notFound_kind found)
  | some path =>
    have hattempted := attempted_of_some hs hf
    cases hl : host.loaded path with
    | error e =>
      rw [hl] at hattempted
      rw [toggled_of_error hattempted]
      exact .inl (loaded_error hl).2
    | ok doc =>
      rw [hl] at hattempted
      rw [toggled_of_ok hattempted] at hfailed
      rcases (@arrival_outcome conv found doc).1 with hstatus | hstatus
      · cases hstatus.symm.trans hfailed
      · cases hstatus.symm.trans hfailed

/-- What a toggle comes to where a candidate exists. -/
theorem toggled_of_some {found : Lookup} {path : Path} (hs : host.started conv = .ok found)
    (hf : found.candidates.find? host.files.holds = some path) (hp : path.anchor ≠ .relative) :
    (((host.toggled conv).1.status = .opened ∨ (host.toggled conv).1.status = .partly) ∧
        (∃ real, host.files.resolve path = .ok real ∧
          (host.toggled conv).1.targetPath = some (forwardSlashes real.text)) ∨
      (host.toggled conv).1.status = .failed ∧ (host.toggled conv).1.errorKind = none) ∧
    ((host.toggled conv).1.status = .failed ∧ (host.toggled conv).1.errorKind = none ↔
      host.files.Unreadable path) := by
  have hattempted := attempted_of_some hs hf
  by_cases hu : host.files.Unreadable path
  · obtain ⟨e, he⟩ := loaded_of_unreadable hu
    rw [he] at hattempted
    have hfailed : (host.toggled conv).1.status = .failed ∧
        (host.toggled conv).1.errorKind = none := by
      rw [toggled_of_error hattempted]
      exact ⟨Navigator.outcomeOf_status e, (loaded_error he).2⟩
    exact ⟨.inr hfailed, iff_of_true hfailed hu⟩
  · obtain ⟨doc, real, hdoc, hreal, hpath⟩ := exists_loaded hp (List.find?_some hf) hu
    rw [hdoc] at hattempted
    obtain ⟨hstatus, htarget⟩ := @arrival_outcome conv found doc
    rw [toggled_of_ok hattempted]
    refine ⟨.inl ⟨hstatus, real, hreal, hpath ▸ htarget⟩, iff_of_false (fun hfailed => ?_) hu⟩
    rcases hstatus with hstatus | hstatus
    · exact absurd (hstatus.symm.trans hfailed.1) (by decide)
    · exact absurd (hstatus.symm.trans hfailed.1) (by decide)

end LocalHost

/-! ### Folders -/

theorem isAnchored_of_resolve {tree : FileTree} {path real : Path}
    (h : tree.resolve path = .ok real) : isAnchored (forwardSlashes real.text) = true := by
  have hroot : real.anchor = .root := by
    rw [FileTree.resolve] at h
    split at h
    · cases h
    · exact Except.ok.inj h ▸ rfl
  obtain ⟨anchor, segments⟩ := real
  obtain rfl := hroot
  rfl

theorem LocalHost.isAnchored_of_create {display : Display} {files : FileTree}
    {folders : List Path} {withConsole : Bool} {host : LocalHost}
    (h : LocalHost.create display files folders withConsole = .ok host) :
    ∀ f ∈ host.folders, isAnchored f = true := by
  rw [LocalHost.create] at h
  cases hr : folders.mapM files.resolve with
  | error e =>
    rw [hr] at h
    cases h
  | ok real =>
    rw [hr] at h
    obtain rfl := Except.ok.inj h
    intro f hf
    obtain ⟨p, hp, rfl⟩ := List.mem_map.1 hf
    obtain ⟨folder, -, hresolve⟩ := mem_of_mapM_ok hr p hp
    exact isAnchored_of_resolve hresolve

namespace Visited

variable {w : Journaled LocalHost} {conv : Conventions}

theorem anchored_folders (hw : Visited w) : ∀ f ∈ w.state.folders, isAnchored f = true := by
  induction hw with
  | create h => exact LocalHost.isAnchored_of_create h
  | @step w _ conv faults s ih =>
    exact @LocalHost.perform_keeps_folders (∀ f ∈ ·, isAnchored f = true) conv faults s w ih
  | change _ files ih => exact ih

theorem isFixed_candidates (hw : Visited w) {found : Lookup}
    (hs : w.state.sought conv = .ok found) : ∀ p ∈ found.candidates, p.IsFixed := by
  obtain ⟨doc, root, hfocused, hfind⟩ := LocalHost.sought_ok hs
  obtain ⟨-, text, hinner, rfl⟩ := LocalHost.focused_ok hfocused
  have hmem := (List.mem_filter.1 (longest?_mem hinner)).1
  have hroot : (Path.ofText text).IsFixed :=
    ⟨Path.anchor_ofText (hw.anchored_folders text hmem), Path.isRead_ofText text⟩
  exact candidates_of_hDiv (fun p s hp => hp.hDiv s) hroot hfind

end Visited

/-! ### Reports -/

namespace CandidateReport

variable {tree : FileTree} {candidates : List Path}

theorem map_precedence_ofResults (results : List ProbeResult) :
    (ofResults results).map precedence =
      (List.range results.length).map fun (i : Nat) => (i : Int) := by
  refine List.ext_getElem (by simp [ofResults]) fun i _ _ => ?_
  simp [ofResults]

theorem map_path_ofResults (results : List ProbeResult) :
    (ofResults results).map path = results.map fun r => r.path.text := by
  refine List.ext_getElem (by simp [ofResults]) fun i _ _ => ?_
  simp [ofResults]

theorem map_ofResults_answer :
    (ofResults (candidates.map tree.answer)).map (fun r => (r.path, r.status)) =
      candidates.map fun p => (p.text, (tree.answer p).status) := by
  refine List.ext_getElem (by simp [ofResults]) fun i _ _ => ?_
  simp [ofResults, FileTree.answer_path]

/-- The report that shows a candidate to exist first stands for the candidate that holds first. -/
theorem find?_holds_of_split {before after : List CandidateReport} {r : CandidateReport}
    (h : ofResults (candidates.map tree.answer) = before ++ r :: after) (hr : r.status = .present)
    (hb : ∀ other ∈ before, other.status ≠ .present) :
    ∃ p, candidates.find? tree.holds = some p ∧ r.path = p.text := by
  have hmap := @map_ofResults_answer tree candidates
  rw [h, List.map_append, List.map_cons] at hmap
  obtain ⟨passed, rest, hsplit, hpassed, hrest⟩ := List.map_eq_append_iff.1 hmap.symm
  obtain ⟨p, later, rfl, hp, -⟩ := List.map_eq_cons_iff.1 hrest
  obtain ⟨htext, hstatus⟩ := Prod.mk.inj hp
  refine ⟨p, List.find?_eq_some_iff_append.2 ⟨?_, passed, later, hsplit, fun other ho => ?_⟩,
    htext.symm⟩
  · rw [← FileTree.answer_status, hstatus, hr]
  · have hmem : (other.text, (tree.answer other).status) ∈
        before.map fun r => (r.path, r.status) := by
      rw [← hpassed]
      exact List.mem_map_of_mem ho
    obtain ⟨r', hr', he⟩ := List.mem_map.1 hmem
    have hmissing := hb r' hr'
    rw [(Prod.mk.inj he).2] at hmissing
    rw [Bool.not_eq_true', ← Bool.not_eq_true, ← FileTree.answer_status]
    exact hmissing

theorem find?_holds_of_missing
    (h : ∀ r ∈ ofResults (candidates.map tree.answer), r.status ≠ .present) :
    candidates.find? tree.holds = none := by
  refine List.find?_eq_none.2 fun p hp hholds => ?_
  have hmem : (p.text, (tree.answer p).status) ∈
      (ofResults (candidates.map tree.answer)).map fun r => (r.path, r.status) := by
    rw [map_ofResults_answer]
    exact List.mem_map_of_mem hp
  obtain ⟨r, hr, he⟩ := List.mem_map.1 hmem
  apply h r hr
  rw [(Prod.mk.inj he).2, FileTree.answer_status, hholds]

end CandidateReport

/-- Listing and toggling agree as long as the cursor can be written. -/
theorem Visited.listing_agrees {w : Journaled LocalHost} (hw : Visited w)
    (hc : ∀ doc, w.state.active = some doc → doc.isSpelled = true) (conv : Conventions) :
    ∃ outcome, (Session.step (LocalHost.navigator conv {}) w .toggle).1 = .ok (.outcome outcome) ∧
      (∀ kind message,
        (∃ e, (Session.step (LocalHost.navigator conv {}) w .candidates).1 =
            .error (.navigation e) ∧ e.kind = some kind ∧ e.message = message) ↔
          outcome.status = .failed ∧ outcome.errorKind = some kind ∧ outcome.message = message ∧
            kind ∈ [ErrorKind.environment, .classification, .pattern, .heuristicMiss]) ∧
      ((∃ e kind, (Session.step (LocalHost.navigator conv {}) w .candidates).1 =
          .error (.navigation e) ∧ e.kind = some kind) ∨
        ∃ doc root found reports,
          ((LocalHost.navigator conv {}).focused.run.run w).1 = .ok (doc, root) ∧
          Lookup.find conv doc root = .ok found ∧
          (Session.step (LocalHost.navigator conv {}) w .candidates).1 = .ok (.reports reports) ∧
          reports.map CandidateReport.path = found.candidates.map Path.text ∧
          reports.map CandidateReport.precedence =
            (List.range found.candidates.length).map (fun (i : Nat) => (i : Int)) ∧
          ((∀ r ∈ reports, r.status ≠ .present) →
            outcome.status = .failed ∧ outcome.errorKind = some .notFound) ∧
          ∀ before r after, reports = before ++ r :: after → r.status = .present →
            (∀ other ∈ before, other.status ≠ .present) →
            ((outcome.status = .opened ∨ outcome.status = .partly) ∧
                (∃ real, w.state.files.resolve (.ofText r.path) = .ok real ∧
                  outcome.targetPath = some (forwardSlashes real.text)) ∨
              outcome.status = .failed ∧ outcome.errorKind = none) ∧
            (outcome.status = .failed ∧ outcome.errorKind = none ↔
              w.state.files.find (.ofText r.path) = .ok .directory ∨
                (∃ fault, w.state.files.find (.ofText r.path) = .ok (.sealed fault)) ∨
                ∃ content, w.state.files.find (.ofText r.path) = .ok (.file content) ∧
                  ∀ text, content ≠ encode text)) := by
  obtain ⟨journal, hstep⟩ := @LocalHost.step_toggle conv w
  have hlist := @LocalHost.step_candidates conv w
  refine ⟨(w.state.toggled conv).1, by rw [hstep], ?_⟩
  cases hs : w.state.sought conv with
  | error e =>
    obtain ⟨kind, hkind, hne⟩ := LocalHost.sought_error hs
    rw [hs] at hlist
    rw [hlist, LocalHost.toggled_of_error (LocalHost.attempted_of_sought_error hs hc)]
    refine ⟨fun kind' message => ⟨?_, ?_⟩, .inl ⟨e, kind, rfl, hkind⟩⟩
    · rintro ⟨e', he, hk, rfl⟩
      obtain rfl := Failure.navigation.inj (Except.error.inj he)
      obtain rfl := Option.some.inj (hkind.symm.trans hk)
      exact ⟨rfl, hkind, rfl, ErrorKind.mem_iff_ne_notFound.2 hne⟩
    · rintro ⟨-, hk, hm, -⟩
      exact ⟨e, rfl, hk, hm⟩
  | ok found =>
    rw [hs] at hlist
    have hstarted := LocalHost.started_of_sought hs hc
    obtain ⟨doc, root, hfocused, hfind⟩ := LocalHost.sought_ok hs
    have hrun := @LocalHost.focused_gives conv w.state
    rw [hfocused] at hrun
    obtain ⟨journal', hrun⟩ := hrun w.journal
    rw [hlist]
    refine ⟨fun kind message => iff_of_false (fun ⟨e, he, _⟩ => by cases he) ?_,
      .inr ⟨doc, root, found, _, congrArg Prod.fst hrun, hfind, rfl, ?_, ?_, ?_, ?_⟩⟩
    · rintro ⟨hfailed, hkind, -, hmem⟩
      rcases LocalHost.errorKind_of_started hstarted hfailed with hnone | hnone
      · cases hkind.symm.trans hnone
      · exact ErrorKind.mem_iff_ne_notFound.1 hmem (Option.some.inj (hkind.symm.trans hnone))
    · rw [CandidateReport.map_path_ofResults, List.map_map]
      exact List.map_congr_left fun p _ => congrArg Path.text (w.state.files.answer_path p)
    · rw [CandidateReport.map_precedence_ofResults, List.length_map]
    · intro hmissing
      have hnone := CandidateReport.find?_holds_of_missing hmissing
      rw [LocalHost.toggled_of_error (LocalHost.attempted_of_none hstarted hnone)]
      exact ⟨rfl, Navigator.notFound_kind found⟩
    · intro before r after hsplit hr hb
      obtain ⟨p, hp, htext⟩ := CandidateReport.find?_holds_of_split hsplit hr hb
      obtain ⟨hanchor, hread⟩ := hw.isFixed_candidates hs p (List.mem_of_find?_eq_some hp)
      rw [htext, hread.ofText_text]
      exact LocalHost.toggled_of_some hstarted hp hanchor

/-- A workspace with a view whose controller is a link to something. -/
def photos (controller : Entry) : FileTree where
  entries := [
    (["ws"], .directory),
    (["ws", "app"], .directory),
    (["ws", "app", "controllers"], .directory),
    (["ws", "app", "controllers", "photos_controller.rb"], .link "../../shared.rb"),
    (["ws", "shared.rb"], controller),
    (["ws", "app", "views"], .directory),
    (["ws", "app", "views", "photos"], .directory),
    (["ws", "app", "views", "photos", "show.html.erb"], .file [])]
  workingDirectory := []

/-- A host over that workspace with the view in focus. -/
def photosHost (controller : Entry) (cursor : Int) : LocalHost where
  files := photos controller
  folders := ["/ws"]
  active := some ⟨"/ws/app/views/photos/show.html.erb", [], cursor⟩
  messages := []
  console := none

def photosController : Path := .ofText "/ws/app/controllers/photos_controller.rb"

def photosView : Path := ⟨.root, ["ws", "app", "views", "photos", "show.html.erb"]⟩

/-- The session that leads to such a host. -/
theorem photosHost_visited {controller : Entry}
    (h : (photos controller).resolve photosView = .ok photosView) (cursor : Int) :
    ∃ journal, Visited ⟨photosHost controller cursor, journal⟩ := by
  have hcreate : LocalHost.create {} (photos controller) [⟨.root, ["ws"]⟩] false =
      .ok { photosHost controller 0 with active := none } := by
    rw [LocalHost.create]
    rfl
  have hread : (photos controller).readText photosView = .ok [] := rfl
  obtain ⟨journal, hfocus⟩ := @LocalHost.focus_gives
    { photosHost controller 0 with active := none } _ _ _ hread h [.hostReady ["/ws"]]
  have hstep := (Visited.create hcreate).step .standard {} (.focus photosView 0 none)
  have hfocused : Visited ⟨photosHost controller 0, journal⟩ := by
    have hrun : Session.step (LocalHost.navigator .standard {})
        (LocalHost.journaled { photosHost controller 0 with active := none })
        (.focus photosView 0 none) = (.ok (.document _), ⟨photosHost controller 0, journal⟩) :=
      Act.run_bind_of_ok _ hfocus
    rwa [hrun] at hstep
  exact ⟨journal, hfocused.step .standard {} (.setCursor cursor)⟩

theorem photosHost_focused (controller : Entry) (cursor : Int) :
    (photosHost controller cursor).focused =
      .ok (⟨"/ws/app/views/photos/show.html.erb", [], cursor⟩, ⟨.root, ["ws"]⟩) := rfl

theorem photosHost_sought (controller : Entry) (cursor : Int) :
    (photosHost controller cursor).sought .standard =
      .ok (.ofTarget .standard ⟨.root, ["ws"]⟩ "photos" "show") := rfl

/-- The controller is listed as the only candidate, wherever the cursor is. -/
theorem photosHost_candidates {controller : Entry}
    (h : (photos controller).answer photosController = ⟨photosController, .present, none⟩)
    (cursor : Int) (journal : List Event) :
    (Session.step (LocalHost.navigator .standard {}) ⟨photosHost controller cursor, journal⟩
      .candidates).1 = .ok (.reports [⟨0, photosController.text, .present, none⟩]) := by
  rw [LocalHost.step_candidates, photosHost_sought]
  have hcandidates : (Lookup.ofTarget .standard ⟨.root, ["ws"]⟩ "photos" "show").candidates =
      [photosController] := rfl
  dsimp only
  rw [hcandidates, List.map_singleton, show (photosHost controller cursor).files = photos controller
    from rfl, h]
  rfl

theorem photosHost_listing : ∃ w, Visited w ∧
    (∀ doc, w.state.active = some doc → doc.isSpelled = true) ∧
    ∃ outcome, (Session.step (LocalHost.navigator .standard {}) w .toggle).1 =
      .ok (.outcome outcome) ∧ outcome.status = .failed ∧ outcome.errorKind = none := by
  obtain ⟨journal, hvisited⟩ := @photosHost_visited (.file [0xFF]) (by decide +kernel) 0
  have hspelled : ∀ doc, (photosHost (.file [0xFF]) 0).active = some doc →
      doc.isSpelled = true := by
    rintro doc hdoc
    obtain rfl := Option.some.inj hdoc
    rfl
  have hstep := @photosHost_candidates (.file [0xFF]) (by decide +kernel) 0 journal
  have hfind : (photos (.file [0xFF])).find (.ofText photosController.text) =
      .ok (.file [0xFF]) := by
    decide +kernel
  have hbroken : ∀ text, [0xFF] ≠ encode text := by
    intro text hencode
    cases decode_eq_ok_iff.2 hencode
  obtain ⟨outcome, htoggle, -, hagree⟩ := hvisited.listing_agrees hspelled .standard
  rw [hstep] at hagree
  obtain ⟨e, kind, he, -⟩ | ⟨doc, root, found, listed, -, -, hlist, -, -, -, hfirst⟩ := hagree
  · cases he
  obtain rfl := StepResult.reports.inj (Except.ok.inj hlist)
  obtain ⟨-, hfailed⟩ := hfirst [] _ [] rfl rfl (by simp)
  obtain ⟨hstatus, hkind⟩ := hfailed.2 (.inr (.inr ⟨_, hfind, hbroken⟩))
  exact ⟨_, hvisited, hspelled, outcome, htoggle, hstatus, hkind⟩

/-- A controller that exists and is neither a directory nor made of bytes that are no UTF-8 is not
opened when it gives no bytes, and not even when it is a text, if the cursor cannot be written. -/
theorem photos_unopened :
    (∃ w, Visited w ∧
      (Session.step (LocalHost.navigator .standard {}) w .candidates).1 =
        .ok (.reports [⟨0, photosController.text, .present, none⟩]) ∧
      w.state.files.find photosController = .ok (.sealed .broken) ∧
      ∃ outcome, (Session.step (LocalHost.navigator .standard {}) w .toggle).1 =
        .ok (.outcome outcome) ∧ outcome.status = .failed ∧ outcome.errorKind = none) ∧
    ∃ w, Visited w ∧
      (Session.step (LocalHost.navigator .standard {}) w .candidates).1 =
        .ok (.reports [⟨0, photosController.text, .present, none⟩]) ∧
      w.state.files.find photosController = .ok (.file (encode "def show\nend\n")) ∧
      ∃ outcome, (Session.step (LocalHost.navigator .standard {}) w .toggle).1 =
        .ok (.outcome outcome) ∧ outcome.status = .failed ∧ outcome.errorKind = none := by
  constructor
  · obtain ⟨journal, hvisited⟩ := @photosHost_visited (.sealed .broken) (by decide +kernel) 0
    have hstep := @photosHost_candidates (.sealed .broken) (by decide +kernel) 0 journal
    have hfind : (photos (.sealed .broken)).find photosController = .ok (.sealed .broken) := by
      decide +kernel
    obtain ⟨_, htoggle⟩ :=
      @LocalHost.step_toggle .standard ⟨photosHost (.sealed .broken) 0, journal⟩
    have houtcome : ((photosHost (.sealed .broken) 0).toggled .standard).1 =
        Navigator.outcomeOf (.file ⟨.unread .broken, photosController, none⟩) := by
      decide +kernel
    exact ⟨_, hvisited, hstep, hfind, _, congrArg Prod.fst htoggle,
      by rw [houtcome]; rfl, by rw [houtcome]; rfl⟩
  · obtain ⟨journal, hvisited⟩ :=
      @photosHost_visited (.file (encode "def show\nend\n")) (by decide +kernel)
        (10 ^ Text.numeralLimit : Nat)
    have hstep := @photosHost_candidates (.file (encode "def show\nend\n"))
      (by decide +kernel) (10 ^ Text.numeralLimit : Nat) journal
    have hfind : (photos (.file (encode "def show\nend\n"))).find photosController =
        .ok (.file (encode "def show\nend\n")) := by
      decide +kernel
    obtain ⟨_, htoggle⟩ := @LocalHost.step_toggle .standard ⟨photosHost
      (.file (encode "def show\nend\n")) (10 ^ Text.numeralLimit : Nat), journal⟩
    have houtcome := @LocalHost.toggled_of_unspelled .standard _ _ _
      (photosHost_focused (.file (encode "def show\nend\n")) (10 ^ Text.numeralLimit : Nat))
      (Document.isSpelled_of_far "/ws/app/views/photos/show.html.erb"
        Text.numeralLimit_lt_length_ofNat)
    exact ⟨_, hvisited, hstep, hfind, _, congrArg Prod.fst htoggle,
      by rw [houtcome]; rfl, by rw [houtcome]; rfl⟩

end Counterpart
