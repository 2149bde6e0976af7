import Counterpart.Proofs.LocalNavigation
import Counterpart.Proofs.OneMessage
import Counterpart.Proofs.Sessions

/-! A failure at a local host leaves its focus as it was. A navigation changes nothing before the
counterpart is opened, and nothing can fail after that. -/

namespace Counterpart

open Act

namespace Navigator

variable {σ : Type} {nav : Navigator σ} {w w' : Journaled σ} {outcome : Outcome}

theorem attempt_status (h : nav.attempt.run.run w = (.ok outcome, w')) :
    outcome.status ≠ .failed := by
  obtain ⟨editor, roots, opens, reveals, result, s, hway, journal, hasks⟩ := nav.exists_attempts w
  obtain rfl := (Prod.mk.inj (hasks.plain.symm.trans h)).1
  exact hway.status

theorem attempt_spares (he : ∀ s, Keeps (· = s) nav.host.activeEditor)
    (hr : ∀ s path, Keeps (· = s) (nav.host.workspaceRootFor path))
    (ho : ∀ path, Spares (nav.host.openDocument path))
    (hv : ∀ path offset, Succeeds (nav.host.reveal path offset)) : Spares nav.attempt := by
  refine .keeps_bind (fun s => keeps_focused (he s) (hr s)) ?_
  rintro ⟨doc, root⟩
  refine .keeps_bind (fun _ => keeps_start doc) fun _ => ?_
  refine .keeps_bind (fun _ => keeps_lookup doc root) fun found => ?_
  refine .keeps_bind (fun _ => keeps_firstExisting found.candidates) fun first => ?_
  cases first with
  | none => exact .throw _
  | some path =>
    refine .bind_succeeds (ho path) fun opened => ?_
    split
    · exact .pure _
    · refine .bind (.note _) fun _ => ?_
      cases methodOffset? nav.conventions opened.text found.action with
      | none => exact .pure _
      | some offset => exact .bind (hv _ _) fun _ => .pure _

/-- The outcome of a navigation that failed comes from an attempt that changed nothing. -/
theorem navigate_failed (ha : Spares nav.attempt)
    (h : nav.navigate.run.run w = (.ok outcome, w')) (hf : outcome.status = .failed) :
    w'.state = w.state := by
  rcases hattempt : nav.attempt.run.run w with ⟨e | arrived, w₁⟩
  · rw [navigate, run_tryCatch_of_error _ hattempt] at h
    cases hentry : entryOf e with
    | error raised =>
      rw [hentry] at h
      cases (Prod.mk.inj h).1
    | ok event =>
      rw [hentry] at h
      rw [← (Prod.mk.inj h).2]
      exact ha w w₁ e hattempt
  · rw [navigate, run_tryCatch_of_ok _ hattempt] at h
    obtain rfl := Except.ok.inj (Prod.mk.inj h).1
    exact absurd hf (attempt_status hattempt)

theorem toggle_ok (h : nav.toggle.run.run w = (.ok outcome, w')) :
    ∃ w₁ w₂, nav.navigate.run.run w = (.ok outcome, w₁) ∧
      (nav.host.showMessage outcome.level outcome.message).run.run w₁ = (.ok (), w₂) ∧
      w'.state = w₂.state := by
  rw [toggle, run_bind] at h
  split at h
  · next arrived w₁ hnavigate =>
    rw [run_bind] at h
    split at h
    · next u w₂ hshow =>
      obtain ⟨hok, rfl⟩ := Prod.mk.inj h
      obtain rfl := Except.ok.inj hok
      exact ⟨w₁, w₂, hnavigate, hshow, rfl⟩
    · cases (Prod.mk.inj h).1
  · cases (Prod.mk.inj h).1

end Navigator

namespace LocalHost

theorem focusText_spares (path : Path) (offset : Int) (text : Text) :
    Spares (focusText path offset text) := by
  refine .state_bind fun host => ?_
  cases host.files.resolve path with
  | error e => exact .throw e
  | ok real => exact .of_succeeds (.bind (.update _) fun _ => .pure _)

theorem focus_spares (path : Path) (offset : Int) : Spares (focus path offset) := by
  refine .state_bind fun host => ?_
  cases host.files.readText path with
  | error e => exact .throw e
  | ok text => exact focusText_spares path offset text

theorem openDocument_spares (path : Path) : Spares (openDocument path) := by
  refine .keeps_bind (fun _ => .note _) fun _ => .state_bind fun host => ?_
  cases host.files.readText path with
  | error e => exact .keeps_bind (fun _ => .note _) fun _ => .throw e
  | ok text => exact focusText_spares path 0 text

theorem reveal_succeeds (path : Text) (offset : Int) : Succeeds (reveal path offset) := by
  refine .state_bind fun host => ?_
  cases host.active with
  | none => exact .pure ()
  | some doc =>
    dsimp only
    split
    · exact .bind (.update _) fun _ => .note _
    · exact .pure ()

variable {conv : Conventions} {faults : Faults} {w w' : Journaled LocalHost} {outcome : Outcome}

theorem attempt_spares (hr : faults.reveal = none) : Spares (navigator conv faults).attempt := by
  refine Navigator.attempt_spares (fun s => .orFail _ (keeps_read _ _))
    (fun s path => .orFail _ (keeps_read _ _)) (fun path => .orFail _ (openDocument_spares path))
    fun path offset => ?_
  rw [navigator, EditorHost.withFaults, hr]
  exact reveal_succeeds path offset

theorem showMessage_ok (h : ((navigator conv faults).host.showMessage outcome.level
    outcome.message).run.run w = (.ok (), w')) : w'.state = w.state.shown outcome := by
  obtain ⟨journal, hshown⟩ := @showMessage_gives conv w.state outcome w.journal
  rw [navigator, EditorHost.withFaults] at h
  cases hf : faults.showMessage with
  | some e =>
    rw [hf] at h
    cases (Prod.mk.inj h).1
  | none =>
    rw [hf] at h
    rw [(Prod.mk.inj (h.symm.trans hshown)).2]

/-- A toggle that comes to a failure has shown it and has done nothing else. -/
theorem toggle_failed (hr : faults.reveal = none)
    (h : (navigator conv faults).toggle.run.run w = (.ok outcome, w'))
    (hf : outcome.status = .failed) : w'.state = w.state.shown outcome := by
  obtain ⟨w₁, w₂, hnavigate, hshow, hw'⟩ := Navigator.toggle_ok h
  rw [hw', showMessage_ok hshow, Navigator.navigate_failed (attempt_spares hr) hnavigate hf]

theorem report_keeps (s : LocalHost) : Keeps (· = s) (navigator conv faults).report :=
  Navigator.keeps_report (.orFail _ (keeps_read _ _)) fun _ => .orFail _ (keeps_read _ _)

/-- Whatever fails leaves the active document and the messages as they were, but for the message of
the failure itself, as long as the cursor of an open document can be moved. A report changes
nothing at all. -/
theorem failure_keeps_focus (hr : faults.reveal = none) (w : Journaled LocalHost) :
    (∀ outcome w', Session.step (navigator conv faults) w .toggle = (.ok (.outcome outcome), w') →
      outcome.status = .failed → w'.state.active = w.state.active ∧
        w'.state.messages = w.state.messages ++ [(outcome.level, outcome.message)] ∧
        w'.state.files = w.state.files ∧ w'.state.folders = w.state.folders) ∧
    (∀ path offset text e w',
      Session.step (navigator conv faults) w (.focus path offset text) = (.error e, w') →
        w'.state = w.state) ∧
    (∀ path e w', Session.step (navigator conv faults) w (.openDocument path) = (.error e, w') →
      w'.state = w.state) ∧
    (Session.step (navigator conv faults) w .candidates).2.state = w.state := by
  refine ⟨fun outcome w' h hf => ?_, fun path offset text e w' h => ?_, fun path e w' h => ?_, ?_⟩
  · rw [Session.step, Session.perform, run_bind] at h
    split at h
    · next o w₁ htoggle =>
      obtain ⟨hok, rfl⟩ := Prod.mk.inj h
      obtain rfl := StepResult.outcome.inj (Except.ok.inj hok)
      rw [toggle_failed hr htoggle hf]
      exact ⟨rfl, rfl, rfl, rfl⟩
    · cases (Prod.mk.inj h).1
  · have hspares : Spares (Session.perform (navigator conv faults) (.focus path offset text)) := by
      cases text with
      | none => exact .bind_succeeds (focus_spares path offset) fun _ => .pure _
      | some text => exact .bind_succeeds (focusText_spares path offset text) fun _ => .pure _
    exact hspares w w' e h
  · have hspares : Spares (Session.perform (navigator conv faults) (.openDocument path)) :=
      .bind_succeeds (.orFail _ (openDocument_spares path)) fun _ => .pure _
    exact hspares w w' e h
  · have hkeeps : Keeps (· = w.state) (Session.perform (navigator conv faults) .candidates) :=
      .bind (report_keeps w.state) fun _ => .pure _
    exact hkeeps w rfl

/-- A host that holds a view whose controller is there. -/
def comments : LocalHost where
  files := {
    entries := [
      (["ws"], .directory),
      (["ws", "app"], .directory),
      (["ws", "app", "controllers"], .directory),
      (["ws", "app", "controllers", "comments_controller.rb"], .file [])]
    workingDirectory := [] }
  folders := ["/ws"]
  active := some ⟨"/ws/app/views/comments/show.html.erb", "a comment", 2⟩
  messages := [(.info, "Opened view: show")]
  console := none

theorem comments_kept_when_busy :
    let nav := navigator .standard { openDocument := some (.host .system "busy") }
    ∃ outcome w', Session.step nav comments.journaled .toggle = (.ok (.outcome outcome), w') ∧
      outcome.status = .failed ∧ w'.state.active = comments.active ∧
      w'.state.messages = comments.messages ++ [(.error, outcome.message)] := by
  intro nav
  have hfailed : ((nav.toggle.run.run comments.journaled).1.toOption.map Outcome.status) =
      some .failed := by decide +kernel
  rcases hr : nav.toggle.run.run comments.journaled with ⟨e | outcome, w'⟩
  · rw [hr] at hfailed
    cases hfailed
  rw [hr] at hfailed
  have hstatus : outcome.status = .failed := Option.some.inj hfailed
  have hstep : Session.step nav comments.journaled .toggle = (.ok (.outcome outcome), w') :=
    run_bind_of_ok _ hr
  have hreveal : Faults.reveal { openDocument := some (.host .system "busy") } = none := rfl
  obtain ⟨htoggle, -⟩ := @failure_keeps_focus .standard _ hreveal comments.journaled
  obtain ⟨hactive, hmessages, -⟩ := htoggle outcome w' hstep hstatus
  rw [Outcome.level, if_pos hstatus] at hmessages
  exact ⟨outcome, w', hstep, hstatus, hactive, hmessages⟩

end LocalHost
end Counterpart
