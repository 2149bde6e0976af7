import Counterpart.Proofs.Numerals
import Counterpart.Proofs.Requests

/-! A toggle that nothing calls off ends by showing one message, whatever the editor does, as long
as the navigation errors that it raises have a kind. -/

namespace Counterpart

theorem Navigator.outcomeOf_status (e : Failure) : (outcomeOf e).status = .failed := by
  cases e <;> rfl

namespace Navigator

variable {σ : Type} (nav : Navigator σ) (w : Journaled σ)

/-- A document is in focus whose cursor cannot be written. -/
def Unspelled : Prop :=
  ∃ doc root w₁, nav.focused.run.run w = (.ok (doc, root), w₁) ∧ doc.isSpelled = false

/-- Looking from the focused document comes to a lookup, with the editor in a given state. -/
def Seeks (found : Lookup) (s : σ) : Prop :=
  ∃ doc root journal, nav.focused.run.run w = (.ok (doc, root), ⟨s, journal⟩) ∧
    doc.isSpelled = true ∧ Lookup.find nav.conventions doc root = .ok found

/-- The conditions under which the navigation itself ends with an error. -/
inductive Objects : NavigationError → Prop where
  | noEditor {w₁ : Journaled σ} (h : nav.host.activeEditor.run.run w = (.ok none, w₁)) :
      Objects .noActiveEditor
  | noRoot {doc : Document} {w₁ w₂ : Journaled σ}
      (h : nav.host.activeEditor.run.run w = (.ok (some doc), w₁))
      (hr : (nav.host.workspaceRootFor (forwardSlashes doc.path)).run.run w₁ = (.ok none, w₂)) :
      Objects .outsideWorkspace
  | unsought {doc : Document} {root : Path} {e : NavigationError} {w₁ : Journaled σ}
      (h : nav.focused.run.run w = (.ok (doc, root), w₁)) (hd : doc.isSpelled = true)
      (hf : Lookup.find nav.conventions doc root = .error e) : Objects e
  | notFound {found : Lookup} {s : σ} (hs : nav.Seeks w found s)
      (hn : ∀ r ∈ nav.results s found, r.status ≠ .present) : Objects (Navigator.notFound found)

/-- All that a toggle asks of the editor, in order. -/
def toggleRequests : List Request :=
  (nav.watched.toggle.run.run (w.watched [])).2.state.requests

/-- What can come of requests: nothing was raised and there is a result, or the navigation itself, a
cursor that cannot be written or a cancelled probe stopped it, or a request failed and nothing was
asked any more. -/
inductive Comes {α : Type} : List Failure → Except Failure α → Prop where
  | ok (a : α) : Comes [] (.ok a)
  | objected {e : NavigationError} (h : nav.Objects w e) : Comes [] (.error (.navigation e))
  | unspelled (h : nav.Unspelled w) : Comes [] (.error .longNumeral)
  | cancelled {found : Lookup} {s : σ} {p : Path} {message : Text} (hs : nav.Seeks w found s)
      (hp : p ∈ found.candidates) (h : nav.probe s p = .error (.cancelled message)) :
      Comes [] (.error (.cancelled ""))
  | raised (e : Failure) : Comes [e] (.error e)

variable {nav w} {editor : Except Failure (Option Document)} {roots opens reveals : List Request}

theorem Comes.error {α β : Type} {failures : List Failure} {e : Failure}
    (h : nav.Comes w failures (.error e : Except Failure α)) :
    nav.Comes w failures (.error e : Except Failure β) := by
  cases h with
  | objected h => exact .objected h
  | unspelled h => exact .unspelled h
  | cancelled hs hp h => exact .cancelled hs hp h
  | raised => exact .raised _

theorem Focuses.run {result : Except Failure (Document × Path)} {w₁ : Journaled σ}
    (h : nav.Focuses w editor roots result w₁) : nav.focused.run.run w = (result, w₁) := by
  cases h with
  | failed h => exact Act.run_bind_of_error _ h
  | noEditor h => exact Act.run_bind_of_ok _ h
  | rootFailed h hr => exact (Act.run_bind_of_ok _ h).trans (Act.run_bind_of_error _ hr)
  | noRoot h hr => exact (Act.run_bind_of_ok _ h).trans (Act.run_bind_of_ok _ hr)
  | focused h hr => exact (Act.run_bind_of_ok _ h).trans (Act.run_bind_of_ok _ hr)

section

variable {result : Except Failure Outcome} {s : σ}

theorem Attempts.status {outcome : Outcome}
    (h : nav.Attempts w editor roots opens reveals (.ok outcome) s) :
    outcome.status ≠ .failed := by
  cases h with
  | opened h hd hf hn ho hl =>
    cases hl with
    | view | notLocated | revealed => exact fun h => by cases h

/-- Where the navigation ends with an error of its own and no probe is cancelled, an attempt comes
to that error. -/
theorem Objects.attempt {e : NavigationError} (h : nav.Objects w e)
    (hp : ∀ found s, nav.Seeks w found s → ∀ p ∈ found.candidates,
      (Settled.mk p (nav.probe s p)).isCancelled = false) :
    ∃ w', nav.attempt.run.run w = (.error (.navigation e), w') := by
  cases h with
  | noEditor h => exact ⟨_, Act.run_bind_of_error _ (Act.run_bind_of_ok _ h)⟩
  | noRoot h hr =>
    exact ⟨_, Act.run_bind_of_error _ ((Act.run_bind_of_ok _ h).trans (Act.run_bind_of_ok _ hr))⟩
  | @unsought doc root e w₁ h hd hf =>
    have hstart := (start_asks w₁ hd).plain
    obtain ⟨journal, hlookup⟩ := nav.lookup_asks
      { w₁ with journal := w₁.journal ++ [.navigationStarted doc.path doc.cursor] } doc root
    rw [hf] at hlookup
    exact ⟨⟨w₁.state, journal⟩, (Act.run_bind_of_ok _ h).trans
      ((Act.run_bind_of_ok _ hstart).trans (Act.run_bind_of_error _ hlookup.plain))⟩
  | @notFound found s hs hn =>
    obtain ⟨doc, root, journal, hrun, hd, hf⟩ := id hs
    have hstart := (start_asks ⟨s, journal⟩ hd).plain
    obtain ⟨journal', hlookup⟩ :=
      nav.lookup_asks ⟨s, journal ++ [.navigationStarted doc.path doc.cursor]⟩ doc root
    rw [hf] at hlookup
    obtain ⟨journal'', ⟨⟨p, hmem, hcancelled⟩, -⟩ | hfirst⟩ :=
      nav.firstExisting_asks ⟨s, journal'⟩ found
    · rw [hp found s hs p hmem] at hcancelled
      cases hcancelled
    · rw [show nav.firstOf s found = none from firstFound?_eq_none_iff.2 hn] at hfirst
      exact ⟨⟨s, journal''⟩, (Act.run_bind_of_ok _ hrun).trans
        ((Act.run_bind_of_ok _ hstart).trans
          ((Act.run_bind_of_ok _ hlookup.plain).trans (Act.run_bind_of_ok _ hfirst.plain)))⟩

theorem Unspelled.attempt (h : nav.Unspelled w) :
    ∃ w', nav.attempt.run.run w = (.error .longNumeral, w') := by
  obtain ⟨doc, root, w₁, hrun, hd⟩ := h
  exact ⟨w₁, (Act.run_bind_of_ok _ hrun).trans
    (Act.run_bind_of_error _ (start_asks_of_unspelled w₁ hd).plain)⟩

/-- The outcome that an attempt is turned into. -/
def ended : Except Failure Outcome → Outcome
  | .ok outcome => outcome
  | .error e => outcomeOf e

theorem Comes.ended {failures : List Failure} (h : nav.Comes w failures result) :
    ∀ e ∈ failures, Navigator.ended result = outcomeOf e := by
  cases h with
  | ok | objected | unspelled | cancelled => exact fun _ h => absurd h List.not_mem_nil
  | raised e =>
    intro e' he
    rw [List.mem_singleton.1 he]
    rfl

theorem navigate_asks {requests : List Request} {w₁ : Journaled σ}
    (h : Asks nav.attempt nav.watched.attempt w requests result w₁)
    (he : ∀ e, result = .error e → e.IsHandled) :
    ∃ w₂, Asks nav.navigate nav.watched.navigate w requests (.ok (ended result)) w₂ := by
  cases result with
  | ok outcome => exact ⟨_, .tryCatch_ok _ _ h⟩
  | error e =>
    obtain ⟨event, hevent⟩ := he e rfl
    rw [← List.append_nil requests]
    refine ⟨⟨w₁.state, w₁.journal ++ [event]⟩, .tryCatch_error h ?_⟩
    rw [hevent]
    exact .note_bind (.pure _)

/-- An attempt that does not end in a failure beyond handling is followed by the message of its
outcome. -/
theorem toggle_asks {requests : List Request} {w₁ : Journaled σ}
    (h : Asks nav.attempt nav.watched.attempt w requests result w₁)
    (he : ∀ e, result = .error e → e.IsHandled) : ∃ answer w',
      Asks nav.toggle nav.watched.toggle w
        (requests ++ [.showMessage (ended result).level (ended result).message answer])
        (answer.map fun _ => ended result) w' := by
  obtain ⟨w₂, hnavigate⟩ := navigate_asks h he
  rcases hr : (nav.host.showMessage (ended result).level (ended result).message).run.run w₂
    with ⟨answer, w₃⟩
  have hshow := Asks.request (Request.showMessage (ended result).level (ended result).message) hr
  cases answer with
  | error e => exact ⟨_, _, .bind hnavigate (.bind_error _ _ hshow)⟩
  | ok => exact ⟨_, _, .bind hnavigate (.bind hshow (.note_bind (.pure _)))⟩

/-- A failure beyond handling ends a toggle at once, and no message is shown. -/
theorem toggle_asks_of_unhandled {requests : List Request} {w₁ : Journaled σ} {e raised : Failure}
    (h : Asks nav.attempt nav.watched.attempt w requests (.error e) w₁)
    (he : entryOf e = .error raised) :
    Asks nav.toggle nav.watched.toggle w requests (.error raised) w₁ := by
  rw [← List.append_nil requests]
  refine .bind_error _ _ (.tryCatch_error h ?_)
  rw [he]
  exact .throw raised

end

/-- Watching an editor changes nothing that a toggle does. -/
theorem exists_toggle_asks (nav : Navigator σ) (w : Journaled σ) : ∃ requests result w',
    Asks nav.toggle nav.watched.toggle w requests result w' := by
  obtain ⟨editor, roots, opens, reveals, result, s, -, journal, hasks⟩ := nav.exists_attempts w
  by_cases hhandled : ∀ e, result = .error e → e.IsHandled
  · obtain ⟨answer, w', htoggle⟩ := toggle_asks hasks hhandled
    exact ⟨_, _, _, htoggle⟩
  · obtain ⟨e, he⟩ := not_forall.1 hhandled
    obtain ⟨rfl, hunhandled⟩ := Classical.not_imp.1 he
    obtain ⟨raised, hentry⟩ := e.isHandled_or.resolve_left hunhandled
    exact ⟨_, _, _, toggle_asks_of_unhandled hasks hentry⟩

theorem toggleRequests_eq {requests : List Request} {result : Except Failure Outcome}
    {w' : Journaled σ} (h : Asks nav.toggle nav.watched.toggle w requests result w') :
    nav.toggleRequests w = requests := by
  rw [toggleRequests, h.watched []]
  rfl

/-- What a toggle watched comes to is what it comes to unwatched. -/
theorem watched_toggle_run (nav : Navigator σ) (w : Journaled σ) (earlier : List Request) :
    nav.watched.toggle.run.run (w.watched earlier) =
      ((nav.toggle.run.run w).1,
        (nav.toggle.run.run w).2.watched (earlier ++ nav.toggleRequests w)) := by
  obtain ⟨requests, result, w', h⟩ := nav.exists_toggle_asks w
  rw [h.plain, toggleRequests_eq h]
  exact h.watched earlier

end Navigator

end Counterpart
