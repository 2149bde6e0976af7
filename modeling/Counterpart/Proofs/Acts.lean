import Counterpart.Host

/-! Acts at an editor: how they run one after the other, what they give, and what they keep. -/

namespace Counterpart

namespace Act

variable {σ α β : Type}

theorem run_bind (act : Act σ α) (next : α → Act σ β) (w : Journaled σ) :
    (act >>= next).run.run w =
      match act.run.run w with
      | (.ok a, w') => (next a).run.run w'
      | (.error e, w') => (.error e, w') := by
  rw [ExceptT.run_bind, StateT.run_bind]
  rcases act.run.run w with ⟨a | e, w'⟩ <;> rfl

theorem run_bind_of_ok {act : Act σ α} (next : α → Act σ β) {w w' : Journaled σ} {a : α}
    (h : act.run.run w = (.ok a, w')) : (act >>= next).run.run w = (next a).run.run w' := by
  rw [run_bind, h]

theorem run_bind_of_error {act : Act σ α} (next : α → Act σ β) {w w' : Journaled σ} {e : Failure}
    (h : act.run.run w = (.error e, w')) : (act >>= next).run.run w = (.error e, w') := by
  rw [run_bind, h]

theorem run_note_bind (events : List Event) (next : Unit → Act σ β) (w : Journaled σ) :
    (Act.note events >>= next).run.run w =
      (next ()).run.run { w with journal := w.journal ++ events } := rfl

theorem run_state_bind (next : σ → Act σ β) (w : Journaled σ) :
    (Act.state >>= next).run.run w = (next w.state).run.run w := rfl

theorem run_tryCatch_of_ok {act : Act σ α} (handle : Failure → Act σ α) {w w' : Journaled σ}
    {a : α} (h : act.run.run w = (.ok a, w')) :
    (MonadExcept.tryCatch act handle).run.run w = (.ok a, w') := by
  rw [ExceptT.run_tryCatch, StateT.run_bind, h]
  rfl

theorem run_tryCatch_of_error {act : Act σ α} (handle : Failure → Act σ α) {w w' : Journaled σ}
    {e : Failure} (h : act.run.run w = (.error e, w')) :
    (MonadExcept.tryCatch act handle).run.run w = (handle e).run.run w' := by
  rw [ExceptT.run_tryCatch, StateT.run_bind, h]
  rfl

/-- What a request comes to and the state that it leaves, whatever the journal holds. -/
def Gives (act : Act σ α) (s : σ) (result : Except Failure α) (s' : σ) : Prop :=
  ∀ journal, ∃ journal', act.run.run ⟨s, journal⟩ = (result, ⟨s', journal'⟩)

namespace Gives

variable {s s' s'' : σ} {result : Except Failure β}

theorem pure (a : α) : Gives (Pure.pure a : Act σ α) s (.ok a) s := fun journal => ⟨journal, rfl⟩

theorem throw (e : Failure) : Gives (MonadExcept.throw e : Act σ α) s (.error e) s :=
  fun journal => ⟨journal, rfl⟩

theorem note (events : List Event) : Gives (Act.note events : Act σ Unit) s (.ok ()) s :=
  fun journal => ⟨journal ++ events, rfl⟩

theorem state : Gives (Act.state : Act σ σ) s (.ok s) s := fun journal => ⟨journal, rfl⟩

theorem update (f : σ → σ) : Gives (Act.update f) s (.ok ()) (f s) :=
  fun journal => ⟨journal, rfl⟩

theorem bind {act : Act σ α} {next : α → Act σ β} {a : α} (h : Gives act s (.ok a) s')
    (hn : Gives (next a) s' result s'') : Gives (act >>= next) s result s'' := by
  intro journal
  obtain ⟨journal', h⟩ := h journal
  obtain ⟨journal'', hn⟩ := hn journal'
  exact ⟨journal'', (run_bind_of_ok next h).trans hn⟩

theorem bind_error {act : Act σ α} (next : α → Act σ β) {e : Failure}
    (h : Gives act s (.error e) s') : Gives (act >>= next) s (.error e) s' := by
  intro journal
  obtain ⟨journal', h⟩ := h journal
  exact ⟨journal', run_bind_of_error next h⟩

theorem tryCatch_ok {act : Act σ β} (handle : Failure → Act σ β) {b : β}
    (h : Gives act s (.ok b) s') : Gives (MonadExcept.tryCatch act handle) s (.ok b) s' := by
  intro journal
  obtain ⟨journal', h⟩ := h journal
  exact ⟨journal', run_tryCatch_of_ok handle h⟩

theorem tryCatch_error {act : Act σ β} {handle : Failure → Act σ β} {e : Failure}
    (h : Gives act s (.error e) s') (hh : Gives (handle e) s' result s'') :
    Gives (MonadExcept.tryCatch act handle) s result s'' := by
  intro journal
  obtain ⟨journal', h⟩ := h journal
  obtain ⟨journal'', hh⟩ := hh journal'
  exact ⟨journal'', (run_tryCatch_of_error handle h).trans hh⟩

end Gives

/-- A request that keeps a property of the state, whether it fails or not. -/
def Keeps (P : σ → Prop) (act : Act σ α) : Prop :=
  ∀ w, P w.state → P (act.run.run w).2.state

namespace Keeps

variable {P : σ → Prop}

theorem pure (a : α) : Keeps P (Pure.pure a : Act σ α) := fun _ h => h

theorem throw (e : Failure) : Keeps P (MonadExcept.throw e : Act σ α) := fun _ h => h

theorem note (events : List Event) : Keeps P (Act.note events : Act σ Unit) := fun _ h => h

theorem update {f : σ → σ} (h : ∀ s, P s → P (f s)) : Keeps P (Act.update f) :=
  fun w hw => h w.state hw

/-- What holds after the first request holds after both. -/
theorem after_bind {act : Act σ α} {next : α → Act σ β} (hn : ∀ a, Keeps P (next a))
    {w : Journaled σ} (h : P (act.run.run w).2.state) : P ((act >>= next).run.run w).2.state := by
  rw [run_bind]
  split
  · next a w' hr => exact hn a w' (by rwa [hr] at h)
  · next e w' hr => rwa [hr] at h

theorem bind {act : Act σ α} {next : α → Act σ β} (h : Keeps P act) (hn : ∀ a, Keeps P (next a)) :
    Keeps P (act >>= next) := fun w hw => after_bind hn (h w hw)

theorem state_bind {next : σ → Act σ β} (h : ∀ s, P s → Keeps P (next s)) :
    Keeps P (Act.state >>= next) := fun w hw => h w.state hw w hw

theorem tryCatch {act : Act σ α} {handle : Failure → Act σ α} (h : Keeps P act)
    (hh : ∀ e, Keeps P (handle e)) : Keeps P (MonadExcept.tryCatch act handle) := by
  intro w hw
  have hact := h w hw
  rcases hr : act.run.run w with ⟨a | e, w'⟩
  · rw [hr] at hact
    rw [run_tryCatch_of_error handle hr]
    exact hh _ w' hact
  · rw [hr] at hact
    rwa [run_tryCatch_of_ok handle hr]

theorem orFail {act : Act σ α} (fault : Option Failure) (h : Keeps P act) :
    Keeps P (Act.orFail fault act) := by
  cases fault with
  | none => exact h
  | some e => exact .throw e

theorem of_gives {act : Act σ α} {result : σ → Except Failure α} {after : σ → σ}
    (h : ∀ s, Gives act s (result s) (after s)) (hp : ∀ s, P s → P (after s)) : Keeps P act := by
  intro w hw
  obtain ⟨journal, hrun⟩ := h w.state w.journal
  rw [show act.run.run w = _ from hrun]
  exact hp w.state hw

end Keeps

/-- A request that always succeeds. -/
def Succeeds (act : Act σ α) : Prop := ∀ w, ∃ a w', act.run.run w = (.ok a, w')

namespace Succeeds

theorem pure (a : α) : Succeeds (Pure.pure a : Act σ α) := fun w => ⟨a, w, rfl⟩

theorem note (events : List Event) : Succeeds (Act.note events : Act σ Unit) :=
  fun _ => ⟨(), _, rfl⟩

theorem update (f : σ → σ) : Succeeds (Act.update f) := fun _ => ⟨(), _, rfl⟩

theorem bind {act : Act σ α} {next : α → Act σ β} (h : Succeeds act)
    (hn : ∀ a, Succeeds (next a)) : Succeeds (act >>= next) := by
  intro w
  obtain ⟨a, w₁, hrun⟩ := h w
  obtain ⟨b, w₂, hnext⟩ := hn a w₁
  exact ⟨b, w₂, (run_bind_of_ok next hrun).trans hnext⟩

theorem state_bind {next : σ → Act σ β} (h : ∀ s, Succeeds (next s)) :
    Succeeds (Act.state >>= next) := fun w => h w.state w

end Succeeds

/-- A request that leaves the state as it was if it fails. -/
def Spares (act : Act σ α) : Prop :=
  ∀ w w' e, act.run.run w = (.error e, w') → w'.state = w.state

namespace Spares

theorem throw (e : Failure) : Spares (MonadExcept.throw e : Act σ α) := by
  intro w w' e' h
  rw [← (Prod.mk.inj h).2]

theorem of_succeeds {act : Act σ α} (h : Succeeds act) : Spares act := by
  intro w w' e hrun
  obtain ⟨a, w₁, hok⟩ := h w
  rw [hok] at hrun
  cases (Prod.mk.inj hrun).1

theorem orFail {act : Act σ α} (fault : Option Failure) (h : Spares act) :
    Spares (Act.orFail fault act) := by
  cases fault with
  | none => exact h
  | some e => exact throw e

/-- What comes before the last that can fail changes nothing. -/
theorem keeps_bind {act : Act σ α} {next : α → Act σ β} (h : ∀ s, Keeps (· = s) act)
    (hn : ∀ a, Spares (next a)) : Spares (act >>= next) := by
  intro w w' e hrun
  have hstate := h w.state w rfl
  rw [run_bind] at hrun
  split at hrun
  · next a w₁ hact =>
    rw [hact] at hstate
    exact (hn a w₁ w' e hrun).trans hstate
  · next e' w₁ hact =>
    rw [hact] at hstate
    rw [← (Prod.mk.inj hrun).2]
    exact hstate

theorem state_bind {next : σ → Act σ β} (h : ∀ s, Spares (next s)) :
    Spares (Act.state >>= next) := fun w w' e hrun => h w.state w w' e hrun

/-- What comes after it cannot fail. -/
theorem bind_succeeds {act : Act σ α} {next : α → Act σ β} (h : Spares act)
    (hn : ∀ a, Succeeds (next a)) : Spares (act >>= next) := by
  intro w w' e hrun
  rw [run_bind] at hrun
  split at hrun
  · next a w₁ hact =>
    obtain ⟨b, w₂, hnext⟩ := hn a w₁
    rw [hnext] at hrun
    cases (Prod.mk.inj hrun).1
  · next e' w₁ hact =>
    rw [← (Prod.mk.inj hrun).2]
    exact h w w₁ e' hact

end Spares
end Act

end Counterpart
