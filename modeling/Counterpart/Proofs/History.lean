import Counterpart.Proofs.Arrival
import Counterpart.Proofs.Sessions

/-! Whole sessions. As long as the text under a cursor and the cursor itself are left to the host,
the cursor stands inside the text, and the messages are a history: one more for each that is shown,
and none is ever taken back. -/

namespace Counterpart

/-- A document at a path of slashes alone, with its cursor inside its text. -/
structure Document.IsSound (doc : Document) : Prop where
  backslash : '\\' ∉ doc.path
  nonneg : 0 ≤ doc.cursor
  le_length : doc.cursor ≤ doc.text.length

def LocalHost.IsSound (host : LocalHost) : Prop := ∀ doc, host.active = some doc → doc.IsSound

/-- A step that does not put the cursor wherever it is told, nor another text under it. -/
def Step.KeepsCursor : Step → Prop
  | .setCursor _ | .setText _ => False
  | _ => True

/-- A step that shows a message: a toggle shows its outcome. What has no proper level is not
shown. -/
def Step.shows : Step → Bool
  | .toggle => true
  | .showMessage level _ => (MessageLevel.ofWord? level).isSome
  | _ => false

theorem backslash_not_mem_forwardSlashes (s : Text) : '\\' ∉ forwardSlashes s := by
  intro hmem
  obtain ⟨c, -, hc⟩ := List.mem_map.1 hmem
  by_cases he : c = '\\'
  · rw [if_pos he] at hc
    cases hc
  · rw [if_neg he] at hc
    exact he hc

namespace LocalHost

open Act

/-- A sound host with these messages. -/
def HasShown (messages : List (MessageLevel × Text)) (host : LocalHost) : Prop :=
  host.IsSound ∧ host.messages = messages

variable {messages : List (MessageLevel × Text)} {host : LocalHost}

theorem HasShown.withActive (h : host.HasShown messages) {doc : Document} (hd : doc.IsSound) :
    HasShown messages { host with active := some doc } :=
  ⟨fun _ he => Option.some.inj he ▸ hd, h.2⟩

theorem isSound_at (path text : Text) (offset : Int) :
    Document.IsSound ⟨forwardSlashes path, text, clampOffset text offset⟩ where
  backslash := backslash_not_mem_forwardSlashes path
  nonneg := Int.natCast_nonneg _
  le_length := Int.ofNat_le.2 (clampOffset_le text offset)

theorem focusText_shows_nothing (path : Path) (offset : Int) (text : Text) :
    Keeps (HasShown messages) (focusText path offset text) := by
  refine .state_bind fun host _ => ?_
  cases host.files.resolve path with
  | error e => exact .throw e
  | ok real => exact .bind (.update fun _ h => h.withActive (isSound_at _ _ _)) fun _ => .pure _

theorem focus_shows_nothing (path : Path) (offset : Int) :
    Keeps (HasShown messages) (focus path offset) := by
  refine .state_bind fun host _ => ?_
  cases host.files.readText path with
  | error e => exact .throw e
  | ok text => exact focusText_shows_nothing path offset text

theorem openDocument_shows_nothing (path : Path) :
    Keeps (HasShown messages) (openDocument path) := by
  refine .bind (.note _) fun _ => .state_bind fun host _ => ?_
  cases host.files.readText path with
  | error e => exact .bind (.note _) fun _ => .throw e
  | ok text => exact focusText_shows_nothing path 0 text

theorem reveal_shows_nothing (path : Text) (offset : Int) :
    Keeps (HasShown messages) (reveal path offset) := by
  refine .state_bind fun host h => ?_
  cases hactive : host.active with
  | none => exact .pure ()
  | some doc =>
    have hdoc := h.1 doc hactive
    have hmoved : Document.IsSound { doc with cursor := (clampOffset doc.text offset : Int) } :=
      ⟨hdoc.backslash, Int.natCast_nonneg _, Int.ofNat_le.2 (clampOffset_le doc.text offset)⟩
    dsimp only
    split
    · exact .bind (.update fun _ h' => h'.withActive hmoved) fun _ => .note _
    · exact .pure ()

theorem setPosition_shows_nothing (line column : Int) : Keeps (HasShown messages)
    (edit fun doc => { doc with cursor := offsetOf doc.text line column }) := by
  refine .update fun host h => ⟨fun doc he => ?_, h.2⟩
  obtain ⟨old, hold, rfl⟩ := Option.map_eq_some_iff.1 he
  exact ⟨(h.1 old hold).backslash, Int.natCast_nonneg _,
    Int.ofNat_le.2 (offsetOf_le old.text line column)⟩

theorem changeFiles_shows_nothing (change : Change Unit) :
    Keeps (HasShown messages) (Session.changeFiles change) := by
  refine .state_bind fun host _ => .bind (.update fun _ h => h) fun _ => ?_
  split
  · exact .pure _
  · exact .throw _

/-- A step that shows nothing keeps the messages, and it keeps the host sound. -/
theorem perform_shows_nothing (conv : Conventions) {s : Step} (hs : s.KeepsCursor)
    (hq : s.shows = false) :
    Keeps (HasShown messages) (Session.perform (navigator conv {}) s) := by
  cases s with
  | focus path offset text =>
    cases text with
    | none => exact .bind (focus_shows_nothing path offset) fun _ => .pure _
    | some text => exact .bind (focusText_shows_nothing path offset text) fun _ => .pure _
  | openDocument path => exact .bind (openDocument_shows_nothing path) fun _ => .pure _
  | toggle => cases hq
  | candidates =>
    exact .bind (Navigator.keeps_report (keeps_read _ _) fun _ => keeps_read _ _) fun _ => .pure _
  | probe path =>
    exact .bind (.state_bind fun _ _ => .bind (.note _) fun _ => .pure _) fun _ => .pure _
  | reveal path offset => exact .bind (reveal_shows_nothing path offset) fun _ => .pure _
  | setCursor offset => exact hs.elim
  | setPosition line column => exact .bind (setPosition_shows_nothing line column) fun _ => .pure _
  | setText text => exact hs.elim
  | close =>
    refine .bind (.update fun host h => ⟨fun doc he => ?_, h.2⟩) fun _ => .pure _
    cases he
  | rootFor path => exact .bind (keeps_read _ _) fun _ => .pure _
  | showMessage level message =>
    have hnone : MessageLevel.ofWord? level = none := by simpa [Step.shows] using hq
    rw [Session.perform, hnone]
    exact .bind (.throw _) fun _ => .pure _
  | write path entry => exact .bind (changeFiles_shows_nothing _) fun _ => .pure _
  | remove path => exact .bind (changeFiles_shows_nothing _) fun _ => .pure _

/-- A message is kept before it is printed. -/
theorem showMessage_shows (level : MessageLevel) (message : Text) {w : Journaled LocalHost}
    (h : w.state.HasShown messages) :
    ((showMessage level message).run.run w).2.state.HasShown
      (messages ++ [(level, message)]) := by
  have hkept : HasShown (messages ++ [(level, message)])
      { w.state with messages := w.state.messages ++ [(level, message)] } :=
    ⟨h.1, by rw [h.2]⟩
  refine Keeps.after_bind (fun _ => .state_bind fun host _ => ?_) hkept
  cases host.console with
  | none => exact .pure ()
  | some shown =>
    dsimp only
    split
    · exact .throw _
    · exact .update fun _ h => h

theorem HasShown.toggled (h : host.HasShown messages) (conv : Conventions) :
    (host.toggled conv).2.HasShown
      (messages ++ [((host.toggled conv).1.level, (host.toggled conv).1.message)]) := by
  rw [LocalHost.toggled]
  split
  · next outcome doc ha =>
    obtain ⟨found, path, opened, -, -, hload, harrival⟩ := attempted_ok ha
    obtain ⟨text, real, -, -, hopened⟩ := loaded_ok hload
    have hdescribes := @arrival_describes conv found opened (by rw [hopened])
    have hpath := arrival_path conv found opened
    rw [harrival] at hdescribes hpath
    have hdoc : doc.IsSound := by
      refine ⟨?_, hdescribes.nonneg, hdescribes.le_length⟩
      rw [hpath, hopened]
      exact backslash_not_mem_forwardSlashes _
    exact ⟨fun _ he => Option.some.inj he ▸ hdoc, by rw [shown, h.2]⟩
  · exact ⟨h.1, by rw [shown, h.2]⟩

/-- What a step adds to the messages of a sound host. -/
theorem step_history (conv : Conventions) {s : Step} (hs : s.KeepsCursor)
    {w : Journaled LocalHost} (h : w.state.HasShown messages) :
    ∃ shown, (Session.step (navigator conv {}) w s).2.state.HasShown (messages ++ shown) ∧
      shown.length = if s.shows then 1 else 0 := by
  by_cases hq : s.shows = true
  · rw [if_pos hq]
    cases s with
    | toggle =>
      obtain ⟨journal, hstep⟩ := @step_toggle conv w
      rw [hstep]
      exact ⟨_, h.toggled conv, rfl⟩
    | showMessage level message =>
      obtain ⟨l, hl⟩ := Option.isSome_iff_exists.1 hq
      refine ⟨[(l, message)], ?_, rfl⟩
      rw [Session.step, Session.perform, hl]
      exact Keeps.after_bind (fun _ => .pure _) (showMessage_shows l message h)
    | _ => cases hq
  · rw [Bool.not_eq_true] at hq
    rw [if_neg (by simp [hq])]
    refine ⟨[], ?_, rfl⟩
    rw [List.append_nil]
    exact perform_shows_nothing conv hs hq w h

theorem run_length (nav : Navigator LocalHost) (w : Journaled LocalHost) (steps : List Step) :
    (Session.run nav w steps).length = steps.length := by
  induction steps generalizing w with
  | nil => rfl
  | cons s steps ih => rw [Session.run, List.length_cons, ih, List.length_cons]

/-- What a session has added to the messages of a sound host after any of its steps. -/
theorem run_history (conv : Conventions) {steps : List Step} (hs : ∀ s ∈ steps, s.KeepsCursor)
    {w : Journaled LocalHost} (h : w.state.HasShown messages) {i : Nat}
    {result : Except Failure StepResult} {w' : Journaled LocalHost}
    (hi : (Session.run (navigator conv {}) w steps)[i]? = some (result, w')) :
    ∃ shown, w'.state.HasShown (messages ++ shown) ∧
      shown.length = (steps.take (i + 1)).countP Step.shows := by
  -- For any messages so far, for the first step may have added one.
  induction steps generalizing w messages i with
  | nil => cases hi
  | cons s steps ih =>
    obtain ⟨first, hfirst, hlength⟩ := step_history conv (hs s List.mem_cons_self) h
    have hcount : (if s.shows = true then 1 else 0) = [s].countP Step.shows := by simp
    rw [Session.run] at hi
    cases i with
    | zero =>
      obtain ⟨-, rfl⟩ := Prod.mk.inj (Option.some.inj hi)
      exact ⟨first, hfirst, hlength.trans hcount⟩
    | succ i =>
      have hsteps : ∀ t ∈ steps, t.KeepsCursor := fun t ht => hs t (List.mem_cons_of_mem _ ht)
      obtain ⟨more, hmore, hmoreLength⟩ := ih hsteps hfirst hi
      refine ⟨first ++ more, List.append_assoc messages first more ▸ hmore, ?_⟩
      rw [List.length_append, hlength, hmoreLength, List.take_succ_cons, List.countP_cons]
      omega

/-- No step takes a message back. -/
theorem run_messages_pairwise (conv : Conventions) {steps : List Step}
    (hs : ∀ s ∈ steps, s.KeepsCursor) {w : Journaled LocalHost} (h : w.state.IsSound) :
    ((Session.run (navigator conv {}) w steps).map (·.2.state.messages)).Pairwise (· <+: ·) := by
  induction steps generalizing w with
  | nil => exact .nil
  | cons s steps ih =>
    obtain ⟨first, hfirst, -⟩ := step_history conv (hs s List.mem_cons_self) ⟨h, rfl⟩
    have hsteps : ∀ t ∈ steps, t.KeepsCursor := fun t ht => hs t (List.mem_cons_of_mem _ ht)
    rw [Session.run, List.map_cons]
    refine List.pairwise_cons.2 ⟨fun later hlater => ?_, ih hsteps hfirst.1⟩
    obtain ⟨⟨result, w'⟩, hmem, rfl⟩ := List.mem_map.1 hlater
    obtain ⟨i, hi⟩ := List.mem_iff_getElem?.1 hmem
    obtain ⟨more, hmore, -⟩ := run_history conv hsteps ⟨hfirst.1, rfl⟩ hi
    dsimp only
    rw [hmore.2]
    exact List.prefix_append _ _

theorem HasShown.of_create {display : Display} {files : FileTree} {folders : List Path}
    {withConsole : Bool} (h : LocalHost.create display files folders withConsole = .ok host) :
    host.HasShown [] := by
  rw [LocalHost.create] at h
  cases hr : folders.mapM files.resolve with
  | error e =>
    rw [hr] at h
    cases h
  | ok real =>
    rw [hr] at h
    obtain rfl := Except.ok.inj h
    refine ⟨?_, rfl⟩
    intro doc he
    cases he

/-- A session at a new host. After each of its steps the active document, if there is one, is at a
path without backslashes and has its cursor inside its text, and there is one message for each step
so far that shows one. -/
theorem session_history {display : Display} {files : FileTree} {folders : List Path}
    {withConsole : Bool} (hc : LocalHost.create display files folders withConsole = .ok host)
    (conv : Conventions) {steps : List Step} (hs : ∀ s ∈ steps, s.KeepsCursor) :
    let after := Session.run (navigator conv {}) host.journaled steps
    after.length = steps.length ∧
      (after.map (·.2.state.messages)).Pairwise (· <+: ·) ∧
      ∀ i result w', after[i]? = some (result, w') →
        (∀ doc, w'.state.active = some doc →
          '\\' ∉ doc.path ∧ 0 ≤ doc.cursor ∧ doc.cursor ≤ doc.text.length) ∧
        w'.state.messages.length = (steps.take (i + 1)).countP Step.shows := by
  intro after
  have hnew : host.HasShown [] := .of_create hc
  refine ⟨run_length _ _ _, run_messages_pairwise conv hs hnew.1, fun i result w' hi => ?_⟩
  obtain ⟨shown, ⟨hsound, hmessages⟩, hlength⟩ := run_history conv hs hnew hi
  rw [hmessages, List.nil_append]
  refine ⟨fun doc he => ?_, hlength⟩
  have hdoc := hsound doc he
  exact ⟨hdoc.backslash, hdoc.nonneg, hdoc.le_length⟩

/-- Steps of every kind that leaves the cursor to the host, some of which fail. -/
def wandering : List Step := [
  .toggle,
  .focus (.ofText "/ws/missing.rb") 3 none,
  .focus (.ofText "/ws/app/views\\a/b.html.erb") (-5) (some "one\ntwo"),
  .setPosition 1000000000000 (-3),
  .candidates,
  .reveal "/ws/app/views/a/b.html.erb" 99,
  .showMessage "error" "[lost",
  .showMessage "loud" "no such level",
  .toggle,
  .openDocument (.ofText "/ws"),
  .close]

theorem wandering_history :
    (∀ s ∈ wandering, s.KeepsCursor) ∧ ∃ result w',
      (Session.run (navigator .standard {})
        (LocalHost.journaled ⟨⟨[], []⟩, ["/ws"], none, [], none, {}⟩) wandering)[9]? =
          some (result, w') ∧
      w'.state.messages.length = 3 ∧
      ∀ doc, w'.state.active = some doc →
        '\\' ∉ doc.path ∧ 0 ≤ doc.cursor ∧ doc.cursor ≤ doc.text.length := by
  have hcreate : LocalHost.create {} ⟨[], []⟩ [⟨.root, ["ws"]⟩] false =
      .ok ⟨⟨[], []⟩, ["/ws"], none, [], none, {}⟩ := by
    rw [LocalHost.create]
    rfl
  have hsteps : ∀ s ∈ wandering, s.KeepsCursor := by
    simp only [wandering, List.forall_mem_cons, Step.KeepsCursor, true_and]
    intro s hmem
    cases hmem
  obtain ⟨hlength, -, hafter⟩ := session_history hcreate .standard hsteps
  generalize Session.run _ _ wandering = after at hlength hafter ⊢
  have hlong : 9 < after.length := by
    rw [hlength]
    decide
  obtain ⟨hactive, hmessages⟩ := hafter 9 _ _ (List.getElem?_eq_getElem hlong)
  refine ⟨hsteps, _, _, List.getElem?_eq_getElem hlong, hmessages.trans ?_, hactive⟩
  rfl

end LocalHost
end Counterpart
