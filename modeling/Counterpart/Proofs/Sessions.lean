import Counterpart.Session
import Counterpart.Proofs.Acts

/-! What every step of a session keeps, whatever the conventions and the faults: the folders of the
host, which were resolved when it was made. -/

namespace Counterpart

open Act

/-! ### Navigators -/

namespace Navigator

variable {σ : Type} {nav : Navigator σ} {P : σ → Prop}

theorem keeps_focused (he : Keeps P nav.host.activeEditor)
    (hr : ∀ path, Keeps P (nav.host.workspaceRootFor path)) : Keeps P nav.focused := by
  refine .bind he fun editor => ?_
  cases editor with
  | none => exact .throw _
  | some doc =>
    refine .bind (hr _) fun root => ?_
    cases root with
    | none => exact .throw _
    | some root => exact .pure _

theorem keeps_lookup (doc : Document) (root : Path) : Keeps P (nav.lookup doc root) := by
  refine .bind (.note _) fun _ => ?_
  cases Lookup.find nav.conventions doc root with
  | error e => exact .throw _
  | ok found => exact .pure _

theorem keeps_probeAll (candidates : List Path) : Keeps P (nav.probeAll candidates) := by
  refine .state_bind fun s _ => .bind (.note _) fun _ => ?_
  cases collect (gather (nav.probe s) candidates (List.range candidates.length)) with
  | error e => exact .throw _
  | ok results => exact .pure _

theorem keeps_firstExisting (candidates : List Path) : Keeps P (nav.firstExisting candidates) :=
  .bind (keeps_probeAll candidates) fun _ => .bind (.note _) fun _ => .pure _

theorem keeps_report (he : Keeps P nav.host.activeEditor)
    (hr : ∀ path, Keeps P (nav.host.workspaceRootFor path)) : Keeps P nav.report := by
  refine .bind (keeps_focused he hr) ?_
  rintro ⟨doc, root⟩
  exact .bind (keeps_lookup doc root) fun found => .bind (keeps_probeAll _) fun _ => .pure _

theorem keeps_jumpTo (hv : ∀ path offset, Keeps P (nav.host.reveal path offset)) (doc : Document)
    (action : Text) : Keeps P (nav.jumpTo doc action) := by
  refine .bind (.note _) fun _ => ?_
  cases methodOffset? nav.conventions doc.text action with
  | none => exact .pure _
  | some offset => exact .bind (hv _ _) fun _ => .pure _

theorem keeps_start (doc : Document) : Keeps P (start doc) := by
  rw [start]
  split
  · exact .note _
  · exact .throw _

theorem keeps_attempt (he : Keeps P nav.host.activeEditor)
    (hr : ∀ path, Keeps P (nav.host.workspaceRootFor path))
    (ho : ∀ path, Keeps P (nav.host.openDocument path))
    (hv : ∀ path offset, Keeps P (nav.host.reveal path offset)) : Keeps P nav.attempt := by
  refine .bind (keeps_focused he hr) ?_
  rintro ⟨doc, root⟩
  refine .bind (keeps_start doc) fun _ => .bind (keeps_lookup doc root) fun found => ?_
  refine .bind (keeps_firstExisting found.candidates) fun first => ?_
  cases first with
  | none => exact .throw _
  | some path =>
    refine .bind (ho path) fun opened => ?_
    split
    · exact .pure _
    · exact keeps_jumpTo hv opened found.action

theorem keeps_toggle (ha : Keeps P nav.attempt)
    (hs : ∀ level message, Keeps P (nav.host.showMessage level message)) :
    Keeps P nav.toggle := by
  refine .bind (.tryCatch ha fun e => ?_) fun outcome =>
    .bind (hs _ _) fun _ => .bind (.note _) fun _ => .pure _
  cases entryOf e with
  | error raised => exact .throw _
  | ok event => exact .bind (.note _) fun _ => .pure _

end Navigator

/-! ### Folders -/

namespace LocalHost

variable {P : List Text → Prop}

theorem keeps_read {α : Type} (read : LocalHost → α) (Q : LocalHost → Prop) :
    Keeps Q (return read (← Act.state)) := .state_bind fun _ _ => .pure _

theorem focusText_keeps_folders (path : Path) (offset : Int) (text : Text) :
    Keeps (fun h => P h.folders) (focusText path offset text) := by
  refine .state_bind fun host _ => ?_
  cases host.files.resolve path with
  | error e => exact .throw e
  | ok real => exact .bind (.update fun _ h => h) fun _ => .pure _

theorem focus_keeps_folders (path : Path) (offset : Int) :
    Keeps (fun h => P h.folders) (focus path offset) := by
  refine .state_bind fun host _ => ?_
  cases host.files.readText path with
  | error e => exact .throw e
  | ok text => exact focusText_keeps_folders path offset text

theorem openDocument_keeps_folders (path : Path) :
    Keeps (fun h => P h.folders) (openDocument path) := by
  refine .bind (.note _) fun _ => .state_bind fun host _ => ?_
  cases host.files.readText path with
  | error e => exact .bind (.note _) fun _ => .throw e
  | ok text => exact focusText_keeps_folders path 0 text

theorem reveal_keeps_folders (path : Text) (offset : Int) :
    Keeps (fun h => P h.folders) (reveal path offset) := by
  refine .state_bind fun host _ => ?_
  cases host.active with
  | none => exact .pure ()
  | some doc =>
    dsimp only
    split
    · exact .bind (.update fun _ h => h) fun _ => .note _
    · exact .pure ()

theorem showMessage_keeps_folders (level : MessageLevel) (message : Text) :
    Keeps (fun h => P h.folders) (showMessage level message) := by
  refine .bind (.update fun _ h => h) fun _ => .state_bind fun host _ => ?_
  cases host.console with
  | none => exact .pure ()
  | some shown =>
    dsimp only
    split
    · exact .throw _
    · exact .update fun _ h => h

theorem changeFiles_keeps_folders (change : Change Unit) :
    Keeps (fun h => P h.folders) (Session.changeFiles change) := by
  refine .state_bind fun host _ => .bind (.update fun _ h => h) fun _ => ?_
  split
  · exact .pure _
  · exact .throw _

/-- Every step keeps the folders. -/
theorem perform_keeps_folders (conv : Conventions) (faults : Faults) (s : Step) :
    Keeps (fun h => P h.folders) (Session.perform (navigator conv faults) s) := by
  have heditor : Keeps (fun h => P h.folders) (navigator conv faults).host.activeEditor :=
    .orFail _ (keeps_read _ _)
  have hroot : ∀ path, Keeps (fun h => P h.folders)
      ((navigator conv faults).host.workspaceRootFor path) :=
    fun _ => .orFail _ (keeps_read _ _)
  have hopen : ∀ path, Keeps (fun h => P h.folders)
      ((navigator conv faults).host.openDocument path) :=
    fun path => .orFail _ (openDocument_keeps_folders path)
  have hreveal : ∀ path offset, Keeps (fun h => P h.folders)
      ((navigator conv faults).host.reveal path offset) :=
    fun path offset => .orFail _ (reveal_keeps_folders path offset)
  have hshow : ∀ level message, Keeps (fun h => P h.folders)
      ((navigator conv faults).host.showMessage level message) :=
    fun level message => .orFail _ (showMessage_keeps_folders level message)
  cases s with
  | focus path offset text =>
    cases text with
    | none => exact .bind (focus_keeps_folders path offset) fun _ => .pure _
    | some text => exact .bind (focusText_keeps_folders path offset text) fun _ => .pure _
  | openDocument path => exact .bind (hopen path) fun _ => .pure _
  | toggle =>
    refine .bind (Navigator.keeps_toggle ?_ hshow) fun _ => .pure _
    exact Navigator.keeps_attempt heditor hroot hopen hreveal
  | candidates => exact .bind (Navigator.keeps_report heditor hroot) fun _ => .pure _
  | probe path =>
    refine .bind (.state_bind fun host _ => .bind (.note _) fun _ => ?_) fun _ => .pure _
    split
    · exact .pure _
    · exact .throw _
  | reveal path offset => exact .bind (hreveal path offset) fun _ => .pure _
  | setCursor | setPosition | setText | close =>
    exact .bind (.update fun _ h => h) fun _ => .pure _
  | rootFor path => exact .bind (hroot path) fun _ => .pure _
  | showMessage level message =>
    rw [Session.perform]
    cases MessageLevel.ofWord? level with
    | none => exact .throw _
    | some level => exact .bind (hshow level message) fun _ => .pure _
  | write | remove => exact .bind (changeFiles_keeps_folders _) fun _ => .pure _

end LocalHost

theorem mem_of_mapM_ok {ε α β : Type} {f : α → Except ε β} {l : List α} {l' : List β}
    (h : l.mapM f = .ok l') : ∀ b ∈ l', ∃ a ∈ l, f a = .ok b := by
  induction l generalizing l' with
  | nil =>
    obtain rfl := Except.ok.inj h
    exact fun _ hb => absurd hb List.not_mem_nil
  | cons a l ih =>
    rw [List.mapM_cons] at h
    cases hfirst : f a with
    | error e =>
      rw [hfirst] at h
      cases h
    | ok b =>
      cases hrest : l.mapM f with
      | error e =>
        rw [hfirst, hrest] at h
        cases h
      | ok rest =>
        rw [hfirst, hrest] at h
        obtain rfl := Except.ok.inj h
        intro b' hb'
        rcases List.mem_cons.1 hb' with rfl | hb'
        · exact ⟨a, List.mem_cons_self, hfirst⟩
        · obtain ⟨a', ha', he⟩ := ih hrest b' hb'
          exact ⟨a', List.mem_cons_of_mem a ha', he⟩

theorem exists_mapM_ok {ε α β : Type} {f : α → Except ε β} {l : List α}
    (h : ∀ a ∈ l, ∃ b, f a = .ok b) : ∃ l', l.mapM f = .ok l' := by
  induction l with
  | nil => exact ⟨[], rfl⟩
  | cons a l ih =>
    obtain ⟨b, hb⟩ := h a List.mem_cons_self
    obtain ⟨l', hl⟩ := ih fun a' ha' => h a' (List.mem_cons_of_mem a ha')
    refine ⟨b :: l', ?_⟩
    rw [List.mapM_cons, hb, hl]
    rfl

/-- The states that a host can be in, whatever the conventions and faults of each step. Between
steps the tree may become any other one. -/
inductive Visited : Journaled LocalHost → Prop where
  | create {display : Display} {files : FileTree} {folders : List Path} {withConsole : Bool}
      {host : LocalHost} (h : LocalHost.create display files folders withConsole = .ok host) :
      Visited host.journaled
  | step {w : Journaled LocalHost} (hw : Visited w) (conv : Conventions) (faults : Faults)
      (s : Step) : Visited (Session.step (LocalHost.navigator conv faults) w s).2
  | change {w : Journaled LocalHost} (hw : Visited w) (files : FileTree) :
      Visited { w with state := { w.state with files } }

end Counterpart
