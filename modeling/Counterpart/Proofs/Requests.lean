import Counterpart.Proofs.Probing

/-! What an attempt to navigate asks of an editor, whatever the editor does. Every request is
written down with what came of it, and the ways that an attempt can go are few. -/

namespace Counterpart

/-! ### Watched editors -/

/-- A request to an editor, with what came of it. -/
inductive Request where
  | activeEditor (answer : Except Failure (Option Document))
  | workspaceRootFor (path : Text) (answer : Except Failure (Option Path))
  | openDocument (path : Path) (answer : Except Failure Document)
  | reveal (path : Text) (offset : Int) (answer : Except Failure Unit)
  | showMessage (level : MessageLevel) (message : Text) (answer : Except Failure Unit)

def Request.failure? : Request → Option Failure
  | activeEditor (.error e) | workspaceRootFor _ (.error e) | openDocument _ (.error e)
  | reveal _ _ (.error e) | showMessage _ _ (.error e) => some e
  | _ => none

/-- The failures among what came of requests. -/
def raised (requests : List Request) : List Failure := requests.filterMap Request.failure?

/-- The state of an editor with the requests made so far. -/
structure Watched (σ : Type) where
  state : σ
  requests : List Request

def Journaled.watched {σ : Type} (w : Journaled σ) (requests : List Request) :
    Journaled (Watched σ) :=
  ⟨⟨w.state, requests⟩, w.journal⟩

/-- The same act, with the request written down when it is answered. -/
def Act.watched {σ α : Type} (request : Except Failure α → Request) (act : Act σ α) :
    Act (Watched σ) α :=
  ExceptT.mk do
    let w ← get
    let (answer, w') := act.run.run ⟨w.state.state, w.journal⟩
    set (w'.watched (w.state.requests ++ [request answer]))
    return answer

def EditorHost.watched {σ : Type} (host : EditorHost σ) : EditorHost (Watched σ) where
  activeEditor := host.activeEditor.watched .activeEditor
  workspaceRootFor path := (host.workspaceRootFor path).watched (.workspaceRootFor path)
  openDocument path := (host.openDocument path).watched (.openDocument path)
  reveal path offset := (host.reveal path offset).watched (.reveal path offset)
  showMessage level message := (host.showMessage level message).watched (.showMessage level message)

def Navigator.watched {σ : Type} (nav : Navigator σ) : Navigator (Watched σ) where
  host := nav.host.watched
  conventions := nav.conventions
  probe w := nav.probe w.state
  probeJournal := nav.probeJournal

/-- An act and the same act at the watched editor come to the same, by way of the same requests. -/
structure Asks {σ α : Type} (act : Act σ α) (watched : Act (Watched σ) α) (w : Journaled σ)
    (requests : List Request) (result : Except Failure α) (w' : Journaled σ) : Prop where
  plain : act.run.run w = (result, w')
  watched : ∀ earlier,
    watched.run.run (w.watched earlier) = (result, w'.watched (earlier ++ requests))

namespace Asks

variable {σ α β : Type} {act : Act σ α} {act' : Act (Watched σ) α} {w w' w'' : Journaled σ}
  {requests more : List Request} {result : Except Failure β}

theorem pure (a : α) : Asks (Pure.pure a : Act σ α) (Pure.pure a) w [] (.ok a) w :=
  ⟨rfl, fun earlier => by rw [List.append_nil]; rfl⟩

theorem throw (e : Failure) :
    Asks (MonadExcept.throw e : Act σ α) (MonadExcept.throw e) w [] (.error e) w :=
  ⟨rfl, fun earlier => by rw [List.append_nil]; rfl⟩

theorem request (request : Except Failure α → Request) {answer : Except Failure α}
    (h : act.run.run w = (answer, w')) :
    Asks act (act.watched request) w [request answer] answer w' := by
  refine ⟨h, fun earlier => ?_⟩
  have hrun : (act.watched request).run.run (w.watched earlier) =
      ((act.run.run w).1, (act.run.run w).2.watched
        (earlier ++ [request (act.run.run w).1])) := rfl
  rw [hrun, h]

theorem bind {next : α → Act σ β} {next' : α → Act (Watched σ) β} {a : α}
    (h : Asks act act' w requests (.ok a) w') (hn : Asks (next a) (next' a) w' more result w'') :
    Asks (act >>= next) (act' >>= next') w (requests ++ more) result w'' where
  plain := (Act.run_bind_of_ok next h.plain).trans hn.plain
  watched earlier := by
    rw [Act.run_bind_of_ok next' (h.watched earlier), hn.watched, List.append_assoc]

theorem bind_error (next : α → Act σ β) (next' : α → Act (Watched σ) β) {e : Failure}
    (h : Asks act act' w requests (.error e) w') :
    Asks (act >>= next) (act' >>= next') w requests (.error e) w' where
  plain := Act.run_bind_of_error next h.plain
  watched earlier := Act.run_bind_of_error next' (h.watched earlier)

theorem note (events : List Event) : Asks (Act.note events : Act σ Unit) (Act.note events) w []
    (.ok ()) { w with journal := w.journal ++ events } :=
  ⟨rfl, fun earlier => by rw [List.append_nil]; rfl⟩

theorem note_bind {events : List Event} {next : Unit → Act σ β}
    {next' : Unit → Act (Watched σ) β}
    (h : Asks (next ()) (next' ()) { w with journal := w.journal ++ events } more result w') :
    Asks (Act.note events >>= next) (Act.note events >>= next') w more result w' where
  plain := (Act.run_note_bind events next w).trans h.plain
  watched earlier := (Act.run_note_bind events next' (w.watched earlier)).trans (h.watched earlier)

theorem tryCatch_ok {act : Act σ β} {act' : Act (Watched σ) β} (handle : Failure → Act σ β)
    (handle' : Failure → Act (Watched σ) β) {b : β} (h : Asks act act' w requests (.ok b) w') :
    Asks (MonadExcept.tryCatch act handle) (MonadExcept.tryCatch act' handle') w requests
      (.ok b) w' where
  plain := Act.run_tryCatch_of_ok handle h.plain
  watched earlier := Act.run_tryCatch_of_ok handle' (h.watched earlier)

theorem tryCatch_error {act : Act σ β} {act' : Act (Watched σ) β} {handle : Failure → Act σ β}
    {handle' : Failure → Act (Watched σ) β} {e : Failure}
    (h : Asks act act' w requests (.error e) w')
    (hh : Asks (handle e) (handle' e) w' more result w'') :
    Asks (MonadExcept.tryCatch act handle) (MonadExcept.tryCatch act' handle') w
      (requests ++ more) result w'' where
  plain := (Act.run_tryCatch_of_error handle h.plain).trans hh.plain
  watched earlier := by
    rw [Act.run_tryCatch_of_error handle' (h.watched earlier), hh.watched, List.append_assoc]

end Asks

theorem Lookup.find_kind {conv : Conventions} {doc : Document} {root : Path} {found : Lookup}
    (h : Lookup.find conv doc root = .ok found) :
    found.kind = .controller ∨ found.kind = .view := by
  rcases find_cases h with ⟨_, _, -, -, -, rfl⟩ | ⟨_, _, -, -, rfl⟩
  · exact .inl rfl
  · exact .inr rfl

namespace Navigator

variable {σ : Type} (nav : Navigator σ)

theorem probeAll_asks (candidates : List Path) (w : Journaled σ) :
    ∃ journal, Asks (nav.probeAll candidates) (nav.watched.probeAll candidates) w []
      (collect (candidates.map fun p => ⟨p, nav.probe w.state p⟩)) ⟨w.state, journal⟩ := by
  have horder := List.Perm.refl (List.range candidates.length)
  have hplain := nav.probeAll_run horder w
  rw [Counterpart.probeAll, gather_eq_map horder] at hplain
  refine ⟨_, hplain, fun earlier => ?_⟩
  rw [nav.watched.probeAll_run horder, List.append_nil, Counterpart.probeAll,
    gather_eq_map horder]
  rfl

/-! ### Ways to go -/

/-- How finding the focused document and its workspace root can go: what the editor holds, the
request for a root if there is one, and what comes of it. -/
inductive Focuses (w : Journaled σ) :
    Except Failure (Option Document) → List Request → Except Failure (Document × Path) →
      Journaled σ → Prop where
  | failed {e : Failure} {w₁ : Journaled σ}
      (h : nav.host.activeEditor.run.run w = (.error e, w₁)) : Focuses w (.error e) [] (.error e) w₁
  | noEditor {w₁ : Journaled σ} (h : nav.host.activeEditor.run.run w = (.ok none, w₁)) :
      Focuses w (.ok none) [] (.error (.navigation .noActiveEditor)) w₁
  | rootFailed {doc : Document} {e : Failure} {w₁ w₂ : Journaled σ}
      (h : nav.host.activeEditor.run.run w = (.ok (some doc), w₁))
      (hr : (nav.host.workspaceRootFor (forwardSlashes doc.path)).run.run w₁ = (.error e, w₂)) :
      Focuses w (.ok (some doc)) [.workspaceRootFor (forwardSlashes doc.path) (.error e)]
        (.error e) w₂
  | noRoot {doc : Document} {w₁ w₂ : Journaled σ}
      (h : nav.host.activeEditor.run.run w = (.ok (some doc), w₁))
      (hr : (nav.host.workspaceRootFor (forwardSlashes doc.path)).run.run w₁ = (.ok none, w₂)) :
      Focuses w (.ok (some doc)) [.workspaceRootFor (forwardSlashes doc.path) (.ok none)]
        (.error (.navigation .outsideWorkspace)) w₂
  | focused {doc : Document} {root : Path} {w₁ w₂ : Journaled σ}
      (h : nav.host.activeEditor.run.run w = (.ok (some doc), w₁))
      (hr : (nav.host.workspaceRootFor (forwardSlashes doc.path)).run.run w₁ =
        (.ok (some root), w₂)) :
      Focuses w (.ok (some doc)) [.workspaceRootFor (forwardSlashes doc.path) (.ok (some root))]
        (.ok (doc, root)) w₂

/-- The entries for the candidates while the editor is in a given state, once all probes have
finished. A probe that fails leaves its candidate not found. -/
def results (s : σ) (found : Lookup) : List ProbeResult :=
  found.candidates.map fun p => (Settled.mk p (nav.probe s p)).result

def firstOf (s : σ) (found : Lookup) : Option Path := firstFound? (nav.results s found)

/-- How it can go on from a counterpart just opened: the request for its cursor if there is one. -/
inductive Lands (found : Lookup) (doc : Document) (s : σ) :
    List Request → Except Failure Outcome → σ → Prop where
  | view (hk : found.kind = .controller) :
      Lands found doc s []
        (.ok (.ofDocument .opened ("Opened view: " ++ found.action) doc found.action)) s
  | notLocated (hk : found.kind = .view)
      (ho : methodOffset? nav.conventions doc.text found.action = none) :
      Lands found doc s []
        (.ok (.ofDocument .partly ("Opened controller (action " ++ found.action ++ " not found)")
          doc found.action)) s
  | revealFailed {offset : Nat} {journal : List Event} {e : Failure} {w : Journaled σ}
      (hk : found.kind = .view)
      (ho : methodOffset? nav.conventions doc.text found.action = some offset)
      (hr : (nav.host.reveal doc.path offset).run.run ⟨s, journal⟩ = (.error e, w)) :
      Lands found doc s [.reveal doc.path offset (.error e)] (.error e) w.state
  | revealed {offset : Nat} {journal : List Event} {w : Journaled σ}
      (hk : found.kind = .view)
      (ho : methodOffset? nav.conventions doc.text found.action = some offset)
      (hr : (nav.host.reveal doc.path offset).run.run ⟨s, journal⟩ = (.ok (), w)) :
      Lands found doc s [.reveal doc.path offset (.ok ())]
        (.ok (.ofDocument .opened ("Jumped to action: " ++ found.action)
          { doc with cursor := (offset : Int) } found.action)) w.state

/-- How an attempt can go: what the editor holds, the requests for a root, for a file and for its
cursor, what it comes to, and the state that it ends in. -/
inductive Attempts (w : Journaled σ) :
    Except Failure (Option Document) → List Request → List Request → List Request →
      Except Failure Outcome → σ → Prop where
  | unfocused {editor : Except Failure (Option Document)} {roots : List Request} {e : Failure}
      {w₁ : Journaled σ} (h : nav.Focuses w editor roots (.error e) w₁) :
      Attempts w editor roots [] [] (.error e) w₁.state
  | unspelled {editor : Except Failure (Option Document)} {roots : List Request} {doc : Document}
      {root : Path} {w₁ : Journaled σ} (h : nav.Focuses w editor roots (.ok (doc, root)) w₁)
      (hd : doc.isSpelled = false) : Attempts w editor roots [] [] (.error .longNumeral) w₁.state
  | unsought {editor : Except Failure (Option Document)} {roots : List Request} {doc : Document}
      {root : Path} {e : NavigationError} {w₁ : Journaled σ}
      (h : nav.Focuses w editor roots (.ok (doc, root)) w₁) (hd : doc.isSpelled = true)
      (hf : Lookup.find nav.conventions doc root = .error e) :
      Attempts w editor roots [] [] (.error (.navigation e)) w₁.state
  | cancelled {editor : Except Failure (Option Document)} {roots : List Request} {doc : Document}
      {root : Path} {found : Lookup} {w₁ : Journaled σ}
      (h : nav.Focuses w editor roots (.ok (doc, root)) w₁) (hd : doc.isSpelled = true)
      (hf : Lookup.find nav.conventions doc root = .ok found)
      (hp : ∃ p ∈ found.candidates, (Settled.mk p (nav.probe w₁.state p)).isCancelled = true) :
      Attempts w editor roots [] [] (.error (.cancelled "")) w₁.state
  | notFound {editor : Except Failure (Option Document)} {roots : List Request} {doc : Document}
      {root : Path} {found : Lookup} {w₁ : Journaled σ}
      (h : nav.Focuses w editor roots (.ok (doc, root)) w₁) (hd : doc.isSpelled = true)
      (hf : Lookup.find nav.conventions doc root = .ok found)
      (hn : nav.firstOf w₁.state found = none) :
      Attempts w editor roots [] [] (.error (.navigation (Navigator.notFound found))) w₁.state
  | openFailed {editor : Except Failure (Option Document)} {roots : List Request} {doc : Document}
      {root path : Path} {found : Lookup} {e : Failure} {journal : List Event}
      {w₁ w₂ : Journaled σ} (h : nav.Focuses w editor roots (.ok (doc, root)) w₁)
      (hd : doc.isSpelled = true) (hf : Lookup.find nav.conventions doc root = .ok found)
      (hn : nav.firstOf w₁.state found = some path)
      (ho : (nav.host.openDocument path).run.run ⟨w₁.state, journal⟩ = (.error e, w₂)) :
      Attempts w editor roots [.openDocument path (.error e)] [] (.error e) w₂.state
  | opened {editor : Except Failure (Option Document)} {roots reveals : List Request}
      {doc opened : Document} {root path : Path} {found : Lookup} {journal : List Event}
      {w₁ w₂ : Journaled σ} {result : Except Failure Outcome} {s : σ}
      (h : nav.Focuses w editor roots (.ok (doc, root)) w₁) (hd : doc.isSpelled = true)
      (hf : Lookup.find nav.conventions doc root = .ok found)
      (hn : nav.firstOf w₁.state found = some path)
      (ho : (nav.host.openDocument path).run.run ⟨w₁.state, journal⟩ = (.ok opened, w₂))
      (hl : nav.Lands found opened w₂.state reveals result s) :
      Attempts w editor roots [.openDocument path (.ok opened)] reveals result s

variable (w : Journaled σ)

theorem exists_focuses : ∃ editor roots result w₁, nav.Focuses w editor roots result w₁ ∧
    Asks nav.focused nav.watched.focused w (.activeEditor editor :: roots) result w₁ := by
  rcases hr : nav.host.activeEditor.run.run w with ⟨editor, w₁⟩
  have heditor := Asks.request Request.activeEditor hr
  rcases editor with e | _ | doc
  · exact ⟨_, _, _, _, .failed hr, .bind_error _ _ heditor⟩
  · exact ⟨_, _, _, _, .noEditor hr, .bind heditor (.throw _)⟩
  rcases hr' : (nav.host.workspaceRootFor (forwardSlashes doc.path)).run.run w₁ with ⟨root, w₂⟩
  have hroot := Asks.request (Request.workspaceRootFor (forwardSlashes doc.path)) hr'
  rcases root with e | _ | root
  · exact ⟨_, _, _, _, .rootFailed hr hr', .bind heditor (.bind_error _ _ hroot)⟩
  · exact ⟨_, _, _, _, .noRoot hr hr', .bind heditor (.bind hroot (.throw _))⟩
  · exact ⟨_, _, _, _, .focused hr hr', .bind heditor (.bind hroot (.pure _))⟩

theorem firstExisting_asks (found : Lookup) : ∃ journal,
    (∃ p ∈ found.candidates, (Settled.mk p (nav.probe w.state p)).isCancelled = true) ∧
        Asks (nav.firstExisting found.candidates) (nav.watched.firstExisting found.candidates) w []
          (.error (.cancelled "")) ⟨w.state, journal⟩ ∨
      Asks (nav.firstExisting found.candidates) (nav.watched.firstExisting found.candidates) w []
        (.ok (nav.firstOf w.state found)) ⟨w.state, journal⟩ := by
  obtain ⟨journal, hall⟩ := nav.probeAll_asks found.candidates w
  by_cases hp : ∃ p ∈ found.candidates, (Settled.mk p (nav.probe w.state p)).isCancelled = true
  · rw [collect_of_cancelled (by simpa using hp)] at hall
    exact ⟨journal, .inl ⟨hp, .bind_error _ _ hall⟩⟩
  · rw [collect_of_not_cancelled (by simpa using hp), List.map_map] at hall
    exact ⟨_, .inr (.bind hall (.note_bind (.pure _)))⟩

theorem exists_lands {found : Lookup} (hk : found.kind = .controller ∨ found.kind = .view)
    (doc : Document) : ∃ reveals result s, nav.Lands found doc w.state reveals result s ∧
      ∃ journal, Asks
        (match found.kind with
          | .controller =>
            return .ofDocument .opened ("Opened view: " ++ found.action) doc found.action
          | _ => nav.jumpTo doc found.action)
        (match found.kind with
          | .controller =>
            return .ofDocument .opened ("Opened view: " ++ found.action) doc found.action
          | _ => nav.watched.jumpTo doc found.action)
        w reveals result ⟨s, journal⟩ := by
  rcases hk with hk | hk
  · rw [hk]
    exact ⟨_, _, _, .view hk, _, .pure _⟩
  rw [hk]
  dsimp only
  rw [jumpTo, jumpTo, show nav.watched.conventions = nav.conventions from rfl]
  cases ho : methodOffset? nav.conventions doc.text found.action with
  | none => exact ⟨_, _, _, .notLocated hk ho, _, .note_bind (.pure _)⟩
  | some offset =>
    rcases hr : (nav.host.reveal doc.path offset).run.run
      ⟨w.state, w.journal ++ [.ofMethodOffset found.action (some offset)]⟩ with ⟨answer, w'⟩
    have hreveal := Asks.request (Request.reveal doc.path offset) hr
    rcases answer with e | ⟨⟩
    · exact ⟨_, _, _, .revealFailed hk ho hr, _, .note_bind (.bind_error _ _ hreveal)⟩
    · exact ⟨_, _, _, .revealed hk ho hr, _, .note_bind (.bind hreveal (.pure _))⟩

theorem lookup_asks (doc : Document) (root : Path) : ∃ journal,
    Asks (nav.lookup doc root) (nav.watched.lookup doc root) w []
      ((Lookup.find nav.conventions doc root).mapError Failure.navigation)
      ⟨w.state, journal⟩ := by
  rw [lookup, lookup, show nav.watched.conventions = nav.conventions from rfl]
  cases Lookup.find nav.conventions doc root with
  | error e => exact ⟨_, .note_bind (.throw (.navigation e))⟩
  | ok found => exact ⟨_, .note_bind (.pure found)⟩

theorem start_asks {doc : Document} (hd : doc.isSpelled = true) :
    Asks (start doc : Act σ Unit) (start doc) w [] (.ok ())
      { w with journal := w.journal ++ [.navigationStarted doc.path doc.cursor] } := by
  rw [start, start, if_pos hd, if_pos hd]
  exact .note _

theorem start_asks_of_unspelled {doc : Document} (hd : doc.isSpelled = false) :
    Asks (start doc : Act σ Unit) (start doc) w [] (.error .longNumeral) w := by
  rw [start, start, if_neg (by simp [hd]), if_neg (by simp [hd])]
  exact .throw _

/-- Every attempt goes one of these ways. -/
theorem exists_attempts : ∃ editor roots opens reveals result s,
    nav.Attempts w editor roots opens reveals result s ∧
    ∃ journal, Asks nav.attempt nav.watched.attempt w
      (.activeEditor editor :: (roots ++ opens ++ reveals)) result ⟨s, journal⟩ := by
  -- The journal grows between the requests, so what is known of it is only that there is one.
  obtain ⟨editor, roots, focus, w₁, hfocus, hasks⟩ := nav.exists_focuses w
  rcases focus with e | ⟨doc, root⟩
  · refine ⟨_, _, [], [], _, _, .unfocused hfocus, w₁.journal, ?_⟩
    rw [List.append_nil, List.append_nil]
    exact .bind_error _ _ hasks
  cases hd : doc.isSpelled with
  | false =>
    refine ⟨_, _, [], [], _, _, .unspelled hfocus hd, w₁.journal, ?_⟩
    rw [List.append_nil]
    exact .bind hasks (.bind_error _ _ (start_asks_of_unspelled w₁ hd))
  | true =>
  have hstart := start_asks w₁ hd
  obtain ⟨journal, hlookup⟩ := nav.lookup_asks
    { w₁ with journal := w₁.journal ++ [.navigationStarted doc.path doc.cursor] } doc root
  cases hf : Lookup.find nav.conventions doc root with
  | error e =>
    rw [hf] at hlookup
    refine ⟨_, _, [], [], _, _, .unsought hfocus hd hf, journal, ?_⟩
    rw [List.append_nil]
    exact .bind hasks (.bind hstart (.bind_error _ _ hlookup))
  | ok found =>
    rw [hf] at hlookup
    obtain ⟨journal', ⟨hp, hfirst⟩ | hfirst⟩ := nav.firstExisting_asks ⟨w₁.state, journal⟩ found
    · refine ⟨_, _, [], [], _, _, .cancelled hfocus hd hf hp, journal', ?_⟩
      rw [List.append_nil]
      exact .bind hasks (.bind hstart (.bind hlookup (.bind_error _ _ hfirst)))
    cases hn : nav.firstOf w₁.state found with
    | none =>
      rw [hn] at hfirst
      refine ⟨_, _, [], [], _, _, .notFound hfocus hd hf hn, journal', ?_⟩
      rw [List.append_nil]
      exact .bind hasks (.bind hstart (.bind hlookup (.bind hfirst (.throw _))))
    | some path =>
      rw [hn] at hfirst
      rcases hr : (nav.host.openDocument path).run.run ⟨w₁.state, journal'⟩ with ⟨answer, w₂⟩
      have hopen := Asks.request (Request.openDocument path) hr
      rcases answer with e | opened
      · refine ⟨_, _, _, [], _, _, .openFailed hfocus hd hf hn hr, w₂.journal, ?_⟩
        rw [List.append_nil]
        exact .bind hasks (.bind hstart (.bind hlookup (.bind hfirst (.bind_error _ _ hopen))))
      · obtain ⟨reveals, result, s, hlands, journal'', hland⟩ :=
          nav.exists_lands w₂ (Lookup.find_kind hf) opened
        refine ⟨_, _, _, _, _, _, .opened hfocus hd hf hn hr hlands, journal'', ?_⟩
        have hlist : Request.activeEditor editor ::
            (roots ++ [.openDocument path (.ok opened)] ++ reveals) =
              (.activeEditor editor :: roots) ++
                ([] ++ ([] ++ ([] ++ ([.openDocument path (.ok opened)] ++ reveals)))) := by
          simp
        rw [hlist]
        exact .bind hasks (.bind hstart (.bind hlookup (.bind hfirst (.bind hopen hland))))

end Navigator
end Counterpart
