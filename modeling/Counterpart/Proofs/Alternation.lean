import Counterpart.Proofs.PlainHost

/-! Toggles from a view and back. A controller that was opened from a view leads back to the views
of the same action, and from there to itself, so that a session of toggles goes to and fro between
two documents. -/

namespace Counterpart

open Conventions

/-! ### Views and controllers at real places -/

theorem exists_of_after?_slashed {dir found : Text} {names : List Text} {acceptable : Text → Bool}
    (hd : '/' ∉ dir) (h : ∀ name ∈ names, IsName name)
    (ha : Text.after? ('/' :: (dir ++ ['/'])) acceptable (slashed names) = some found) :
    ∃ before below, names = before ++ dir :: below ∧ below ≠ [] ∧
      found = Text.joinWith "/" below := by
  induction names with
  | nil => cases ha
  | cons name names ih =>
    rw [after?_slashed_cons hd (h name List.mem_cons_self).slash] at ha
    split at ha
    · next hall =>
      obtain ⟨rfl, hne, -⟩ := hall
      exact ⟨[], names, rfl, hne, (Option.some.inj ha).symm⟩
    · obtain ⟨before, below, rfl, hne, rfl⟩ :=
        ih (fun other hother => h other (List.mem_cons_of_mem _ hother)) ha
      exact ⟨name :: before, below, rfl, hne, rfl⟩

theorem Place.ne_nil_of_view {place : Place} (h : classify .standard place.path.text = .view) :
    place ≠ [] := by
  rintro rfl
  exact absurd h (by decide)

theorem names_of_viewTarget {place root : Place} (hp : place.IsReal) (hr : root.IsReal)
    (hin : contains root.path.text place.path.text) {identity action : Text}
    (hk : classify .standard place.path.text = .view)
    (ht : viewTarget? .standard place.path.text root.path.text = some (identity, action)) :
    ∃ names, names ≠ [] ∧ (∀ name ∈ names, IsName name) ∧ identity = Text.joinWith "/" names ∧
      action ≠ [] ∧ action.all isWord := by
  obtain ⟨more, hmore, rfl⟩ := (hr.contains_iff hp (Place.ne_nil_of_view hk)).1 hin
  obtain ⟨dirs, file, rfl⟩ := (List.eq_nil_or_concat' more).resolve_left hmore
  have hdirs : ∀ name ∈ dirs, IsName name := fun name hname => hp name (by simp [hname])
  have htarget := viewTarget?_below root.path hdirs (hp file (by simp))
  replace htarget := ht.symm.trans htarget
  obtain ⟨name, hname, hafter⟩ := Option.bind_eq_some_iff.1 htarget.symm
  obtain ⟨found, hfound, he⟩ := Option.map_eq_some_iff.1 hafter
  obtain ⟨rfl, rfl⟩ := Prod.mk.inj he
  obtain ⟨before, names, rfl, hnames, rfl⟩ :=
    exists_of_after?_slashed isName_viewsDir.slash hdirs hfound
  exact ⟨names, hnames, fun name hname => hdirs name (by simp [hname]), rfl,
    isWord_actionOf hname⟩

section

variable {root : Place} {names : List Text} {p : Path}

/-- What lies below a root of an identity is a real place below the workspace. -/
theorem exists_place_below (more : List Text) {base : Path} (hr : root.IsReal)
    (h : ∀ name ∈ names, IsName name)
    (hb : base ∈ searchRoots .standard root.path (Text.joinWith "/" names))
    (hm : ∀ name ∈ more, IsName name) (hne : more ≠ []) :
    ∃ place : Place, (⟨base.anchor, base.segments ++ more⟩ : Path) = place.path ∧ place.IsReal ∧
      place ≠ [] ∧ contains root.path.text place.path.text := by
  obtain ⟨extra, rfl, hextra⟩ : ∃ extra, base = ⟨.root, root ++ extra⟩ ∧
      ∀ name ∈ extra, IsName name := by
    rcases mem_searchRoots h hb with rfl | ⟨dir, hdir, name, rest, rfl, -, rfl⟩
    · exact ⟨[], by rw [List.append_nil]; rfl, by simp⟩
    · exact ⟨[dir, name], rfl, by
        simpa using ⟨isName_multiRootDir hdir, h name List.mem_cons_self⟩⟩
  have hreal : Place.IsReal (root ++ extra ++ more) := fun name hname => by
    rcases List.mem_append.1 hname with hname | hname
    · exact (List.mem_append.1 hname).elim (hr name) (hextra name)
    · exact hm name hname
  refine ⟨root ++ extra ++ more, rfl, hreal, by simp [hne], ?_⟩
  exact (hr.contains_iff hreal (by simp [hne])).2 ⟨extra ++ more, by simp [hne],
    List.append_assoc _ _ _⟩

theorem root_eq_or_head_ne {base : Path} {dir : Text} (h : ∀ name ∈ names, IsName name)
    (hn : namespace? (Text.joinWith "/" names) ≠ some dir)
    (hb : base ∈ searchRoots .standard root.path (Text.joinWith "/" names)) :
    base = root.path ∨ names.head? ≠ some dir := by
  refine (mem_searchRoots h hb).imp_right ?_
  rintro ⟨-, -, name, rest, rfl, hrest, -⟩
  rw [namespace?_joinWith h, if_neg hrest] at hn
  simpa using hn

theorem controller_place (hr : root.IsReal) (hne : names ≠ []) (h : ∀ name ∈ names, IsName name)
    (hn : namespace? (Text.joinWith "/" names) ≠ some standard.controllersDir)
    (hp : p ∈ controllerCandidates .standard
      (searchRoots .standard root.path (Text.joinWith "/" names)) (Text.joinWith "/" names)) :
    ∃ place : Place, p = place.path ∧ place.IsReal ∧ place ≠ [] ∧
      contains root.path.text place.path.text ∧
      classify .standard place.path.text = .controller ∧
      controllerIdentity? .standard place.path.text root.path.text =
        some (Text.joinWith "/" names) := by
  obtain ⟨base, hbase, hp⟩ := List.mem_map.1 hp
  replace hp : p ∈ controllerCandidates .standard [base] (Text.joinWith "/" names) :=
    List.mem_map.2 ⟨base, List.mem_singleton_self base, hp⟩
  obtain ⟨hclass, hread⟩ := controller_read_back hne h hbase hp
  obtain ⟨dirs, stem, rfl⟩ := (List.eq_nil_or_concat' names).resolve_left hne
  obtain ⟨base', hmem, rfl⟩ := (mem_controllerCandidates h).1 hp
  obtain rfl : base = base' := (List.mem_singleton.1 hmem).symm
  have hfile := (h stem (by simp)).controllerFile
  obtain ⟨place, hplace, hreal, hne', hin⟩ := exists_place_below
    ([standard.appDir, standard.controllersDir] ++ dirs ++ [stem ++ standard.controllerFileSuffix])
    hr h hbase
    (by simpa [or_imp, forall_and] using ⟨isName_appDir, isName_controllersDir,
      fun name hname => h name (by simp [hname]), hfile⟩) (by simp)
  rw [hplace] at hclass hread ⊢
  exact ⟨place, rfl, hreal, hne', hin, hclass, hread.2 (root_eq_or_head_ne h hn hbase)⟩

theorem view_place {action : Text} (hr : root.IsReal) (hne : names ≠ [])
    (h : ∀ name ∈ names, IsName name) (ha : action ≠ []) (hw : action.all isWord)
    (hn : namespace? (Text.joinWith "/" names) ≠ some standard.viewsDir)
    (hp : p ∈ viewCandidates .standard
      (searchRoots .standard root.path (Text.joinWith "/" names)) (Text.joinWith "/" names)
      action) :
    ∃ place : Place, p = place.path ∧ place.IsReal ∧ place ≠ [] ∧
      contains root.path.text place.path.text ∧
      classify .standard place.path.text = .view ∧
      viewTarget? .standard place.path.text root.path.text =
        some (Text.joinWith "/" names, action) := by
  obtain ⟨base, hbase, hp⟩ := List.mem_flatMap.1 hp
  replace hp : p ∈ viewCandidates .standard [base] (Text.joinWith "/" names) action :=
    List.mem_flatMap.2 ⟨base, List.mem_singleton_self base, hp⟩
  obtain ⟨hclass, hread⟩ := view_read_back hne h ha hw hbase hp
  have haction := IsName.of_isWord ha hw
  obtain ⟨base', hmem, extension, he, rfl⟩ := (mem_viewCandidates hne h haction).1 hp
  obtain rfl : base = base' := (List.mem_singleton.1 hmem).symm
  obtain ⟨hs, hb, hn', -⟩ := extension_cases extension he
  obtain ⟨place, hplace, hreal, hne', hin⟩ := exists_place_below
    ([standard.appDir, standard.viewsDir] ++ names ++ [action ++ extension]) hr h hbase
    (by simpa [or_imp, forall_and] using
      ⟨isName_appDir, isName_viewsDir, h, haction.append hs hb hn'⟩)
    (by simp)
  rw [hplace] at hclass hread ⊢
  exact ⟨place, rfl, hreal, hne', hin, hclass, hread.2 (root_eq_or_head_ne h hn hbase)⟩

end

/-! ### Lookups by kind -/

namespace Lookup

variable {conv : Conventions} {doc : Document} {root : Path}

theorem find_view {found : Lookup} (h : find conv doc root = .ok found) (hk : found.kind = .view) :
    classify conv (forwardSlashes doc.path) = .view ∧
      viewTarget? conv (forwardSlashes doc.path) root.text =
        some (found.identity, found.action) ∧
      found = ofTarget conv root found.identity found.action := by
  rw [find] at h
  split at h
  · split at h
    · cases h
    split at h
    · cases h
    · rw [← Except.ok.inj h] at hk
      cases hk
  · next hclass =>
    split at h
    · cases h
    · next identity action htarget =>
      obtain rfl := Except.ok.inj h
      exact ⟨hclass, htarget, rfl⟩
  · cases h

theorem find_of_view {identity action : Text} (hs : forwardSlashes doc.path = doc.path)
    (hc : classify conv doc.path = .view)
    (ht : viewTarget? conv doc.path root.text = some (identity, action)) :
    find conv doc root = .ok (ofTarget conv root identity action) := by
  rw [find, hs]
  rw [hc, ht]

theorem find_of_controller {identity action : Text} (hs : forwardSlashes doc.path = doc.path)
    (hc : classify conv doc.path = .controller)
    (hi : controllerIdentity? conv doc.path root.text = some identity)
    (ha : enclosingMethod? conv doc.text doc.cursor = some action) :
    find conv doc root = .ok (ofAction conv root identity action) := by
  rw [find, hs]
  rw [hc, hi, ha]

end Lookup

/-! ### Toggles at a host -/

namespace LocalHost

/-- A host as it is, but for what it has shown, when a document is the active one. -/
structure Shows (host h : LocalHost) (doc : Document) : Prop where
  files : h.files = host.files
  folders : h.folders = host.folders
  active : h.active = some doc

variable {host h : LocalHost} {conv : Conventions}

theorem Shows.toggled {doc doc' : Document} {outcome : Outcome} (hs : Shows host h doc)
    (ha : h.attempted conv = .ok (outcome, doc')) :
    (h.toggled conv).1 = outcome ∧ Shows host (h.toggled conv).2 doc' := by
  rw [LocalHost.toggled, ha]
  exact ⟨rfl, hs.files, hs.folders, rfl⟩

theorem Shows.isSpelled {doc : Document} (hs : Shows host h doc) (hd : doc.isSpelled = true) :
    ∀ doc', h.active = some doc' → doc'.isSpelled = true := by
  intro doc' hdoc
  rwa [← Option.some.inj (hs.active.symm.trans hdoc)]

theorem arrival_opened {found : Lookup} {doc : Document} (hk : found.kind = .view)
    (ho : (arrival conv found doc).1.status = .opened) :
    ∃ offset : Nat, methodOffset? conv doc.text found.action = some offset ∧
      arrival conv found doc =
        (.ofDocument .opened ("Jumped to action: " ++ found.action)
          { doc with cursor := (offset : Int) } found.action,
            { doc with cursor := (offset : Int) }) := by
  rw [arrival, hk] at ho ⊢
  dsimp only at ho ⊢
  cases hoffset : methodOffset? conv doc.text found.action with
  | none =>
    rw [hoffset] at ho
    cases ho
  | some offset => exact ⟨offset, rfl, rfl⟩

theorem Shows.focused {doc : Document} (hs : Shows host h doc)
    (hf : ∀ f ∈ host.folders, IsRealText f)
    (hout : Unnested host.folders) {root place : Place} (hr : root.IsReal)
    (hroot : root.path.text ∈ host.folders) (hp : place.IsReal) (hne : place ≠ [])
    (hin : contains root.path.text place.path.text) (hpath : doc.path = place.path.text) :
    h.focused = .ok (doc, root.path) := by
  rw [LocalHost.focused, hs.active]
  dsimp only
  rw [hpath, hp.forwardSlashes_text, hs.folders,
    innermostRoot?_of_unnested hf hout hroot hp hne hin]
  exact congrArg (fun p => Except.ok (doc, p)) hr.ofText_text

theorem loaded_place (hl : host.files.LinkFree) {place : Place} (hp : place.IsReal)
    {doc : Document} (h : host.loaded place.path = .ok doc) :
    ∃ text, doc = ⟨place.path.text, text, 0⟩ := by
  obtain ⟨text, real, -, hreal, rfl⟩ := loaded_ok h
  obtain rfl := Except.ok.inj ((hl.resolve_path hp).symm.trans hreal)
  exact ⟨text, by rw [hp.forwardSlashes_text]⟩

theorem Shows.sought {doc : Document} (hs : Shows host h doc)
    (hf : ∀ f ∈ host.folders, IsRealText f)
    (hout : Unnested host.folders) {root place : Place} (hr : root.IsReal)
    (hroot : root.path.text ∈ host.folders) (hp : place.IsReal) (hne : place ≠ [])
    (hin : contains root.path.text place.path.text) (hpath : doc.path = place.path.text) :
    h.sought conv = Lookup.find conv doc root.path := by
  rw [LocalHost.sought, hs.focused hf hout hr hroot hp hne hin hpath]

theorem opened_on_action {found : Lookup} (hs : host.sought conv = .ok found)
    (hk : found.kind = .view) (ho : (host.toggled conv).1.status = .opened) :
    ∃ path doc, ∃ offset : Nat, found.candidates.find? host.files.holds = some path ∧
      host.loaded path = .ok doc ∧ methodOffset? conv doc.text found.action = some offset ∧
      host.attempted conv =
        .ok (.ofDocument .opened ("Jumped to action: " ++ found.action)
          { doc with cursor := (offset : Int) } found.action,
            { doc with cursor := (offset : Int) }) := by
  rw [toggled] at ho
  cases ha : host.attempted conv with
  | error e =>
    rw [ha] at ho
    cases e <;> cases ho
  | ok arrived =>
    obtain ⟨outcome, last⟩ := arrived
    rw [ha] at ho
    obtain ⟨found, path, doc, hs', hfind, hload, harrival⟩ := attempted_ok ha
    obtain rfl := Except.ok.inj (hs.symm.trans (started_ok hs').1)
    obtain ⟨offset, hoffset, harrival'⟩ := arrival_opened hk (harrival ▸ ho)
    rw [harrival] at harrival'
    exact ⟨path, doc, offset, hfind, hload, hoffset, congrArg Except.ok harrival'⟩

/-- An attempt that looks for the views of an action opens the first of them, or it fails because
the cursor cannot be written, because there is no view or because that one cannot be read. -/
theorem toggled_of_action {root : Path} {identity action : Text}
    (hs : h.sought conv = .ok (.ofAction conv root identity action)) :
    ((h.toggled conv).1.errorKind = none ∨ (h.toggled conv).1.errorKind = some .notFound) ∧
      ((h.toggled conv).1.status ≠ .failed → ∃ path view,
        (viewCandidates conv (searchRoots conv root identity) identity action).find?
            h.files.holds = some path ∧
          h.loaded path = .ok view ∧
          h.attempted conv =
            .ok (.ofDocument .opened ("Opened view: " ++ action) view action, view)) := by
  rw [toggled]
  rcases started_cases hs with hs | hs
  case inr =>
    rw [attempted, hs]
    exact ⟨.inl rfl, fun hfailed => absurd rfl hfailed⟩
  cases hfind : (viewCandidates conv (searchRoots conv root identity) identity action).find?
      h.files.holds with
  | none =>
    rw [attempted_of_none hs hfind]
    exact ⟨.inr rfl, fun hfailed => absurd rfl hfailed⟩
  | some path =>
    have hattempt := attempted_of_some hs hfind
    cases hload : h.loaded path with
    | error e =>
      rw [hattempt, hload]
      exact ⟨.inl (loaded_error hload).2, fun hfailed => absurd (by cases e <;> rfl) hfailed⟩
    | ok view =>
      rw [hload] at hattempt
      rw [hattempt]
      exact ⟨.inl rfl, fun _ => ⟨path, view, rfl, hload, rfl⟩⟩

end LocalHost

/-- Two things in turn. -/
def alternate {α : Type} (a b : α) : Nat → List α
  | 0 => []
  | n + 1 => a :: alternate b a n

theorem map_alternate {α β : Type} (f : α → β) (a b : α) (n : Nat) :
    (alternate a b n).map f = alternate (f a) (f b) n := by
  induction n generalizing a b with
  | zero => rfl
  | succ n ih => exact congrArg (f a :: ·) (ih b a)

namespace LocalHost

theorem toggles_eq_alternate {conv : Conventions} {P Q : LocalHost → Prop} {a b : Outcome}
    (hp : ∀ h, P h → (h.toggled conv).1 = a ∧ Q (h.toggled conv).2)
    (hq : ∀ h, Q h → (h.toggled conv).1 = b ∧ P (h.toggled conv).2) (n : Nat) {h : LocalHost}
    (hh : P h) : toggles conv h n = alternate a b n := by
  induction n generalizing P Q a b h with
  | zero => rfl
  | succ n ih =>
    obtain ⟨ha, hnext⟩ := hp h hh
    rw [toggles, alternate, ha, ih hq hp hnext]

section

variable {host : LocalHost} (hplain : host.IsPlain) (hout : Unnested host.folders) {root : Place}
  (hr : root.IsReal) (hroot : root.path.text ∈ host.folders) {names : List Text}
  (hne : names ≠ []) (hnames : ∀ name ∈ names, IsName name) {action : Text}

include hplain hout hr hroot hne hnames

theorem controller_leads_back
    (hn : namespace? (Text.joinWith "/" names) ≠ some standard.controllersDir) {path : Path}
    (hpath : path ∈ controllerCandidates .standard
      (searchRoots .standard root.path (Text.joinWith "/" names)) (Text.joinWith "/" names))
    {doc : Document} (hdoc : doc.path = path.text)
    (ha : enclosingMethod? .standard doc.text doc.cursor = some action) :
    innermostRoot? doc.path host.folders = some root.path.text ∧
      Lookup.find .standard doc root.path =
        .ok (.ofAction .standard root.path (Text.joinWith "/" names) action) ∧
      ∀ h, Shows host h doc → h.sought .standard =
        .ok (.ofAction .standard root.path (Text.joinWith "/" names) action) := by
  obtain ⟨place, rfl, hp, hne', hin, hclass, hidentity⟩ :=
    controller_place hr hne hnames hn hpath
  have hslash : forwardSlashes doc.path = doc.path := hdoc ▸ hp.forwardSlashes_text
  rw [← hdoc] at hclass hidentity
  have hfind := Lookup.find_of_controller hslash hclass hidentity ha
  refine ⟨?_, hfind, fun h hs => ?_⟩
  · rw [hdoc]
    exact innermostRoot?_of_unnested hplain.folders hout hroot hp hne' hin
  · exact (hs.sought hplain.folders hout hr hroot hp hne' hin hdoc).trans hfind

theorem view_leads_back (ha : action ≠ []) (hw : action.all isWord)
    (hn : namespace? (Text.joinWith "/" names) ≠ some standard.viewsDir) {path : Path}
    (hpath : path ∈ viewCandidates .standard
      (searchRoots .standard root.path (Text.joinWith "/" names)) (Text.joinWith "/" names) action)
    {doc : Document} (hdoc : doc.path = path.text) : ∀ h, Shows host h doc →
      h.sought .standard =
        .ok (.ofTarget .standard root.path (Text.joinWith "/" names) action) := by
  obtain ⟨place, rfl, hp, hne', hin, hclass, htarget⟩ :=
    view_place hr hne hnames ha hw hn hpath
  have hslash : forwardSlashes doc.path = doc.path := hdoc ▸ hp.forwardSlashes_text
  rw [← hdoc] at hclass htarget
  intro h hs
  exact (hs.sought hplain.folders hout hr hroot hp hne' hin hdoc).trans
    (Lookup.find_of_view hslash hclass htarget)

end

variable {host : LocalHost}

/-- What a view at a plain host is looked for by is made of names and a word. -/
theorem IsPlain.names_of_view (hplain : host.IsPlain) (hout : Unnested host.folders)
    {doc : Document} (hdoc : host.active = some doc) {root : Text}
    (hroot : innermostRoot? doc.path host.folders = some root) {found : Lookup}
    (hfound : Lookup.find .standard doc (.ofText root) = .ok found) (hkind : found.kind = .view) :
    ∃ place : Place, place.IsReal ∧ root = place.path.text ∧ root ∈ host.folders ∧
      host.sought .standard = .ok found ∧ ∃ names action, names ≠ [] ∧
        (∀ name ∈ names, IsName name) ∧ action ≠ [] ∧ action.all isWord ∧
        found = .ofTarget .standard place.path (Text.joinWith "/" names) action := by
  obtain ⟨place, hp, hpath⟩ := hplain.active doc hdoc
  obtain ⟨rootPlace, hr, rfl⟩ := hplain.root hroot
  obtain ⟨hmem, hin⟩ := List.mem_filter.1 (longest?_mem hroot)
  have hslash : forwardSlashes doc.path = doc.path := hpath ▸ hp.forwardSlashes_text
  rw [hr.ofText_text] at hfound
  obtain ⟨hclass, htarget, hof⟩ := Lookup.find_view hfound hkind
  rw [hslash, hpath] at hclass htarget
  rw [hpath] at hin
  obtain ⟨names, hne, hnames, hidentity, ha, hw⟩ := names_of_viewTarget hp hr hin hclass htarget
  have hsought := (Shows.sought ⟨rfl, rfl, hdoc⟩ hplain.folders hout hr hmem hp
    (Place.ne_nil_of_view hclass) hin hpath).trans hfound
  rw [hidentity] at hof
  exact ⟨rootPlace, hr, rfl, hmem, hsought, names, found.action, hne, hnames, ha, hw, hof⟩

/-- A view whose controller is opened on its action is looked for again from there, and the view
that is opened then leads to the same place in the controller. -/
theorem opened_leads_back (hplain : host.IsPlain) (hout : Unnested host.folders) {doc : Document}
    (hdoc : host.active = some doc) {root : Text}
    (hroot : innermostRoot? doc.path host.folders = some root) {found : Lookup}
    (hfound : Lookup.find .standard doc (.ofText root) = .ok found) (hkind : found.kind = .view)
    (hcontrollers : namespace? found.identity ≠ some standard.controllersDir)
    (hviews : namespace? found.identity ≠ some standard.viewsDir)
    (hopened : (host.toggled .standard).1.status = .opened) :
    host.sought .standard = .ok found ∧
    ∃ controller opened, found.candidates.find? host.files.holds = some controller ∧
      opened.path = controller.text ∧
      host.attempted .standard =
        .ok (.ofDocument .opened ("Jumped to action: " ++ found.action) opened found.action,
          opened) ∧
      innermostRoot? opened.path host.folders = some root ∧
      Lookup.find .standard opened (.ofText root) =
        .ok (.ofAction .standard (.ofText root) found.identity found.action) ∧
      (∀ h, Shows host h opened →
        h.sought .standard = .ok (.ofAction .standard (.ofText root) found.identity found.action)) ∧
      ∀ path view, path ∈ viewCandidates .standard
          (searchRoots .standard (.ofText root) found.identity) found.identity found.action →
        host.loaded path = .ok view →
          view.path = path.text ∧ ∀ h, Shows host h view → h.sought .standard = .ok found := by
  obtain ⟨place, hr, rfl, hmem, hsought, names, action, hne, hnames, ha, hw, rfl⟩ :=
    hplain.names_of_view hout hdoc hroot hfound hkind
  rw [hr.ofText_text]
  refine ⟨hsought, ?_⟩
  obtain ⟨controller, opened, offset, hfind, hload, hoffset, hattempt⟩ :=
    opened_on_action hsought rfl hopened
  have hcandidate := List.mem_of_find?_eq_some hfind
  obtain ⟨cplace, rfl, hc, -⟩ := controller_place hr hne hnames hcontrollers hcandidate
  obtain ⟨text, rfl⟩ := loaded_place hplain.linkFree hc hload
  have haround := enclosingMethod?_methodOffset? (by decide) ha hw hoffset
  obtain ⟨hroot', hreturn, hback⟩ := controller_leads_back hplain hout hr hmem hne hnames
    hcontrollers hcandidate (show Document.path ⟨cplace.path.text, text, offset⟩ = _ from rfl)
    haround
  refine ⟨cplace.path, _, hfind, rfl, hattempt, hroot', hreturn, hback, ?_⟩
  intro path view hview hload
  obtain ⟨vplace, rfl, hv, -⟩ := view_place hr hne hnames ha hw hviews hview
  obtain ⟨text', rfl⟩ := loaded_place hplain.linkFree hv hload
  exact ⟨rfl, view_leads_back hplain hout hr hmem hne hnames ha hw hviews hview rfl⟩

end LocalHost

/-- Once a toggle from a view has opened its controller on the action, the next one looks for
exactly this action, and if it opens a view then toggles go to and fro between the two. -/
theorem toggle_alternates {w w₁ : Journaled LocalHost} (hw : PlainSession w)
    (hout : Unnested w.state.folders) {doc : Document} (hdoc : w.state.active = some doc)
    {root : Text} (hroot : innermostRoot? doc.path w.state.folders = some root) {found : Lookup}
    (hfound : Lookup.find .standard doc (.ofText root) = .ok found) (hkind : found.kind = .view)
    (hcontrollers : namespace? found.identity ≠ some standard.controllersDir)
    (hviews : namespace? found.identity ≠ some standard.viewsDir) {there : Outcome}
    (hstep : Session.step (LocalHost.navigator .standard {}) w .toggle =
      (.ok (.outcome there), w₁))
    (hopened : there.status = .opened) :
    ∃ controller opened, found.candidates.find? w.state.files.holds = some controller ∧
      w₁.state.active = some opened ∧ opened.path = controller.text ∧
      there = .ofDocument .opened ("Jumped to action: " ++ found.action) opened found.action ∧
      innermostRoot? opened.path w₁.state.folders = some root ∧
      Lookup.find .standard opened (.ofText root) =
        .ok (.ofAction .standard (.ofText root) found.identity found.action) ∧
      ∃ back w₂, Session.step (LocalHost.navigator .standard {}) w₁ .toggle =
          (.ok (.outcome back), w₂) ∧
        (back.errorKind = none ∨ back.errorKind = some .notFound) ∧
        (back.status ≠ .failed → back.status = .opened ∧ back.action = some found.action ∧
          (∃ view, (viewCandidates .standard (searchRoots .standard (.ofText root) found.identity)
              found.identity found.action).find? w.state.files.holds = some view ∧
            back.targetPath = some view.text) ∧
          ∀ n, (Session.run (LocalHost.navigator .standard {}) w₁
              (List.replicate n .toggle)).map Prod.fst =
            alternate (.ok (.outcome back)) (.ok (.outcome there)) n) := by
  obtain ⟨journal, hrun⟩ := @LocalHost.step_toggle .standard w
  obtain ⟨hthere, rfl⟩ := Prod.mk.inj (hstep.symm.trans hrun)
  obtain rfl := StepResult.outcome.inj (Except.ok.inj hthere)
  obtain ⟨hsought, controller, opened, hfind, hpath, hattempt, hroot', hreturn, hback, hviewBack⟩ :=
    LocalHost.opened_leads_back hw.isPlain hout hdoc hroot hfound hkind hcontrollers hviews hopened
  have hstart : LocalHost.Shows w.state w.state doc := ⟨rfl, rfl, hdoc⟩
  obtain ⟨hthere, hshows⟩ := hstart.toggled hattempt
  obtain ⟨journal', hrun'⟩ :=
    @LocalHost.step_toggle .standard ⟨(w.state.toggled .standard).2, journal⟩
  have haction := hback _ hshows
  obtain ⟨hkinds, hview⟩ := LocalHost.toggled_of_action haction
  refine ⟨controller, opened, hfind, hshows.active, hpath, hthere, hshows.folders ▸ hroot', hreturn,
    _, _, hrun', hkinds, fun hok => ?_⟩
  obtain ⟨path, view, hfindView, hload, hattemptView⟩ := hview hok
  rw [hshows.files] at hfindView
  rw [LocalHost.loaded, hshows.files] at hload
  obtain ⟨hviewPath, hsoughtView⟩ :=
    hviewBack path view (List.mem_of_find?_eq_some hfindView) hload
  obtain ⟨hbackEq, -⟩ := hshows.toggled hattemptView
  refine ⟨by rw [hbackEq]; rfl, by rw [hbackEq]; rfl, ⟨path, hfindView, ?_⟩, fun n => ?_⟩
  · rw [hbackEq, ← hviewPath]
    rfl
  have hspelled := LocalHost.isSpelled_of_attempted hattemptView _ hshows.active
  have hspelledView := LocalHost.loaded_isSpelled hload
  -- From either document an attempt comes to what it came to the first time.
  have hfromController (h : LocalHost) (hs : LocalHost.Shows w.state h opened) :
      (h.toggled .standard).1 = ((w.state.toggled .standard).2.toggled .standard).1 ∧
        LocalHost.Shows w.state (h.toggled .standard).2 view := by
    have hsame := LocalHost.attempted_congr
      ((LocalHost.started_of_sought (hback h hs) (hs.isSpelled hspelled)).trans
        (LocalHost.started_of_attempted haction hattemptView).symm)
      (hs.files.trans hshows.files.symm)
    rw [hbackEq]
    exact hs.toggled (hsame.trans hattemptView)
  have hfromView (h : LocalHost) (hs : LocalHost.Shows w.state h view) :
      (h.toggled .standard).1 = (w.state.toggled .standard).1 ∧
        LocalHost.Shows w.state (h.toggled .standard).2 opened := by
    have hsame := LocalHost.attempted_congr
      ((LocalHost.started_of_sought (hsoughtView h hs) (hs.isSpelled hspelledView)).trans
        (LocalHost.started_of_attempted hsought hattempt).symm) hs.files
    rw [hthere]
    exact hs.toggled (hsame.trans hattempt)
  rw [LocalHost.run_toggles, LocalHost.toggles_eq_alternate
    (P := (LocalHost.Shows w.state · opened)) hfromController hfromView n hshows, map_alternate]

/-- A workspace with one action and its view. -/
def posts : FileTree where
  entries := [
    (["ws"], .directory),
    (["ws", "app"], .directory),
    (["ws", "app", "controllers"], .directory),
    (["ws", "app", "controllers", "posts_controller.rb"],
      .file (("def index\nend\n" : Text).map fun c => c.toNat.toUInt8)),
    (["ws", "app", "views"], .directory),
    (["ws", "app", "views", "posts"], .directory),
    (["ws", "app", "views", "posts", "index.html.erb"], .file [])]
  workingDirectory := ["ws"]

def postsHost : LocalHost := ⟨posts, ["/ws"], none, [], none, {}⟩

def postsView : Path := ⟨.root, ["ws", "app", "views", "posts", "index.html.erb"]⟩

def postsSession : Journaled LocalHost :=
  (Session.step (LocalHost.navigator .standard {}) postsHost.journaled (.focus postsView 0 none)).2

theorem postsSession_alternates : ∃ there back : Outcome, there.status = .opened ∧
    back.status = .opened ∧ ∀ n,
      (Session.run (LocalHost.navigator .standard {}) postsSession
        (List.replicate n .toggle)).map Prod.fst =
          alternate (.ok (.outcome there)) (.ok (.outcome back)) n := by
  have hlinks : posts.LinkFree := by simp [FileTree.LinkFree, posts]
  have hcreate : LocalHost.create {} posts [⟨.root, ["ws"]⟩] false = .ok postsHost := by
    rw [LocalHost.create]
    rfl
  have hplain : postsView.IsPlain := by decide
  have hsession : PlainSession postsSession :=
    .step (.create hlinks (by decide) (by decide) hcreate) hplain
  have hfolders : postsSession.state.folders = [("/ws" : Text)] := by decide +kernel
  have hactive : postsSession.state.active = some ⟨postsView.text, [], 0⟩ := by decide +kernel
  have hopened : (postsSession.state.toggled .standard).1.status = .opened := by decide +kernel
  have hreturn : ((postsSession.state.toggled .standard).2.toggled .standard).1.status =
      .opened := by
    decide +kernel
  have hlookup : Lookup.find .standard ⟨postsView.text, [], 0⟩ (.ofText "/ws") =
      .ok (.ofTarget .standard ⟨.root, ["ws"]⟩ "posts" "index") := rfl
  -- From here on only these facts are known of the session, so that nothing is evaluated twice.
  generalize postsSession = w at hsession hfolders hactive hopened hreturn ⊢
  have hroot : innermostRoot? postsView.text w.state.folders = some ("/ws" : Text) := by
    rw [hfolders]
    decide +kernel
  have hout : Unnested w.state.folders := by
    rw [hfolders]
    decide
  obtain ⟨journal, hstep⟩ := @LocalHost.step_toggle .standard w
  obtain ⟨journal', hnext⟩ :=
    @LocalHost.step_toggle .standard ⟨(w.state.toggled .standard).2, journal⟩
  obtain ⟨-, -, -, -, -, -, -, -, back, w₂, hback, -, hgoes⟩ :=
    toggle_alternates hsession hout hactive hroot hlookup rfl (by decide) (by decide) hstep hopened
  obtain rfl := StepResult.outcome.inj
    (Except.ok.inj (congrArg Prod.fst (hback.symm.trans hnext)))
  obtain ⟨-, -, -, hrun⟩ := hgoes (by
    rw [hreturn]
    decide)
  refine ⟨_, _, hopened, hreturn, fun n => ?_⟩
  cases n with
  | zero => rfl
  | succ n =>
    rw [List.replicate_succ, Session.run, hstep]
    exact congrArg (_ :: ·) (hrun n)

end Counterpart
