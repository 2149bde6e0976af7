import Counterpart.Proofs.CandidatePaths
import Counterpart.Proofs.LocalNavigation
import Counterpart.Proofs.RealPath
import Counterpart.Proofs.Sessions

/-! Hosts over trees without links and with plain names. Their folders and their active document
are at real paths, and nothing that is done at them changes that. -/

namespace Counterpart

/-! ### Clean texts -/

/-- No backslash and no newline. -/
def IsClean (s : Text) : Prop := '\\' ∉ s ∧ '\n' ∉ s

instance : DecidablePred IsClean := fun s => inferInstanceAs (Decidable ('\\' ∉ s ∧ '\n' ∉ s))

namespace IsClean

variable {s t : Text}

theorem of_subset (h : IsClean t) (hs : s ⊆ t) : IsClean s :=
  ⟨fun hmem => h.1 (hs hmem), fun hmem => h.2 (hs hmem)⟩

theorem append (hs : IsClean s) (ht : IsClean t) : IsClean (s ++ t) :=
  ⟨by simp [hs.1, ht.1], by simp [hs.2, ht.2]⟩

theorem of_isWord (h : s.all isWord) : IsClean s := by
  by_cases hne : s = []
  · subst hne
    exact ⟨List.not_mem_nil, List.not_mem_nil⟩
  · exact ⟨(IsName.of_isWord hne h).backslash, (IsName.of_isWord hne h).newline⟩

end IsClean

theorem Place.IsReal.isClean_text {place : Place} (h : place.IsReal) :
    IsClean place.path.text := by
  by_cases hne : place = []
  · subst hne
    decide
  · rw [text_eq hne]
    refine ⟨fun hmem => ?_, fun hmem => ?_⟩
    · rcases mem_slashed hmem with hc | ⟨name, hname, hc⟩
      · exact absurd hc (by decide)
      · exact (h name hname).backslash hc
    · rcases mem_slashed hmem with hc | ⟨name, hname, hc⟩
      · exact absurd hc (by decide)
      · exact (h name hname).newline hc

namespace Path

theorem IsPlain.join {p q : Path} (hp : p.IsPlain) (hq : q.IsPlain) : (p.join q).IsPlain := by
  rw [Path.join]
  split
  · exact fun s hs => (List.mem_append.1 hs).elim (hp s) (hq s)
  · exact hq

theorem isPlain_ofText {s : Text} (h : IsClean s) : (ofText s).IsPlain := by
  intro segment hmem
  obtain ⟨hslash, hsub⟩ := mem_splitOn (List.mem_filter.1 hmem).1
  exact ⟨hslash, h.of_subset hsub⟩

theorem IsPlain.hDiv {p : Path} {s : Text} (hp : p.IsPlain) (h : IsClean s) : (p / s).IsPlain :=
  hp.join (isPlain_ofText h)

end Path

/-! ### What is read off a path -/

open Conventions

theorem after?_suffix {marker s found : Text} {acceptable : Text → Bool}
    (h : Text.after? marker acceptable s = some found) : marker ++ found <:+ s := by
  induction s with
  | nil =>
    obtain ⟨hp, -⟩ := Option.filter_eq_some_iff.1 h
    exact List.isPrefixOf?_eq_some_iff_append_eq.1 hp ▸ List.suffix_rfl
  | cons c s ih =>
    rw [Text.after?] at h
    split at h
    · next hf =>
      obtain rfl := Option.some.inj h
      obtain ⟨hp, -⟩ := Option.filter_eq_some_iff.1 hf
      exact List.isPrefixOf?_eq_some_iff_append_eq.1 hp ▸ List.suffix_rfl
    · exact (ih h).trans (List.suffix_cons c s)

/-- Seen from a workspace, a path is a part of itself behind one slash. -/
theorem workspaceRelative_suffix (path root : Text) :
    ∃ rest, workspaceRelative path root = '/' :: rest ∧ rest <:+ forwardSlashes path := by
  refine ⟨_, rfl, ?_⟩
  cases hr : relativeTo? path root with
  | none => exact List.dropWhile_suffix _
  | some rest => exact ⟨_, List.isPrefixOf?_eq_some_iff_append_eq.1 hr⟩

section

variable {conv : Conventions} {path root identity action : Text}

theorem controllerIdentity?_within (h : controllerIdentity? conv path root = some identity) :
    conv.controllersMarker ++ identity <:+: workspaceRelative path root := by
  obtain ⟨s, hs, hstem⟩ := List.exists_of_findSome?_eq_some h
  obtain ⟨stem, hsuffix, hafter⟩ := Option.bind_eq_some_iff.1 hstem
  have hstem' : stem <+: s := ⟨_, List.isSuffixOf?_eq_some_iff_append_eq.1 hsuffix⟩
  have hending : s <+: workspaceRelative path root := by
    rw [Text.endings] at hs
    split at hs
    · rcases (by simpa using hs : s = _ ∨ s = _) with rfl | rfl
      · exact List.prefix_rfl
      · exact List.dropLast_prefix _
    · exact List.mem_singleton.1 hs ▸ List.prefix_rfl
  exact (after?_suffix hafter).isInfix.trans (hstem'.trans hending).isInfix

theorem isWord_actionOf {file action : Text} (h : actionOf? file = some action) :
    action ≠ [] ∧ action.all isWord := by
  rw [actionOf?] at h
  split at h
  · next c name _ hword _ =>
    obtain rfl := Option.some.inj h
    refine ⟨List.cons_ne_nil _ _, ?_⟩
    rw [← hword]
    exact List.all_takeWhile
  · cases h

theorem viewTarget?_within (h : viewTarget? conv path root = some (identity, action)) :
    conv.viewsMarker ++ identity <:+: workspaceRelative path root ∧
      action ≠ [] ∧ action.all isWord := by
  rw [viewTarget?, targetIn?] at h
  dsimp only at h
  split at h
  · next name hname =>
    obtain ⟨found, hafter, he⟩ := Option.map_eq_some_iff.1 h
    obtain ⟨rfl, rfl⟩ := Prod.mk.inj he
    refine ⟨(after?_suffix hafter).isInfix.trans ?_, isWord_actionOf hname⟩
    have hdir : (splitFile (workspaceRelative path root)).1.reverse <:+
        (workspaceRelative path root).reverse := by
      rw [splitFile, List.reverse_reverse]
      exact (List.tail_suffix _).trans (List.dropWhile_suffix _)
    exact (List.reverse_suffix.1 hdir).isInfix
  · cases h

theorem isClean_workspaceRelative (root : Text) (h : IsClean path) :
    IsClean (workspaceRelative path root) := by
  obtain ⟨rest, he, hrest⟩ := workspaceRelative_suffix path root
  have hslash : IsClean ['/'] := by decide
  rw [forwardSlashes_eq_self h.1] at hrest
  exact he ▸ hslash.append (h.of_subset hrest.subset)

theorem isClean_controllerIdentity (h : IsClean path)
    (hi : controllerIdentity? .standard path root = some identity) : IsClean identity :=
  (isClean_workspaceRelative root h).of_subset
    (List.Subset.trans (List.subset_append_right _ _) (controllerIdentity?_within hi).subset)

theorem isClean_viewTarget (h : IsClean path)
    (ht : viewTarget? .standard path root = some (identity, action)) :
    IsClean identity ∧ action ≠ [] ∧ action.all isWord := by
  obtain ⟨hwithin, hword⟩ := viewTarget?_within ht
  exact ⟨(isClean_workspaceRelative root h).of_subset
    (List.Subset.trans (List.subset_append_right _ _) hwithin.subset), hword⟩

end

section

variable {root : Path} {identity action : Text}

theorem isPlain_searchRoots (hr : root.IsPlain) (hi : IsClean identity) :
    ∀ p ∈ searchRoots .standard root identity, p.IsPlain := by
  intro p hp
  rw [searchRoots] at hp
  split at hp
  · next segment hsegment =>
    rcases List.mem_cons.1 hp with rfl | hp
    · exact hr
    obtain ⟨dir, hdir, rfl⟩ := List.mem_map.1 hp
    have hdirs : ∀ dir ∈ standard.multiRootDirs, IsClean dir := by decide
    have hclean : IsClean segment := by
      rw [namespace?] at hsegment
      split at hsegment
      · obtain rfl := Option.some.inj hsegment
        exact hi.of_subset (List.takeWhile_prefix _).subset
      · cases hsegment
    exact (hr.hDiv (hdirs dir hdir)).hDiv hclean
  · exact List.mem_singleton.1 hp ▸ hr

theorem isPlain_viewCandidates (hr : root.IsPlain) (hi : IsClean identity) (ha : IsClean action) :
    ∀ p ∈ viewCandidates .standard (searchRoots .standard root identity) identity action,
      p.IsPlain := by
  intro p hp
  obtain ⟨base, hbase, hp⟩ := List.mem_flatMap.1 hp
  obtain ⟨extension, he, rfl⟩ := List.mem_map.1 hp
  obtain ⟨-, hb, hn, -⟩ := extension_cases extension he
  have hplain := isPlain_searchRoots hr hi base hbase
  exact (((hplain.hDiv (by decide)).hDiv (by decide)).hDiv hi).hDiv (ha.append ⟨hb, hn⟩)

theorem isPlain_controllerCandidates (hr : root.IsPlain) (hi : IsClean identity) :
    ∀ p ∈ controllerCandidates .standard (searchRoots .standard root identity) identity,
      p.IsPlain := by
  intro p hp
  obtain ⟨base, hbase, rfl⟩ := List.mem_map.1 hp
  have hplain := isPlain_searchRoots hr hi base hbase
  exact ((hplain.hDiv (by decide)).hDiv (by decide)).hDiv (hi.append (by decide))

theorem isPlain_candidates {doc : Document} {found : Lookup} (hr : root.IsPlain)
    (hd : IsClean doc.path) (hf : Lookup.find .standard doc root = .ok found) :
    ∀ p ∈ found.candidates, p.IsPlain := by
  have hself := forwardSlashes_eq_self hd.1
  rcases Lookup.find_cases hf with
    ⟨identity, action, -, hidentity, haction, rfl⟩ | ⟨identity, action, -, htarget, rfl⟩
  · obtain ⟨-, hw, -⟩ := methodOffset?_enclosingMethod? (by decide) haction
    exact isPlain_viewCandidates hr (isClean_controllerIdentity hd (hself ▸ hidentity))
      (IsClean.of_isWord hw)
  · exact isPlain_controllerCandidates hr (isClean_viewTarget hd (hself ▸ htarget)).1

end

/-! ### Hosts -/

/-- The tree has no links, and folders and documents are at real paths. -/
structure LocalHost.IsPlain (host : LocalHost) : Prop where
  linkFree : host.files.LinkFree
  here : Place.IsReal host.files.workingDirectory
  folders : ∀ f ∈ host.folders, IsRealText f
  active : ∀ doc, host.active = some doc → IsRealText doc.path

namespace LocalHost

open Act

variable {host : LocalHost}

theorem mapM_resolve_real {files : FileTree} (hl : files.LinkFree)
    (hh : Place.IsReal files.workingDirectory) {folders real : List Path}
    (hf : ∀ p ∈ folders, p.IsPlain) (hreal : folders.mapM files.resolve = .ok real) :
    ∀ p ∈ real, ∃ place : Place, place.IsReal ∧ p = place.path := by
  intro p hp
  obtain ⟨folder, hfolder, hresolve⟩ := mem_of_mapM_ok hreal p hp
  obtain ⟨place, hplace, hreal'⟩ := hl.exists_resolve hh (hf folder hfolder)
  exact ⟨place, hplace, Except.ok.inj (hresolve.symm.trans hreal')⟩

theorem IsPlain.create {display : Display} {files : FileTree} {folders : List Path}
    {withConsole : Bool} (hl : files.LinkFree) (hh : Place.IsReal files.workingDirectory)
    (hf : ∀ p ∈ folders, p.IsPlain)
    (h : LocalHost.create display files folders withConsole = .ok host) :
    host.IsPlain := by
  rw [LocalHost.create] at h
  cases hr : folders.mapM files.resolve with
  | error e =>
    rw [hr] at h
    cases h
  | ok real =>
    rw [hr] at h
    obtain rfl := Except.ok.inj h
    refine ⟨hl, hh, fun f hmem => ?_, fun doc hdoc => by cases hdoc⟩
    obtain ⟨p, hp, rfl⟩ := List.mem_map.1 hmem
    obtain ⟨place, hplace, rfl⟩ := mapM_resolve_real hl hh hf hr p hp
    exact ⟨place, hplace, hplace.forwardSlashes_text⟩

theorem IsPlain.withActive (h : host.IsPlain) {doc : Document} (hd : IsRealText doc.path) :
    IsPlain { host with active := some doc } where
  linkFree := h.linkFree
  here := h.here
  folders := h.folders
  active := fun _ he => Option.some.inj he ▸ hd

theorem IsPlain.loaded (h : host.IsPlain) {path : Path} (hp : path.IsPlain) {doc : Document}
    (hd : host.loaded path = .ok doc) : IsRealText doc.path := by
  obtain ⟨place, hplace, hresolve⟩ := h.linkFree.exists_resolve h.here hp
  obtain ⟨text, real, -, hreal, rfl⟩ := loaded_ok hd
  obtain rfl := Except.ok.inj (hresolve.symm.trans hreal)
  exact ⟨place, hplace, hplace.forwardSlashes_text⟩

theorem arrival_path (conv : Conventions) (found : Lookup) (doc : Document) :
    (arrival conv found doc).2.path = doc.path := by
  rw [arrival]
  split
  · rfl
  · split <;> rfl

theorem IsPlain.shown (h : host.IsPlain) (outcome : Outcome) : (host.shown outcome).IsPlain :=
  ⟨h.linkFree, h.here, h.folders, h.active⟩

theorem IsPlain.root (h : host.IsPlain) {path root : Text}
    (hr : innermostRoot? path host.folders = some root) : IsRealText root :=
  h.folders root (List.mem_filter.1 (longest?_mem hr)).1

theorem IsPlain.focused (h : host.IsPlain) {doc : Document} {root : Path}
    (hf : host.focused = .ok (doc, root)) : IsClean doc.path ∧ root.IsPlain := by
  obtain ⟨hactive, text, hinner, rfl⟩ := focused_ok hf
  obtain ⟨place, hplace, he⟩ := h.active _ hactive
  obtain ⟨rootPlace, hroot, rfl⟩ := h.root hinner
  refine ⟨he ▸ hplace.isClean_text, ?_⟩
  rw [hroot.ofText_text]
  intro name hname
  exact ⟨(hroot name hname).slash, (hroot name hname).backslash, (hroot name hname).newline⟩

theorem IsPlain.attempted (h : host.IsPlain) {outcome : Outcome} {doc : Document}
    (ha : host.attempted .standard = .ok (outcome, doc)) : IsRealText doc.path := by
  obtain ⟨found, path, opened, hs, hpath, hload, harrival⟩ := attempted_ok ha
  obtain ⟨old, root, hf, hl⟩ := sought_ok (started_ok hs).1
  obtain ⟨hold, hroot⟩ := h.focused hf
  have hplain := isPlain_candidates hroot hold hl path (List.mem_of_find?_eq_some hpath)
  have hopened := h.loaded hplain hload
  rw [← arrival_path .standard found, harrival] at hopened
  exact hopened

theorem IsPlain.toggled (h : host.IsPlain) : (host.toggled .standard).2.IsPlain := by
  rw [LocalHost.toggled]
  split
  · next outcome doc ha => exact (h.withActive (h.attempted ha)).shown outcome
  · exact h.shown _

end LocalHost

/-- A step that leaves the tree as it is, and whose path is plain. -/
def Step.IsPlain : Step → Prop
  | .focus path _ _ | .openDocument path => path.IsPlain
  | .write .. | .remove _ => False
  | _ => True

namespace LocalHost

open Act

theorem keeps_focusText {path : Path} (hp : path.IsPlain) (offset : Int) (text : Text) :
    Keeps IsPlain (focusText path offset text) := by
  refine .state_bind fun host h => ?_
  obtain ⟨place, hplace, hresolve⟩ := h.linkFree.exists_resolve h.here hp
  rw [hresolve]
  exact .bind (.update fun _ h => h.withActive ⟨place, hplace, hplace.forwardSlashes_text⟩)
    fun _ => .pure _

theorem keeps_focus {path : Path} (hp : path.IsPlain) (offset : Int) :
    Keeps IsPlain (focus path offset) := by
  refine .state_bind fun host _ => ?_
  cases host.files.readText path with
  | error e => exact .throw e
  | ok text => exact keeps_focusText hp offset text

theorem keeps_openDocument {path : Path} (hp : path.IsPlain) :
    Keeps IsPlain (openDocument path) := by
  refine .bind (.note _) fun _ => .state_bind fun host _ => ?_
  cases host.files.readText path with
  | error e => exact .bind (.note _) fun _ => .throw e
  | ok text => exact keeps_focusText hp 0 text

theorem keeps_edit {change : Document → Document} (hc : ∀ doc, (change doc).path = doc.path) :
    Keeps IsPlain (edit change) := by
  refine .update fun host h => ⟨h.linkFree, h.here, h.folders, fun doc he => ?_⟩
  obtain ⟨old, hold, rfl⟩ := Option.map_eq_some_iff.1 he
  exact hc old ▸ h.active old hold

theorem keeps_reveal (path : Text) (offset : Int) : Keeps IsPlain (reveal path offset) := by
  refine .state_bind fun host h => ?_
  cases hactive : host.active with
  | none => exact .pure ()
  | some doc =>
    dsimp only
    split
    · exact .bind (.update fun _ h' => h'.withActive (h.active doc hactive)) fun _ => .note _
    · exact .pure ()

theorem keeps_showMessage (level : MessageLevel) (message : Text) :
    Keeps IsPlain (showMessage level message) := by
  refine .bind (.update fun _ h => ⟨h.linkFree, h.here, h.folders, h.active⟩) fun _ => ?_
  refine .state_bind fun host _ => ?_
  cases host.console with
  | none => exact .pure ()
  | some shown =>
    dsimp only
    split
    · exact .throw _
    · exact .update fun _ h => ⟨h.linkFree, h.here, h.folders, h.active⟩

theorem keeps_report : Keeps IsPlain (navigator .standard {}).report :=
  Navigator.keeps_report (keeps_read _ _) fun _ => keeps_read _ _

/-- Every step that leaves the tree as it is keeps a plain host plain. -/
theorem keeps_perform {s : Step} (hs : s.IsPlain) :
    Keeps IsPlain (Session.perform (navigator .standard {}) s) := by
  cases s with
  | focus path offset text =>
    cases text with
    | none => exact .bind (keeps_focus hs offset) fun _ => .pure _
    | some text => exact .bind (keeps_focusText hs offset text) fun _ => .pure _
  | openDocument path => exact .bind (keeps_openDocument hs) fun _ => .pure _
  | toggle =>
    exact .bind (.of_gives (fun _ => toggle_gives) fun _ h => h.toggled) fun _ => .pure _
  | candidates => exact .bind keeps_report fun _ => .pure _
  | probe path =>
    exact .bind (.state_bind fun _ _ => .bind (.note _) fun _ => .pure _) fun _ => .pure _
  | reveal path offset => exact .bind (keeps_reveal path offset) fun _ => .pure _
  | setCursor offset => exact .bind (keeps_edit fun _ => rfl) fun _ => .pure _
  | setPosition line column => exact .bind (keeps_edit fun _ => rfl) fun _ => .pure _
  | setText text => exact .bind (keeps_edit fun _ => rfl) fun _ => .pure _
  | close =>
    refine .bind (.update fun _ h => ⟨h.linkFree, h.here, h.folders, fun doc hdoc => ?_⟩)
      fun _ => .pure _
    cases hdoc
  | rootFor path => exact .bind (keeps_read _ _) fun _ => .pure _
  | showMessage level message =>
    rw [Session.perform]
    cases MessageLevel.ofWord? level with
    | none => exact .throw _
    | some level => exact .bind (keeps_showMessage level message) fun _ => .pure _
  | write path entry => exact hs.elim
  | remove path => exact hs.elim

end LocalHost

/-- The states of sessions at a host whose folders have plain names. Between steps the tree may
become any other one without links. -/
inductive PlainSession : Journaled LocalHost → Prop where
  | create {display : Display} {files : FileTree} {folders : List Path} {withConsole : Bool}
      {host : LocalHost} (hl : files.LinkFree) (hh : Place.IsReal files.workingDirectory)
      (hf : ∀ p ∈ folders, p.IsPlain)
      (h : LocalHost.create display files folders withConsole = .ok host) :
      PlainSession host.journaled
  | step {w : Journaled LocalHost} {s : Step} (hw : PlainSession w) (hs : s.IsPlain) :
      PlainSession (Session.step (LocalHost.navigator .standard {}) w s).2
  | change {w : Journaled LocalHost} {files : FileTree} (hw : PlainSession w)
      (hl : files.LinkFree) (hh : Place.IsReal files.workingDirectory) :
      PlainSession { w with state := { w.state with files } }

theorem PlainSession.isPlain {w : Journaled LocalHost} (hw : PlainSession w) : w.state.IsPlain := by
  induction hw with
  | create hl hh hf h => exact .create hl hh hf h
  | step _ hs ih => exact LocalHost.keeps_perform hs _ ih
  | change _ hl hh ih => exact ⟨hl, hh, ih.folders, ih.active⟩

end Counterpart
