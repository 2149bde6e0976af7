import Counterpart.Proofs.Arrival

/-! Which candidates lie below the workspace. Joining keeps to a root until an anchored path is
joined, and of all that candidates are joined from only an identity can be one: that of a document
whose path has two separators in a row. -/

namespace Counterpart

open Conventions

namespace Path

variable {root p : Path} {s : Text}

def IsBelow (root p : Path) : Prop := ∃ q : Path, q.anchor = .relative ∧ p = root.join q

theorem isBelow_iff :
    root.IsBelow p ↔ p.anchor = root.anchor ∧ root.segments <+: p.segments := by
  constructor
  · rintro ⟨q, hq, rfl⟩
    rw [join_of_relative hq]
    exact ⟨rfl, List.prefix_append _ _⟩
  · rintro ⟨hanchor, rest, hrest⟩
    refine ⟨⟨.relative, rest⟩, rfl, ?_⟩
    rw [join_of_relative rfl, hrest, ← hanchor]

instance : Decidable (root.IsBelow p) := decidable_of_iff _ isBelow_iff.symm

theorem IsBelow.refl (root : Path) : root.IsBelow root :=
  isBelow_iff.2 ⟨rfl, List.prefix_rfl⟩

theorem anchor_ofText_of_not (h : isAnchored s = false) : (ofText s).anchor = .relative := by
  cases s with
  | nil => rfl
  | cons c s =>
    have hc : c ≠ '/' := by simpa [isAnchored] using h
    rw [ofText, List.takeWhile_cons_of_neg (by simpa using hc)]
    rfl

theorem IsBelow.hDiv (h : root.IsBelow p) (hs : isAnchored s = false) : root.IsBelow (p / s) := by
  have hrel := anchor_ofText_of_not hs
  obtain ⟨hanchor, hsegments⟩ := isBelow_iff.1 h
  rw [hDiv_eq, join_of_relative hrel]
  exact isBelow_iff.2 ⟨hanchor, hsegments.trans (List.prefix_append _ _)⟩

theorem hDiv_of_anchored (p : Path) (h : isAnchored s = true) : p / s = ofText s :=
  join_of_anchored (anchor_ofText h)

end Path

theorem isAnchored_append {s : Text} (hs : s ≠ []) (t : Text) :
    isAnchored (s ++ t) = isAnchored s := by
  obtain ⟨c, s, rfl⟩ := List.exists_cons_of_ne_nil hs
  rfl

theorem isAnchored_append_of_not {s t : Text} (hs : isAnchored s = false)
    (ht : isAnchored t = false) : isAnchored (s ++ t) = false := by
  cases s with
  | nil => exact ht
  | cons c s => exact hs

theorem isAnchored_of_isWord {s : Text} (hne : s ≠ []) (h : s.all isWord) :
    isAnchored s = false := by
  obtain ⟨c, s, rfl⟩ := List.exists_cons_of_ne_nil hne
  have hslash := (IsName.of_isWord hne h).slash
  have hc : c ≠ '/' := by
    intro hc
    exact hslash (hc ▸ List.mem_cons_self)
  simpa [isAnchored] using hc

section

variable {root base p : Path} {identity action : Text}

theorem not_isAnchored_namespace {segment : Text} (h : namespace? identity = some segment) :
    isAnchored segment = false ∧ isAnchored identity = false := by
  rw [namespace?] at h
  split at h
  · next hne =>
    obtain rfl := Option.some.inj h
    cases identity with
    | nil => exact ⟨rfl, rfl⟩
    | cons c identity =>
      have hc : c ≠ '/' := by
        intro hc
        simp [hc] at hne
      have hcons : isAnchored (c :: identity) = false := by simpa [isAnchored] using hc
      rw [List.takeWhile_cons_of_pos (by simpa using hc)]
      exact ⟨hcons, hcons⟩
  · cases h

theorem isBelow_of_mem_searchRoots (h : base ∈ searchRoots .standard root identity) :
    root.IsBelow base := by
  have hdirs : ∀ dir ∈ standard.multiRootDirs, isAnchored dir = false := by decide
  rw [searchRoots] at h
  split at h
  · next segment hsegment =>
    have hrel := (not_isAnchored_namespace hsegment).1
    rcases List.mem_cons.1 h with rfl | h
    · exact .refl _
    · obtain ⟨dir, hdir, rfl⟩ := List.mem_map.1 h
      exact ((Path.IsBelow.refl root).hDiv (hdirs dir hdir)).hDiv hrel
  · exact List.mem_singleton.1 h ▸ .refl _

/-- An anchored identity names no sub-application. -/
theorem searchRoots_of_anchored (conv : Conventions) (h : isAnchored identity = true) :
    searchRoots conv root identity = [root] := by
  rw [searchRoots]
  split
  · next segment hsegment =>
    have hrel := (not_isAnchored_namespace hsegment).2
    simp [h] at hrel
  · rfl

theorem isBelow_viewCandidates (hi : isAnchored identity = false) (ha : isAnchored action = false)
    (hp : p ∈ viewCandidates .standard (searchRoots .standard root identity) identity action) :
    root.IsBelow p := by
  have hextensions : ∀ extension ∈ standard.viewExtensions, isAnchored extension = false := by
    decide
  obtain ⟨base, hbase, hp⟩ := List.mem_flatMap.1 hp
  obtain ⟨extension, hext, rfl⟩ := List.mem_map.1 hp
  have hfile := isAnchored_append_of_not ha (hextensions extension hext)
  have happ := (isBelow_of_mem_searchRoots hbase).hDiv (s := standard.appDir) (by decide)
  have hviews := happ.hDiv (s := standard.viewsDir) (by decide)
  exact (hviews.hDiv hi).hDiv hfile

theorem isBelow_controllerCandidates (hi : isAnchored identity = false)
    (hp : p ∈ controllerCandidates .standard (searchRoots .standard root identity) identity) :
    root.IsBelow p := by
  obtain ⟨base, hbase, rfl⟩ := List.mem_map.1 hp
  have hfile := isAnchored_append_of_not hi (t := standard.controllerFileSuffix) (by decide)
  have happ := (isBelow_of_mem_searchRoots hbase).hDiv (s := standard.appDir) (by decide)
  have hcontrollers := happ.hDiv (s := standard.controllersDir) (by decide)
  exact hcontrollers.hDiv hfile

end

/-- Where a lookup leads when its identity is anchored. -/
def Lookup.unrooted (conv : Conventions) (found : Lookup) : List Path :=
  match found.kind with
  | .controller => conv.viewExtensions.map fun extension =>
      Path.ofText found.identity / (found.action ++ extension)
  | _ => [Path.ofText (found.identity ++ conv.controllerFileSuffix)]

theorem candidates_of_anchored {conv : Conventions} {doc : Document} {root : Path} {found : Lookup}
    (h : Lookup.find conv doc root = .ok found) (hi : isAnchored found.identity = true) :
    found.candidates = found.unrooted conv := by
  rcases Lookup.find_cases h with ⟨identity, action, -, -, -, rfl⟩ | ⟨identity, action, -, -, rfl⟩
  · replace hi : isAnchored identity = true := hi
    have hroots : searchRoots conv root identity = [root] := searchRoots_of_anchored conv hi
    simp only [Lookup.ofAction, Lookup.unrooted, viewCandidates, hroots, List.flatMap_singleton,
      Path.hDiv_of_anchored _ hi]
  · replace hi : isAnchored identity = true := hi
    have hroots : searchRoots conv root identity = [root] := searchRoots_of_anchored conv hi
    have hne : identity ≠ [] := by
      rintro rfl
      cases hi
    have hfile : isAnchored (identity ++ conv.controllerFileSuffix) = true :=
      (isAnchored_append hne _).trans hi
    simp only [Lookup.ofTarget, Lookup.unrooted, controllerCandidates, hroots, List.map_cons,
      List.map_nil, Path.hDiv_of_anchored _ hfile]

/-- What is read off a path behind a directory is anchored only behind two separators. -/
theorem doubled_separator (dir : Text) {path root identity : Text}
    (h : '/' :: (dir ++ ['/']) ++ identity <:+: workspaceRelative path root)
    (hi : isAnchored identity = true) : ['/', '/'] <:+: forwardSlashes path := by
  obtain ⟨rest, he, hrest⟩ := workspaceRelative_suffix path root
  obtain ⟨c, tail, rfl⟩ := List.exists_cons_of_ne_nil (l := identity) (by rintro rfl; cases hi)
  obtain rfl : c = '/' := by simpa [isAnchored] using hi
  have hbehind : dir ++ ['/'] ++ '/' :: tail <:+: rest := by
    rw [he] at h
    rcases List.infix_cons_iff.1 h with hstart | hlater
    · exact (List.cons_prefix_cons.1 hstart).2.isInfix
    · exact (List.suffix_cons _ _).isInfix.trans hlater
  have hdoubled : ['/', '/'] <:+: dir ++ ['/'] ++ '/' :: tail :=
    ⟨dir, tail, by simp⟩
  exact (hdoubled.trans hbehind).trans hrest.isInfix

/-- A lookup stays below its workspace unless the identity is anchored. An anchored identity is read
off a path with two separators in a row, and then the workspace has no part in the candidates. -/
theorem candidates_below_unless_anchored {doc : Document} {root : Path} {found : Lookup}
    (h : Lookup.find .standard doc root = .ok found) :
    (isAnchored found.identity = false → ∀ p ∈ found.candidates, root.IsBelow p) ∧
      (isAnchored found.identity = true → ['/', '/'] <:+: forwardSlashes doc.path ∧
        found.candidates = found.unrooted .standard) := by
  have hself := forwardSlashes_forwardSlashes doc.path
  refine ⟨fun hi => ?_, fun hi => ⟨?_, candidates_of_anchored h hi⟩⟩
  · rcases Lookup.find_cases h with
      ⟨identity, action, -, -, haction, rfl⟩ | ⟨identity, action, -, -, rfl⟩
    · intro p hp
      obtain ⟨hne, hword, -⟩ := methodOffset?_enclosingMethod? (by decide) haction
      exact isBelow_viewCandidates hi (isAnchored_of_isWord hne hword) hp
    · intro p hp
      exact isBelow_controllerCandidates hi hp
  · rcases Lookup.find_cases h with
      ⟨identity, action, -, hidentity, -, rfl⟩ | ⟨identity, action, -, htarget, rfl⟩
    · have hwithin := controllerIdentity?_within hidentity
      rw [← hself]
      exact doubled_separator standard.controllersDir hwithin hi
    · have hwithin := (viewTarget?_within htarget).1
      rw [← hself]
      exact doubled_separator standard.viewsDir hwithin hi

/-- Segments that lead upward stay below the workspace, as far as their spelling goes. -/
theorem upward_view_below :
    Lookup.find .standard ⟨"/ws/app/views\\cms/../x/index.html.erb", "", 0⟩ (.ofText "/ws") =
        .ok (.ofTarget .standard (.ofText "/ws") "cms/../x" "index") ∧
      ∀ p ∈ (Lookup.ofTarget .standard (.ofText "/ws") "cms/../x" "index").candidates,
        (Path.ofText "/ws").IsBelow p := by
  have hfind : Lookup.find .standard ⟨"/ws/app/views\\cms/../x/index.html.erb", "", 0⟩
      (.ofText "/ws") = .ok (.ofTarget .standard (.ofText "/ws") "cms/../x" "index") := by
    decide +kernel
  exact ⟨hfind, (candidates_below_unless_anchored hfind).1 (by decide)⟩

theorem doubled_separator_leaves_workspace :
    ∃ found, Lookup.find .standard
        ⟨"/ws/app/controllers//etc/x_controller.rb", "def index\n", 9⟩ (.ofText "/ws") =
          .ok found ∧
      ∃ p ∈ found.candidates, p.text = "/etc/x/index.html.erb" ∧
        ¬ (Path.ofText "/ws").IsBelow p := by
  refine ⟨.ofAction .standard (.ofText "/ws") "/etc/x" "index", ?_,
    .ofText "/etc/x/index.html.erb", ?_, ?_, ?_⟩ <;> decide +kernel

end Counterpart
