import Mathlib.Data.List.Nodup
import Mathlib.Data.Prod.Lex
import Mathlib.Order.ConditionallyCompleteLattice.Basic
import Mathlib.Order.SymmDiff
import Counterpart.Proofs.Containment

/-! The order of precedence among candidates. All endings are tried under one root before the next
root is turned to, no path is tried twice, and what exists behind the first candidate found has no
part in the search. -/

namespace Counterpart

open Conventions

/-! ### Candidates by root and ending -/

/-- Where a candidate stands: by its root, and under one root by its ending. -/
abbrev Rank := ℕ ×ₗ ℕ

/-- Paths made of each root and each ending. -/
structure Grid where
  roots : List Path
  endings : List Text
  place : Path → Text → Path

namespace Grid

variable (g : Grid)

def at? (rank : Rank) : Option Path :=
  (g.roots[(ofLex rank).1]?).bind fun root => (g.endings[(ofLex rank).2]?).map (g.place root)

def candidates : List Path := g.roots.flatMap fun root => g.endings.map (g.place root)

/-- The number of a candidate among all. -/
def number (rank : Rank) : ℕ := (ofLex rank).1 * g.endings.length + (ofLex rank).2

variable {g} {rank other : Rank} {p : Path}

theorem snd_lt (h : g.at? rank = some p) : (ofLex rank).2 < g.endings.length := by
  obtain ⟨root, -, hp⟩ := Option.bind_eq_some_iff.1 h
  obtain ⟨ending, he, -⟩ := Option.map_eq_some_iff.1 hp
  exact (List.getElem?_eq_some_iff.1 he).1

theorem length_candidates : g.candidates.length = g.roots.length * g.endings.length := by
  simp [candidates, List.length_flatMap]

theorem getElem?_candidates (h : (ofLex rank).2 < g.endings.length) :
    g.candidates[g.number rank]? = g.at? rank := by
  obtain ⟨roots, endings, place⟩ := g
  obtain ⟨⟨i, j⟩, rfl⟩ := toLex.surjective rank
  simp only [candidates, number, at?, ofLex_toLex] at h ⊢
  induction roots generalizing i with
  | nil => simp
  | cons root roots ih =>
    have hlength : (endings.map (place root)).length = endings.length := List.length_map _
    rw [List.flatMap_cons]
    cases i with
    | zero =>
      rw [Nat.zero_mul, Nat.zero_add, List.getElem?_append_left (hlength ▸ h), List.getElem?_map]
      rfl
    | succ i =>
      have hskip : (i + 1) * endings.length + j - endings.length = i * endings.length + j := by
        rw [Nat.succ_mul]
        omega
      rw [List.getElem?_append_right (by rw [hlength, Nat.succ_mul]; omega), hlength, hskip, ih]
      rfl

theorem getElem?_number (h : g.at? rank = some p) : g.candidates[g.number rank]? = some p :=
  (getElem?_candidates (snd_lt h)).trans h

theorem exists_rank {k : ℕ} (h : g.candidates[k]? = some p) :
    ∃ rank, g.number rank = k ∧ g.at? rank = some p := by
  have hk := (List.getElem?_eq_some_iff.1 h).1
  rw [length_candidates] at hk
  have hpos : 0 < g.endings.length := Nat.pos_of_mul_pos_left (Nat.zero_lt_of_lt hk)
  have hnumber : g.number (toLex (k / g.endings.length, k % g.endings.length)) = k :=
    Nat.div_add_mod' k g.endings.length
  have hget := @getElem?_candidates g (toLex (k / g.endings.length, k % g.endings.length))
    (Nat.mod_lt k hpos)
  exact ⟨_, hnumber, by rw [← hget, hnumber, h]⟩

theorem mem_candidates_iff : p ∈ g.candidates ↔ ∃ rank, g.at? rank = some p := by
  constructor
  · intro h
    obtain ⟨k, hk⟩ := List.mem_iff_getElem?.1 h
    obtain ⟨rank, -, hrank⟩ := exists_rank hk
    exact ⟨rank, hrank⟩
  · rintro ⟨rank, hrank⟩
    exact List.mem_of_getElem? (getElem?_number hrank)

/-- Candidates are numbered in the order of their ranks. -/
theorem number_le_iff (h : (ofLex rank).2 < g.endings.length)
    (h' : (ofLex other).2 < g.endings.length) : g.number rank ≤ g.number other ↔ rank ≤ other := by
  obtain ⟨⟨i, j⟩, rfl⟩ := toLex.surjective rank
  obtain ⟨⟨i', j'⟩, rfl⟩ := toLex.surjective other
  simp only [number, Prod.Lex.le_iff, ofLex_toLex] at h h' ⊢
  rcases lt_trichotomy i i' with hlt | rfl | hlt
  · have := Nat.mul_le_mul_right g.endings.length (Nat.succ_le_of_lt hlt)
    rw [Nat.succ_mul] at this
    omega
  · omega
  · have := Nat.mul_le_mul_right g.endings.length (Nat.succ_le_of_lt hlt)
    rw [Nat.succ_mul] at this
    omega

theorem rank_unique (hnodup : g.candidates.Nodup) (h : g.at? rank = some p)
    (h' : g.at? other = some p) : rank = other := by
  have hlt := (List.getElem?_eq_some_iff.1 (getElem?_number h)).1
  have hnumber : g.number rank = g.number other := (List.getElem?_inj hlt hnodup).1 <|
    (getElem?_number h).trans (getElem?_number h').symm
  exact le_antisymm ((number_le_iff (snd_lt h) (snd_lt h')).1 hnumber.le)
    ((number_le_iff (snd_lt h') (snd_lt h)).1 hnumber.ge)

/-- The ranks of the candidates that exist. -/
def ranksOf (g : Grid) (existing : Set Path) : Set Rank :=
  {rank | ∃ p ∈ existing, g.at? rank = some p}

theorem find?_eq_some_iff {exist : Path → Bool} : g.candidates.find? exist = some p ↔
    ∃ rank, g.at? rank = some p ∧ IsLeast (g.ranksOf {q | exist q}) rank := by
  have hleast {q : Path} (h : g.candidates.find? exist = some q) :
      ∃ rank, g.at? rank = some q ∧ IsLeast (g.ranksOf {q | exist q}) rank := by
    obtain ⟨hq, k, hk, hget, hbefore⟩ := List.find?_eq_some_iff_getElem.1 h
    obtain ⟨rank, rfl, hrank⟩ := exists_rank (List.getElem?_eq_some_iff.2 ⟨hk, hget⟩)
    refine ⟨rank, hrank, ⟨q, hq, hrank⟩, ?_⟩
    rintro other ⟨q', hq', hother⟩
    refine (number_le_iff (snd_lt hrank) (snd_lt hother)).1 (Nat.not_lt.1 fun hlt => ?_)
    obtain ⟨hlt', hget'⟩ := List.getElem?_eq_some_iff.1 (getElem?_number hother)
    have hnot := hbefore _ hlt
    rw [hget', show exist q' = true from hq'] at hnot
    cases hnot
  refine ⟨hleast, ?_⟩
  rintro ⟨rank, hrank, hmin⟩
  obtain ⟨q, hq, hrank'⟩ := hmin.1
  obtain rfl := Option.some.inj (hrank.symm.trans hrank')
  cases hfind : g.candidates.find? exist with
  | none => exact absurd hq (List.find?_eq_none.1 hfind p (mem_candidates_iff.2 ⟨rank, hrank⟩))
  | some q =>
    obtain ⟨other, hother, hmin'⟩ := hleast hfind
    rw [← hother, ← hrank, hmin.unique hmin']

theorem nodup_candidates (hroots : g.roots.Nodup) (hendings : g.endings.Nodup)
    (hplace : ∀ root ∈ g.roots, ∀ root' ∈ g.roots, ∀ e ∈ g.endings, ∀ e' ∈ g.endings,
      g.place root e = g.place root' e' → root = root' ∧ e = e') : g.candidates.Nodup := by
  refine List.nodup_flatMap.2 ⟨fun root hroot => ?_, ?_⟩
  · exact hendings.map_on fun e he e' he' heq => (hplace root hroot root hroot e he e' he' heq).2
  · refine hroots.imp_of_mem fun {root root'} hroot hroot' hne p hp hp' => hne ?_
    obtain ⟨e, he, rfl⟩ := List.mem_map.1 hp
    obtain ⟨e', he', heq⟩ := List.mem_map.1 hp'
    exact (hplace root hroot root' hroot' e he e' he' heq.symm).1

end Grid

/-! ### The search -/

/-- Whatever a probe says besides, it says which paths exist. One that fails says that of none. -/
def Tells (probe : Probe) (existing : Set Path) : Prop := ∀ p,
  (∃ r, probe p = .ok r ∧ r.path = p ∧ (r.status = .present ↔ p ∈ existing)) ∨
    ∃ e, probe p = .error e ∧ e.isCancelled = false ∧ p ∉ existing

/-- What searching candidates comes to, in whatever order the probes finish. -/
structure Finds (probe : Probe) (candidates : List Path) (found : Option Path) : Prop where
  inAnyOrder : ∀ completion : List ℕ, completion.Perm (List.range candidates.length) →
    (probeAll probe candidates completion).map firstFound? = .ok found
  byNavigator : ∀ {σ : Type} (nav : Navigator σ) (w : Journaled σ), nav.probe w.state = probe →
    ((nav.firstExisting candidates).run.run w).1 = .ok found

section

variable {probe : Probe} {candidates : List Path} {existing : Set Path}

theorem Finds.unique {found found' : Option Path} (h : Finds probe candidates found)
    (h' : Finds probe candidates found') : found = found' :=
  Except.ok.inj ((h.inAnyOrder _ (.refl _)).symm.trans (h'.inAnyOrder _ (.refl _)))

open Classical in
theorem Tells.finds (h : Tells probe existing) (candidates : List Path) :
    Finds probe candidates (candidates.find? (· ∈ existing)) := by
  have hcalm : ∀ p, (Settled.mk p (probe p)).isCancelled = false := by
    intro p
    rcases h p with ⟨r, hr, -⟩ | ⟨e, he, hcancel, -⟩
    · rw [hr]; rfl
    · rw [he]; exact hcancel
  have hpath : ∀ p, (Settled.mk p (probe p)).result.path = p := by
    intro p
    rcases h p with ⟨r, hr, hp, -⟩ | ⟨e, he, -⟩
    · rw [hr]; exact hp
    · rw [he]; rfl
  have hfound : ∀ p, (Settled.mk p (probe p)).result.found = decide (p ∈ existing) := by
    intro p
    rcases h p with ⟨r, hr, -, hstatus⟩ | ⟨e, he, -, hnot⟩
    · rw [hr]
      simp only [Settled.result, ProbeResult.found, ← hstatus]
      rfl
    · rw [he, decide_eq_false hnot]; rfl
  have hall : ∀ completion : List ℕ, completion.Perm (List.range candidates.length) →
      (probeAll probe candidates completion).map firstFound? =
        .ok (candidates.find? (· ∈ existing)) := by
    intro completion hperm
    have hnone : ∀ call ∈ candidates.map fun p => Settled.mk p (probe p),
        call.isCancelled = false := List.forall_mem_map.2 fun p _ => hcalm p
    rw [probeAll, gather_eq_map hperm, collect_of_not_cancelled hnone, List.map_map, Except.map,
      firstFound?, List.find?_map, Option.map_map,
      show ProbeResult.found ∘ Settled.result ∘ (fun p => ⟨p, probe p⟩) =
        fun p => decide (p ∈ existing) from funext hfound,
      show ProbeResult.path ∘ Settled.result ∘ (fun p => ⟨p, probe p⟩) = id from funext hpath,
      Option.map_id]
    rfl
  refine ⟨hall, ?_⟩
  rintro σ nav w rfl
  obtain ⟨journal, hrun⟩ := nav.firstExisting_run (List.Perm.refl _) w
  rw [hrun]
  exact hall _ (.refl _)

theorem FileTree.tells (tree : FileTree) : Tells tree.probe {p | tree.holds p} := by
  refine fun p => .inl ⟨tree.answer p, tree.probe_eq p, tree.answer_path p, ?_⟩
  rw [Set.mem_ofPred_eq, ← tree.answer_found, ProbeResult.found, beq_iff_eq]

/-- Candidates are distinct, numbered root by root, and searched in that order; what there is at
later ones does not matter. -/
structure Grid.RootMajor (g : Grid) (candidates : List Path) : Prop where
  distinct : candidates.Nodup
  length_eq : candidates.length = g.roots.length * g.endings.length
  numbered : ∀ i j, j < g.endings.length →
    candidates[i * g.endings.length + j]? = g.at? (toLex (i, j))
  none_found : ∀ {probe existing}, Tells probe existing →
    (Finds probe candidates none ↔ ∀ p ∈ candidates, p ∉ existing)
  first_found : ∀ {probe existing p}, Tells probe existing →
    (Finds probe candidates (some p) ↔
      ∃ rank, g.at? rank = some p ∧ IsLeast (g.ranksOf existing) rank)
  later_unread : ∀ {probe probe' existing existing' p rank}, Tells probe existing →
    Tells probe' existing' → Finds probe candidates (some p) → g.at? rank = some p →
    (∀ q ∈ symmDiff existing existing', ∃ later > rank, g.at? later = some q) →
    Finds probe' candidates (some p)

theorem Tells.finds_iff (h : Tells probe existing) {g : Grid} {p : Path} :
    Finds probe g.candidates (some p) ↔
      ∃ rank, g.at? rank = some p ∧ IsLeast (g.ranksOf existing) rank := by
  classical
  have hset : {q | decide (q ∈ existing) = true} = existing := by simp
  have hiff := @Grid.find?_eq_some_iff g p (fun q => decide (q ∈ existing))
  rw [hset] at hiff
  rw [← hiff]
  exact ⟨fun hp => (h.finds _).unique hp, fun hp => hp ▸ h.finds _⟩

theorem Tells.finds_none_iff (h : Tells probe existing) :
    Finds probe candidates none ↔ ∀ p ∈ candidates, p ∉ existing := by
  classical
  have hiff := @List.find?_eq_none Path (fun q => decide (q ∈ existing)) candidates
  simp only [decide_eq_true_eq] at hiff
  rw [← hiff]
  exact ⟨fun hp => (h.finds _).unique hp, fun hp => hp ▸ h.finds _⟩

theorem Grid.isLeast_of_later {g : Grid} (hnodup : g.candidates.Nodup) {existing' : Set Path}
    {rank : Rank} {p : Path} (hrank : g.at? rank = some p)
    (hleast : IsLeast (g.ranksOf existing) rank)
    (hlater : ∀ q ∈ symmDiff existing existing', ∃ later > rank, g.at? later = some q) :
    IsLeast (g.ranksOf existing') rank := by
  obtain ⟨q, hq, hq'⟩ := hleast.1
  obtain rfl := Option.some.inj (hrank.symm.trans hq')
  constructor
  · refine ⟨p, by_contra fun hnot => ?_, hrank⟩
    obtain ⟨later, hlt, hl⟩ := hlater p (.inl ⟨hq, hnot⟩)
    exact hlt.ne (Grid.rank_unique hnodup hrank hl)
  · rintro other ⟨q, hin, hother⟩
    by_cases hexisting : q ∈ existing
    · exact hleast.2 ⟨q, hexisting, hother⟩
    · obtain ⟨later, hlt, hl⟩ := hlater q (.inr ⟨hin, hexisting⟩)
      exact Grid.rank_unique hnodup hl hother ▸ hlt.le

theorem Grid.rootMajor {g : Grid} (hnodup : g.candidates.Nodup) : g.RootMajor g.candidates where
  distinct := hnodup
  length_eq := g.length_candidates
  numbered i j hj := @Grid.getElem?_candidates g (toLex (i, j)) hj
  none_found h := h.finds_none_iff
  first_found h := h.finds_iff
  later_unread h h' hp hrank hlater := by
    obtain ⟨other, hother, hleast⟩ := h.finds_iff.1 hp
    obtain rfl := Grid.rank_unique hnodup hother hrank
    exact h'.finds_iff.2 ⟨other, hrank, Grid.isLeast_of_later hnodup hrank hleast hlater⟩

end

/-! ### Views and controllers -/

theorem Path.hDiv_injective {s : Text} (hs : isAnchored s = false) :
    Function.Injective fun p : Path => p / s := by
  intro p q h
  obtain ⟨anchor, segments⟩ := p
  obtain ⟨anchor', segments'⟩ := q
  simp only [hDiv_eq, join_of_relative (anchor_ofText_of_not hs), Path.mk.injEq,
    List.append_cancel_right_eq] at h
  exact congrArg₂ Path.mk h.1 h.2

theorem Path.hDiv_name_inj {p q : Path} {name other : Text} (h : IsName name) (ho : IsName other)
    (he : p / name = q / other) : p = q ∧ name = other := by
  rw [p.hDiv_name h, q.hDiv_name ho, Path.mk.injEq] at he
  obtain ⟨hsegments, hlast⟩ := List.append_inj' he.2 rfl
  exact ⟨congrArg₂ Path.mk he.1 hsegments, List.singleton_inj.1 hlast⟩

theorem nodup_searchRoots (workspace : Path) (identity : Text) :
    (searchRoots .standard workspace identity).Nodup := by
  rw [searchRoots]
  split
  · next segment hsegment =>
    have hrel := (not_isAnchored_namespace hsegment).1
    refine List.nodup_cons.2 ⟨fun hmem => ?_, ?_⟩
    · obtain ⟨dir, hdir, he⟩ := List.mem_map.1 hmem
      have hlength := congrArg (fun p : Path => p.segments.length) he
      simp only [Path.hDiv_name _ (isName_multiRootDir hdir), Path.hDiv_eq,
        Path.join_of_relative (Path.anchor_ofText_of_not hrel), List.length_append,
        List.length_singleton] at hlength
      omega
    · refine List.Nodup.map_on (fun dir hdir dir' hdir' he => ?_) (by decide)
      exact (Path.hDiv_name_inj (isName_multiRootDir hdir) (isName_multiRootDir hdir')
        (Path.hDiv_injective hrel he)).2
  · exact List.nodup_singleton _

/-- Under two roots an identity never leads to one path. -/
theorem root_unique {workspace root root' : Path} {identity rest : Text} {dirs : List Text}
    (hdirs : ∀ dir ∈ dirs, isAnchored dir = false)
    (hrest : isAnchored identity = false → isAnchored rest = false)
    (hroot : root ∈ searchRoots .standard workspace identity)
    (hroot' : root' ∈ searchRoots .standard workspace identity)
    (he : dirs.foldl (· / ·) root / rest = dirs.foldl (· / ·) root' / rest) : root = root' := by
  cases hi : isAnchored identity with
  | true =>
    rw [searchRoots_of_anchored _ hi] at hroot hroot'
    rw [List.mem_singleton.1 hroot, List.mem_singleton.1 hroot']
  | false =>
    have hfold := Path.hDiv_injective (hrest hi) he
    clear he hroot hroot'
    induction dirs generalizing root root' with
    | nil => exact hfold
    | cons dir dirs ih =>
      rw [List.forall_mem_cons] at hdirs
      exact Path.hDiv_injective hdirs.1 (ih hdirs.2 hfold)

def viewGrid (workspace : Path) (identity action : Text) : Grid where
  roots := searchRoots .standard workspace identity
  endings := standard.viewExtensions
  place root extension :=
    root / standard.appDir / standard.viewsDir / identity / (action ++ extension)

def controllerGrid (workspace : Path) (identity : Text) : Grid where
  roots := searchRoots .standard workspace identity
  endings := [standard.controllerFileSuffix]
  place root suffix := root / standard.appDir / standard.controllersDir / (identity ++ suffix)

theorem nodup_viewGrid (workspace : Path) (identity : Text) {action : Text} (hne : action ≠ [])
    (hw : action.all isWord) : (viewGrid workspace identity action).candidates.Nodup := by
  have hendings : standard.viewExtensions.Nodup := by decide
  refine Grid.nodup_candidates (nodup_searchRoots _ _) hendings ?_
  intro root hroot root' hroot' e he e' he' heq
  have hname {e : Text} (he : e ∈ standard.viewExtensions) : IsName (action ++ e) := by
    obtain ⟨hs, hb, hn, -⟩ := extension_cases e he
    exact (IsName.of_isWord hne hw).append hs hb hn
  obtain ⟨hbase, hfile⟩ := Path.hDiv_name_inj (hname he) (hname he') heq
  refine ⟨?_, List.append_cancel_left hfile⟩
  exact @root_unique workspace root root' identity identity [standard.appDir, standard.viewsDir]
    (by decide) id hroot hroot' hbase

theorem nodup_controllerGrid (workspace : Path) (identity : Text) :
    (controllerGrid workspace identity).candidates.Nodup := by
  refine Grid.nodup_candidates (nodup_searchRoots _ _) (List.nodup_singleton _) ?_
  intro root hroot root' hroot' e he e' he' heq
  obtain rfl := List.mem_singleton.1 he
  obtain rfl := List.mem_singleton.1 he'
  have hfile (h : isAnchored identity = false) :
      isAnchored (identity ++ standard.controllerFileSuffix) = false :=
    isAnchored_append_of_not h (by decide)
  exact ⟨@root_unique workspace root root' identity _ [standard.appDir, standard.controllersDir]
    (by decide) hfile hroot hroot' heq, rfl⟩

theorem candidates_controllerGrid (workspace : Path) (identity : Text) :
    (controllerGrid workspace identity).candidates =
      controllerCandidates .standard (searchRoots .standard workspace identity) identity :=
  List.flatMap_pure_eq_map _ _

/-- Views are searched root by root with nine extensions under each, controllers with one file
under each root. -/
theorem candidates_root_major (workspace : Path) (identity : Text) :
    (∀ action : Text, action ≠ [] → action.all isWord →
      (viewGrid workspace identity action).endings.length = 9 ∧
      (viewGrid workspace identity action).RootMajor
        (viewCandidates .standard (searchRoots .standard workspace identity) identity action)) ∧
    (controllerGrid workspace identity).endings.length = 1 ∧
    (controllerGrid workspace identity).RootMajor
      (controllerCandidates .standard (searchRoots .standard workspace identity) identity) := by
  refine ⟨fun action hne hw => ⟨rfl, Grid.rootMajor (nodup_viewGrid workspace identity hne hw)⟩,
    rfl, ?_⟩
  rw [← candidates_controllerGrid]
  exact Grid.rootMajor (nodup_controllerGrid workspace identity)

/-- A workspace where an action has a view in a domain and one in an application. -/
def ordersTree : FileTree :=
  let application : Place := ["ws", "apps", "cms", "app", "views", "cms", "orders"]
  let domain : Place := ["ws", "domains", "cms", "app", "views", "cms", "orders"]
  { entries := (application.inits ++ domain.inits).map (·, .directory) ++ [
      (application ++ [("index.html.erb" : Text)], .file []),
      (domain ++ [("index.text.erb" : Text)], .file [])]
    workingDirectory := [] }

/-- The domain comes first, though its view has the last extension. -/
theorem candidates_root_major_orders :
    (("index" : Text) ≠ [] ∧ ("index" : Text).all isWord) ∧
      Finds ordersTree.probe (viewCandidates .standard
          (searchRoots .standard (.ofText "/ws") "cms/orders") "cms/orders" "index")
        (some (.ofText "/ws/domains/cms/app/views/cms/orders/index.text.erb")) := by
  have haction : ("index" : Text) ≠ [] ∧ ("index" : Text).all isWord := by decide
  obtain ⟨hviews, -⟩ := candidates_root_major (.ofText "/ws") "cms/orders"
  obtain ⟨-, hmajor⟩ := hviews "index" haction.1 haction.2
  have hfirst : (viewGrid (.ofText "/ws") "cms/orders" "index").candidates.find?
      ordersTree.holds = some (.ofText "/ws/domains/cms/app/views/cms/orders/index.text.erb") := by
    decide +kernel
  exact ⟨haction, (hmajor.first_found ordersTree.tells).2 (Grid.find?_eq_some_iff.1 hfirst)⟩

end Counterpart
