import Mathlib.Data.List.Perm.Subperm
import Counterpart.Proofs.RealPath

/-! Walks and real paths in trees with links. A walk that gets through, however many links it
follows, leads to the place that the path resolves to. -/

namespace Counterpart

theorem isSegment_upward : isSegment upward = true := by decide

namespace FileTree

/-- Where the target of a link is walked from, given the place of the link. -/
def linkStart (place : Place) (target : Text) : Place :=
  if isAnchored target then [] else place.dropLast

/-- A walk along names, with the number of links that it follows. -/
inductive Walks (tree : FileTree) : Place → List Text → Nat → Place → Prop where
  | done {here : Place} : Walks tree here [] 0 here
  | skip {here place : Place} {name : Text} {rest : List Text} {k : Nat}
      (hs : isSegment name = false) (h : Walks tree here rest k place) :
      Walks tree here (name :: rest) k place
  | up {here place : Place} {rest : List Text} {k : Nat}
      (h : Walks tree here.dropLast rest k place) : Walks tree here (upward :: rest) k place
  | down {here place : Place} {name : Text} {rest : List Text} {k : Nat}
      (hs : isSegment name = true) (hu : name ≠ upward)
      (he : ∀ target, tree.entry? (here ++ [name]) ≠ some (.link target))
      (h : Walks tree (here ++ [name]) rest k place) : Walks tree here (name :: rest) k place
  | link {here mid place : Place} {name target : Text} {rest : List Text} {k k' : Nat}
      (hs : isSegment name = true) (hu : name ≠ upward)
      (he : tree.entry? (here ++ [name]) = some (.link target))
      (ht : Walks tree (linkStart (here ++ [name]) target) (target.splitOn '/') k mid)
      (h : Walks tree mid rest k' place) : Walks tree here (name :: rest) (k + 1 + k') place

namespace Walks

variable {tree : FileTree} {here place : Place} {names : List Text} {k : Nat}

theorem split {rest : List Text} (h : Walks tree here (names ++ rest) k place) :
    ∃ mid before after, Walks tree here names before mid ∧ Walks tree mid rest after place ∧
      k = before + after := by
  induction names generalizing here k with
  | nil => exact ⟨here, 0, k, .done, h, (Nat.zero_add k).symm⟩
  | cons name names ih =>
    cases h with
    | skip hs h =>
      obtain ⟨mid, before, after, hb, ha, rfl⟩ := ih h
      exact ⟨mid, before, after, .skip hs hb, ha, rfl⟩
    | up h =>
      obtain ⟨mid, before, after, hb, ha, rfl⟩ := ih h
      exact ⟨mid, before, after, .up hb, ha, rfl⟩
    | down hs hu he h =>
      obtain ⟨mid, before, after, hb, ha, rfl⟩ := ih h
      exact ⟨mid, before, after, .down hs hu he hb, ha, rfl⟩
    | @link _ _ _ _ _ _ links _ hs hu he ht h =>
      obtain ⟨mid, before, after, hb, ha, rfl⟩ := ih h
      exact ⟨mid, links + 1 + before, after, .link hs hu he ht hb, ha, by omega⟩

theorem unique {place' : Place} {k' : Nat} (h : Walks tree here names k place)
    (h' : Walks tree here names k' place') : k = k' ∧ place = place' := by
  induction h generalizing place' k' with
  | done =>
    cases h'
    exact ⟨rfl, rfl⟩
  | skip hs _ ih =>
    cases h' with
    | skip _ h' => exact ih h'
    | up _ => exact absurd hs (by simp [isSegment_upward])
    | down hs' _ _ _ => simp [hs] at hs'
    | link hs' _ _ _ _ => simp [hs] at hs'
  | up _ ih =>
    cases h' with
    | skip hs' _ => simp [isSegment_upward] at hs'
    | up h' => exact ih h'
    | down _ hu _ _ => exact absurd rfl hu
    | link _ hu _ _ _ => exact absurd rfl hu
  | down hs hu he _ ih =>
    cases h' with
    | skip hs' _ => simp [hs] at hs'
    | up _ => exact absurd rfl hu
    | down _ _ _ h' => exact ih h'
    | link _ _ he' _ _ => exact absurd he' (he _)
  | link hs hu he _ _ iht ih =>
    cases h' with
    | skip hs' _ => simp [hs] at hs'
    | up _ => exact absurd rfl hu
    | down _ _ he' _ => exact absurd he (he' _)
    | link _ _ he' ht' h' =>
      obtain rfl := Entry.link.inj (Option.some.inj (he.symm.trans he'))
      obtain ⟨rfl, rfl⟩ := iht ht'
      obtain ⟨rfl, rfl⟩ := ih h'
      exact ⟨rfl, rfl⟩

end Walks

/-- A walk for an entry that gets through is one that follows links as far as they go. -/
theorem exists_walks_of_walkWith {tree : FileTree} {place : Place}
    {follow : Place → List Text → Except FileFault Place}
    (hf : ∀ here names, follow here names = .ok place → ∃ k, Walks tree here names k place)
    {here : Place} {names : List Text} (h : tree.walkWith .entry follow here names = .ok place) :
    ∃ k, Walks tree here names k place := by
  induction names generalizing here with
  | nil =>
    obtain rfl := Except.ok.inj h
    exact ⟨0, .done⟩
  | cons name rest ih =>
    rw [walkWith] at h
    split at h
    · cases h
    · cases h
    · cases h
    · cases h
    split at h
    · next hs =>
      obtain ⟨k, hk⟩ := ih h
      exact ⟨k, .skip (by simpa using hs) hk⟩
    next hs =>
    replace hs : isSegment name = true := by simpa using hs
    split at h
    · next hu =>
      obtain ⟨k, hk⟩ := ih h
      exact ⟨k, hu ▸ .up hk⟩
    next hu =>
    split at h
    · cases h
    split at h
    · cases h
    split at h
    · split at h
      · next hgoal => exact absurd hgoal.1 (by decide)
      · cases h
    · next target he =>
      obtain ⟨k, hk⟩ := hf _ _ h
      obtain ⟨mid, before, after, hb, ha, rfl⟩ := hk.split
      refine ⟨before + 1 + after, .link hs hu he ?_ ha⟩
      rwa [linkStart, List.dropLast_concat]
    · next entry hnot he =>
      obtain ⟨k, hk⟩ := ih h
      exact ⟨k, .down hs hu (fun target ht => hnot target (Option.some.inj (he.symm.trans ht))) hk⟩

theorem exists_walks_of_walk {tree : FileTree} {links : Nat} {here place : Place}
    {names : List Text} (h : tree.walk .entry links here names = .ok place) :
    ∃ k, Walks tree here names k place := by
  induction links generalizing here names with
  | zero => exact exists_walks_of_walkWith (fun _ _ hf => by cases hf) h
  | succ links ih => exact exists_walks_of_walkWith (fun _ _ hf => ih hf) h

theorem exists_walks_of_locate {tree : FileTree} {path : Path} {place : Place}
    (h : tree.locate path = .ok place) :
    ∃ k, Walks tree (tree.start path) path.segments k place := by
  rw [locate] at h
  split at h
  · cases h
  · exact exists_walks_of_walk h

/-! ### Places that paths stand for -/

/-- Only a relative path has names that lead upward. -/
def UpOnlyRelative (path : Path) : Prop := upward ∈ path.segments → path.anchor = .relative

variable {tree : FileTree} {here : Path}

theorem placeOf_push (name : Text) :
    tree.placeOf (here.push name) =
      if name = upward then (tree.placeOf here).dropLast else tree.placeOf here ++ [name] := by
  have hstart : tree.start (here.push name) = tree.start here := rfl
  rw [placeOf, hstart, Path.push, ← List.append_assoc, collapse_append]
  rfl

theorem placeOf_parent (h : UpOnlyRelative here) :
    tree.placeOf here.parent = (tree.placeOf here).dropLast := by
  rw [Path.parent]
  split
  · exact (placeOf_push upward).trans (if_pos rfl)
  · next hup =>
    obtain ⟨anchor, segments⟩ := here
    rcases List.eq_nil_or_concat' segments with rfl | ⟨above, name, rfl⟩
    · have hroot : anchor ≠ .relative := fun ha => hup ⟨ha, rfl⟩
      have hempty : tree.placeOf ⟨anchor, []⟩ = [] := by rw [placeOf, start, if_neg hroot]; rfl
      exact hempty.trans (congrArg List.dropLast hempty).symm
    · have hne : name ≠ upward := by
        rintro rfl
        exact hup ⟨h (by simp), by simp⟩
      have hpush := @placeOf_push tree ⟨anchor, above⟩ name
      rw [if_neg hne] at hpush
      rw [List.dropLast_concat]
      exact (List.dropLast_concat.symm.trans (congrArg List.dropLast hpush).symm)

theorem UpOnlyRelative.push (h : UpOnlyRelative here) {name : Text} (hu : name ≠ upward) :
    UpOnlyRelative (here.push name) := by
  intro hmem
  rcases List.mem_append.1 hmem with hmem | hmem
  · exact h hmem
  · exact absurd (List.mem_singleton.1 hmem).symm hu

theorem UpOnlyRelative.parent (h : UpOnlyRelative here) : UpOnlyRelative here.parent := by
  rw [Path.parent]
  split
  · next hup => exact fun _ => hup.1
  · exact fun hmem => h (List.dropLast_subset _ hmem)

theorem placeOf_linkStart {place : Place} (hh : tree.placeOf here = place)
    (hu : UpOnlyRelative here) (name target : Text) :
    tree.placeOf (if isAnchored target then ⟨.root, []⟩ else here) =
        linkStart (place ++ [name]) target ∧
      UpOnlyRelative (if isAnchored target then ⟨.root, []⟩ else here) := by
  rw [linkStart, List.dropLast_concat]
  split
  · exact ⟨rfl, fun hmem => absurd hmem List.not_mem_nil⟩
  · exact ⟨hh, hu⟩

/-! ### Resolving along a walk -/

/-- A link at a place leads on to another one, by way of a number of links. -/
def Leads (tree : FileTree) (place : Place) (k : Nat) (real : Place) : Prop :=
  ∃ target, tree.entry? place = some (.link target) ∧
    Walks tree (linkStart place target) (target.splitOn '/') k real

theorem Leads.unique {place real real' : Place} {k k' : Nat} (h : Leads tree place k real)
    (h' : Leads tree place k' real') : k = k' ∧ real = real' := by
  obtain ⟨target, he, hw⟩ := h
  obtain ⟨target', he', hw'⟩ := h'
  obtain rfl := Entry.link.inj (Option.some.inj (he.symm.trans he'))
  exact hw.unique hw'

/-- The links known to be resolved lead to their real paths. -/
def Resolves (tree : FileTree) (met : Met) : Prop :=
  ∀ link real, met.lookup link = some (some real) →
    UpOnlyRelative real ∧ ∃ n, Leads tree (tree.placeOf link) n (tree.placeOf real)

/-- What was met before a walk that follows `k` more links. The links being resolved are at the
places `opened`, and each of them needs at least as many. -/
structure Consistent (tree : FileTree) (met : Met) (opened : List Place) (k : Nat) : Prop where
  resolved : Resolves tree met
  unresolved : ∀ link, met.lookup link = some none → tree.placeOf link ∈ opened
  leads : ∀ place ∈ opened, ∃ n real, Leads tree place n real ∧ k ≤ n
  nodup : opened.Nodup

namespace Consistent

variable {met : Met} {opened : List Place} {k : Nat} (h : Consistent tree met opened k)

include h

theorem mono {k' : Nat} (hk : k' ≤ k) : Consistent tree met opened k' where
  resolved := h.resolved
  unresolved := h.unresolved
  leads place hplace := by
    obtain ⟨n, real, hreal, hn⟩ := h.leads place hplace
    exact ⟨n, real, hreal, by omega⟩
  nodup := h.nodup

/-- No more links can be under way than there are entries. -/
theorem length_le : opened.length ≤ tree.entries.length := by
  have hsub : opened ⊆ tree.entries.map Prod.fst := by
    intro place hplace
    obtain ⟨n, real, ⟨target, he, -⟩, -⟩ := h.leads place hplace
    have hlookup : tree.entries.lookup place = some (.link target) := by
      unfold entry? at he
      split at he
      · cases he
      · exact he
    obtain ⟨before, after, hentries, -⟩ := List.lookup_eq_some_iff.1 hlookup
    exact List.mem_map.2 ⟨(place, .link target), by simp [hentries], rfl⟩
  have hle := (List.subperm_of_subset h.nodup hsub).length_le
  rwa [List.length_map] at hle

/-- A link that still has to be followed is not under way: it would need more links than itself. -/
theorem not_mem {place real : Place} {n : Nat} (hl : Leads tree place n real) (hk : n < k) :
    place ∉ opened := by
  intro hmem
  obtain ⟨n', real', hl', hn⟩ := h.leads place hmem
  have hn' := (hl.unique hl').1
  omega

theorem enter {link : Path} {real : Place} {n : Nat} (hl : Leads tree (tree.placeOf link) n real)
    (hk : n < k) :
    Consistent tree ((link, none) :: met) (tree.placeOf link :: opened) n where
  resolved other place hother := by
    rw [List.lookup_cons] at hother
    split at hother
    · cases Option.some.inj hother
    · exact h.resolved other place hother
  unresolved other hother := by
    rw [List.lookup_cons] at hother
    split at hother
    · next heq => exact (beq_iff_eq.1 heq) ▸ List.mem_cons_self
    · exact List.mem_cons_of_mem _ (h.unresolved other hother)
  leads place hplace := by
    rcases List.mem_cons.1 hplace with rfl | hplace
    · exact ⟨n, real, hl, le_rfl⟩
    · exact (h.mono hk.le).leads place hplace
  nodup := List.nodup_cons.2 ⟨h.not_mem hl hk, h.nodup⟩

theorem leave {k' : Nat} {met' : Met} (hs : Resolves tree met')
    (hn : ∀ link, met'.lookup link = some none → met.lookup link = some none) (hk : k' ≤ k) :
    Consistent tree met' opened k' where
  resolved := hs
  unresolved link hlink := h.unresolved link (hn link hlink)
  leads := (h.mono hk).leads
  nodup := h.nodup

end Consistent

/-- What resolving comes to along a walk: a path that stands for the place the walk leads to. No
link is under way then that was not before. -/
def Arrives (tree : FileTree) (met : Met) (place : Place)
    (result : Except Path (Path × Met)) : Prop :=
  ∃ real met', result = .ok (real, met') ∧ tree.placeOf real = place ∧ UpOnlyRelative real ∧
    Resolves tree met' ∧ ∀ link, met'.lookup link = some none → met.lookup link = some none

namespace Arrives

variable {met : Met} {place : Place} {result : Except Path (Path × Met)}

theorem trans {met' : Met} (h : Arrives tree met' place result)
    (hm : ∀ link, met'.lookup link = some none → met.lookup link = some none) :
    Arrives tree met place result := by
  obtain ⟨real, last, hr, hp, hu, hs, hn⟩ := h
  exact ⟨real, last, hr, hp, hu, hs, fun link hlink => hm link (hn link hlink)⟩

/-- A link whose target is resolved is no longer under way. -/
theorem close {link : Path} {n : Nat} (h : Arrives tree ((link, none) :: met) place result)
    (hl : Leads tree (tree.placeOf link) n place) :
    ∃ real met', result = .ok (real, met') ∧ tree.placeOf real = place ∧ UpOnlyRelative real ∧
      Resolves tree ((link, some real) :: met') ∧
      ∀ other, List.lookup other ((link, some real) :: met') = some none →
        met.lookup other = some none := by
  obtain ⟨real, met', hr, rfl, hu, hs, hn⟩ := h
  refine ⟨real, met', hr, rfl, hu, fun other real' hother => ?_, fun other hother => ?_⟩
  · rw [List.lookup_cons] at hother
    split at hother
    · next heq =>
      obtain rfl := beq_iff_eq.1 heq
      obtain rfl := Option.some.inj (Option.some.inj hother)
      exact ⟨hu, n, hl⟩
    · exact hs other real' hother
  · rw [List.lookup_cons] at hother
    split at hother
    · cases Option.some.inj hother
    · next hne =>
      have hbefore := hn other hother
      rwa [List.lookup_cons, hne] at hbefore

end Arrives

/-- Resolving gets through wherever a walk does. It cannot run out of depth, for the links under way
at one time are different entries. -/
theorem resolveFrom_arrives {names : List Text} {k : Nat} {place start : Place}
    (hw : Walks tree start names k place) {d : Nat} {met : Met} {opened : List Place}
    {here : Path} (hh : tree.placeOf here = start) (hu : UpOnlyRelative here)
    (hc : Consistent tree met opened k) (hd : tree.entries.length ≤ opened.length + d) :
    Arrives tree met place (tree.resolveFrom (d + 1) met here names) := by
  -- On the walk; a link is one more under way in its target, and one less to follow after it.
  induction hw generalizing d met opened here with
  | done => exact ⟨here, met, rfl, hh, hu, hc.resolved, fun _ h => h⟩
  | skip hs _ ih =>
    have hi := ih hh hu hc hd
    rw [resolveFrom] at hi ⊢
    rwa [resolveWith, if_pos (by simp [hs])]
  | up _ ih =>
    have hi := ih ((placeOf_parent hu).trans (congrArg _ hh)) hu.parent hc hd
    rw [resolveFrom] at hi ⊢
    rwa [resolveWith, if_neg (by simp [isSegment_upward]), if_pos rfl]
  | @down _ _ name _ _ hs hup he _ ih =>
    have hpush : tree.placeOf (here.push name) = tree.placeOf here ++ [name] :=
      (placeOf_push name).trans (if_neg hup)
    rw [hh] at hpush
    have hi := ih hpush (hu.push hup) hc hd
    rw [resolveFrom] at hi ⊢
    rw [resolveWith, if_neg (by simp [hs]), if_neg hup, hpush]
    split
    · next target hlink => exact absurd hlink (he target)
    · exact hi
  | @link _ mid _ name target _ n k hs hup he ht _ iht ih =>
    have hpush : tree.placeOf (here.push name) = tree.placeOf here ++ [name] :=
      (placeOf_push name).trans (if_neg hup)
    rw [hh] at hpush
    have hleads : Leads tree (tree.placeOf (here.push name)) n mid := hpush ▸ ⟨target, he, ht⟩
    rw [resolveFrom, resolveWith, if_neg (by simp [hs]), if_neg hup, hpush, he]
    dsimp only
    split
    · next real hmet =>
      obtain ⟨hreal, n', hleads'⟩ := hc.resolved _ _ hmet
      have hi := ih (hleads.unique hleads').2.symm hreal (hc.mono (by omega)) hd
      rwa [resolveFrom] at hi
    · next hmet => exact absurd (hc.unresolved _ hmet) (hc.not_mem hleads (by omega))
    · have henter := hc.enter hleads (by omega)
      have hlength : opened.length + 1 ≤ tree.entries.length := henter.length_le
      obtain ⟨d, rfl⟩ := Nat.exists_eq_succ_of_ne_zero (by omega : d ≠ 0)
      obtain ⟨hbase, hrise⟩ := placeOf_linkStart hh hu name target
      obtain ⟨real, met', hr, hreal, hrise', hs', hn⟩ :=
        (iht (d := d) hbase hrise henter (by rw [List.length_cons]; omega)).close hleads
      have hi := ih hreal hrise' (hc.leave hs' hn (by omega)) hd
      rw [Nat.succ_eq_add_one, hr]
      rw [resolveFrom] at hi
      exact hi.trans hn

/-! ### Real places -/

/-- A place with proper names and without links on the way to it. -/
def IsDirect (tree : FileTree) (place : Place) : Prop :=
  ∀ before name after, place = before ++ name :: after → isSegment name = true ∧ name ≠ upward ∧
    ∀ target, tree.entry? (before ++ [name]) ≠ some (.link target)

namespace IsDirect

variable {place : Place}

theorem nil : tree.IsDirect [] := fun before name after h => by simp at h

theorem upward_not_mem (h : tree.IsDirect place) : upward ∉ place := by
  intro hmem
  obtain ⟨before, after, hsplit⟩ := List.append_of_mem hmem
  exact (h before upward after hsplit).2.1 rfl

theorem entry_ne_link (h : tree.IsDirect place) (target : Text) :
    tree.entry? place ≠ some (.link target) := by
  rcases List.eq_nil_or_concat' place with rfl | ⟨before, name, rfl⟩
  · unfold entry?
    rw [if_pos rfl]
    exact fun hlink => by cases hlink
  · exact (h before name [] rfl).2.2 target

theorem of_append {more : List Text} (h : tree.IsDirect (place ++ more)) : tree.IsDirect place :=
  fun before name after he => h before name (after ++ more) (by simp [he])

theorem dropLast (h : tree.IsDirect place) : tree.IsDirect place.dropLast := by
  rcases List.eq_nil_or_concat' place with rfl | ⟨above, name, rfl⟩
  · exact h
  · rw [List.dropLast_concat]
    exact h.of_append

theorem concat (h : tree.IsDirect place) {name : Text} (hs : isSegment name = true)
    (hu : name ≠ upward) (he : ∀ target, tree.entry? (place ++ [name]) ≠ some (.link target)) :
    tree.IsDirect (place ++ [name]) := by
  intro before other after heq
  rcases List.eq_nil_or_concat' after with rfl | ⟨after, last, rfl⟩
  · obtain ⟨rfl, hlast⟩ := List.append_inj' heq rfl
    obtain rfl := (List.cons.inj hlast).1
    exact ⟨hs, hu, he⟩
  · have heq' : place ++ [name] = (before ++ other :: after) ++ [last] := by simp [heq]
    exact h before other after (List.append_inj' heq' rfl).1

theorem linkStart (h : tree.IsDirect place) (name target : Text) :
    tree.IsDirect (linkStart (place ++ [name]) target) := by
  rw [FileTree.linkStart, List.dropLast_concat]
  split
  · exact nil
  · exact h

theorem walks {here : Place} {names : List Text} {k : Nat} (h : tree.IsDirect here)
    (hw : Walks tree here names k place) : tree.IsDirect place := by
  induction hw with
  | done => exact h
  | skip _ _ ih => exact ih h
  | up _ ih => exact ih h.dropLast
  | down hs hu he _ ih => exact ih (h.concat hs hu he)
  | link _ _ _ _ _ iht ih => exact ih (iht (h.linkStart _ _))

theorem walkWith_ne_tooManyLinks (before : Place) {after : Place}
    (h : tree.IsDirect (before ++ after)) (follow : Place → List Text → Except FileFault Place) :
    tree.walkWith .entry follow before after ≠ .error .tooManyLinks := by
  induction after generalizing before with
  | nil => simp [walkWith]
  | cons name after ih =>
    obtain ⟨hs, hu, he⟩ := h before name after rfl
    have hi := ih (before ++ [name]) (by simpa using h)
    rw [walkWith]
    split
    · simp
    · simp
    · simp
    · simp
    rw [if_neg (by simp [hs]), if_neg hu]
    split
    · simp
    split
    · simp
    split
    · split <;> simp
    · next target hlink => exact absurd hlink (he target)
    · exact hi

theorem locate_ne_tooManyLinks (h : tree.IsDirect place) :
    tree.locate place.path ≠ .error .tooManyLinks := by
  rw [locate]
  split
  · simp
  · rw [linkLimit, walk]
    exact walkWith_ne_tooManyLinks [] h _

end IsDirect

/-- The real path of an entry is the path to the place where a walk finds it. -/
theorem resolve_of_locate {path : Path} {place : Place} (hs : tree.IsDirect (tree.start path))
    (h : tree.locate path = .ok place) :
    tree.resolve path = .ok place.path ∧ tree.IsDirect place := by
  obtain ⟨k, hw⟩ := exists_walks_of_locate h
  have hdirect := hs.walks hw
  refine ⟨?_, hdirect⟩
  have hbase : tree.placeOf ⟨if path.anchor = .relative then .relative else .root, []⟩ =
      tree.start path := by
    have hstart : tree.start ⟨if path.anchor = .relative then .relative else .root, []⟩ =
        tree.start path := by
      by_cases ha : path.anchor = .relative <;> simp [start, ha]
    rw [placeOf, hstart, List.append_nil]
    exact collapse_of_not_mem hs.upward_not_mem
  have hempty : Consistent tree [] [] k :=
    ⟨fun _ _ hlink => (by cases hlink), fun _ hlink => (by cases hlink),
      fun _ hmem => absurd hmem List.not_mem_nil, List.nodup_nil⟩
  obtain ⟨depth, hdepth⟩ := tree.exists_depthLimit
  have henough : tree.entries.length ≤ depth := by
    have hle := Nat.le_mul_of_pos_right (tree.entries.length + 1)
      (by omega : 0 < tree.workingDirectory.length + 2)
    rw [depthLimit] at hdepth
    omega
  obtain ⟨real, met, hreal, rfl, -⟩ := resolveFrom_arrives (d := depth) hw hbase
    (fun hmem => absurd hmem List.not_mem_nil) hempty (by rw [List.length_nil]; omega)
  rw [resolve, hdepth, hreal]
  dsimp only
  split
  · next hlost => exact absurd hlost hdirect.locate_ne_tooManyLinks
  · rfl

theorem placeOf_of_isDirect (h : tree.IsDirect place) : tree.placeOf place.path = place :=
  collapse_of_not_mem h.upward_not_mem

theorem resolveWith_of_isDirect
    (follow : Met → Path → Path → Text → Except Path (Path × Met)) (met : Met) {names : List Text}
    (before : Place) (h : tree.IsDirect (before ++ names)) :
    tree.resolveWith follow met (Place.path before) names =
      .ok (Place.path (before ++ names), met) := by
  induction names generalizing before with
  | nil => simp [resolveWith]
  | cons name names ih =>
    obtain ⟨hs, hu, he⟩ := h before name names rfl
    have hdirect : tree.IsDirect (before ++ [name] ++ names) := by simpa using h
    have hplace : tree.placeOf (Path.push (Place.path before) name) = before ++ [name] :=
      placeOf_of_isDirect hdirect.of_append
    have hnext := ih (before ++ [name]) hdirect
    rw [List.append_assoc] at hnext
    rw [resolveWith, if_neg (by simp [hs]), if_neg hu, hplace]
    split
    · next target hlink => exact absurd hlink (he target)
    · exact hnext

/-- A real place is its own real path. -/
theorem resolve_of_isDirect (h : tree.IsDirect place) :
    tree.resolve place.path = .ok place.path := by
  obtain ⟨depth, hdepth⟩ := tree.exists_depthLimit
  have hreached : tree.resolveFrom (depth + 1) [] ⟨.root, []⟩ place =
      .ok (place.path, []) := resolveWith_of_isDirect _ [] [] h
  have hbase : (if place.path.anchor = .relative then Anchor.relative else .root) = .root := rfl
  rw [resolve, hdepth, hbase, show place.path.segments = place from rfl, hreached]
  dsimp only
  rw [placeOf_of_isDirect h]
  split
  · next hlost => exact absurd hlost h.locate_ne_tooManyLinks
  · rfl

end FileTree
end Counterpart
