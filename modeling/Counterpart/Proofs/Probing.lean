import Mathlib.Data.List.TakeWhile
import Counterpart.LocalHost
import Counterpart.Proofs.Acts

/-! What probing comes to does not depend on the order in which the probes finish, as long as each
of them does. In a file tree the first candidate found is the first that leads to an entry. -/

namespace Counterpart

/-! ### Slots -/

/-- Puts what a probe came to into its slot. -/
def finish (calls : List Settled) (slots : List (Option Settled)) (i : Nat) :
    List (Option Settled) :=
  match calls[i]? with
  | some call => slots.set i (some call)
  | none => slots

/-- What is gathered from probes that each come to something of their own, even where candidates are
the same, and that finish in the given order. -/
def gathered (calls : List Settled) (completion : List Nat) : List Settled :=
  (completion.foldl (finish calls) (calls.map fun _ => none)).filterMap id

theorem gather_eq_gathered (probe : Probe) (candidates : List Path) (completion : List Nat) :
    gather probe candidates completion =
      gathered (candidates.map fun p => ⟨p, probe p⟩) completion := by
  have hstep : settle probe candidates = finish (candidates.map fun p => ⟨p, probe p⟩) := by
    funext slots i
    rw [settle, finish, List.getElem?_map]
    cases candidates[i]? <;> rfl
  rw [gather, gathered, hstep, List.map_map]
  rfl

section

variable {calls : List Settled}

theorem length_finish (slots : List (Option Settled)) (i : Nat) :
    (finish calls slots i).length = slots.length := by
  rw [finish]
  split
  · exact List.length_set
  · rfl

theorem getElem?_finish {slots : List (Option Settled)} (h : slots.length = calls.length)
    (i j : Nat) :
    (finish calls slots i)[j]? = if i = j then calls[j]?.map some else slots[j]? := by
  rw [finish]
  by_cases hij : i = j
  · subst hij
    rw [if_pos rfl]
    split
    · next call hcall =>
      have hi : i < slots.length := h ▸ (List.getElem?_eq_some_iff.1 hcall).1
      rw [List.getElem?_set_self hi, hcall, Option.map_some]
    · next hcall =>
      rw [hcall, List.getElem?_eq_none (h ▸ List.getElem?_eq_none_iff.1 hcall), Option.map_none]
  · rw [if_neg hij]
    split
    · exact List.getElem?_set_ne hij
    · rfl

theorem getElem?_foldl_finish (completion : List Nat) {slots : List (Option Settled)}
    (h : slots.length = calls.length) (j : Nat) :
    (completion.foldl (finish calls) slots)[j]? =
      if j ∈ completion then calls[j]?.map some else slots[j]? := by
  induction completion generalizing slots with
  | nil => simp
  | cons i completion ih =>
    rw [List.foldl_cons, ih ((length_finish slots i).trans h), getElem?_finish h]
    by_cases hj : j ∈ completion
    · rw [if_pos hj, if_pos (List.mem_cons_of_mem _ hj)]
    · by_cases hij : i = j
      · rw [if_neg hj, if_pos hij, if_pos (hij ▸ List.mem_cons_self)]
      · rw [if_neg hj, if_neg hij, if_neg (by simp [hj, Ne.symm hij])]

/-- Once every probe has finished the slots hold what they came to in order of precedence. -/
theorem gathered_eq_self {completion : List Nat} (h : ∀ i < calls.length, i ∈ completion) :
    gathered calls completion = calls := by
  have hslots : completion.foldl (finish calls) (calls.map fun _ => none) = calls.map some := by
    refine List.ext_getElem? fun j => ?_
    rw [getElem?_foldl_finish completion (List.length_map _), List.getElem?_map,
      List.getElem?_map]
    by_cases hj : j < calls.length
    · rw [if_pos (h j hj)]
    · simp [List.getElem?_eq_none (Nat.not_lt.1 hj)]
  rw [gathered, hslots, List.filterMap_map]
  exact List.filterMap_some

theorem mem_of_perm_range {completion : List Nat} (h : completion.Perm (List.range calls.length)) :
    ∀ i < calls.length, i ∈ completion := fun _ hi => h.mem_iff.2 (List.mem_range.2 hi)

end

theorem gather_eq_map {probe : Probe} {candidates : List Path} {completion : List Nat}
    (h : completion.Perm (List.range candidates.length)) :
    gather probe candidates completion = candidates.map fun p => ⟨p, probe p⟩ := by
  rw [gather_eq_gathered]
  exact gathered_eq_self (mem_of_perm_range (by simpa using h))

/-! ### Results -/

namespace Settled

def isCancelled (s : Settled) : Bool :=
  match s.answer with
  | .ok _ => false
  | .error e => e.isCancelled

/-- The entry for a candidate: what its probe found, or that it failed and why. -/
def result (s : Settled) : ProbeResult :=
  match s.answer with
  | .ok result => result
  | .error e => ⟨s.path, .failed, some e.message⟩

def warning? (s : Settled) : Option Event :=
  match s.answer with
  | .ok _ => none
  | .error e => some (.probeRaised s.path e.message)

end Settled

theorem collect_of_cancelled {settled : List Settled} (h : ∃ s ∈ settled, s.isCancelled = true) :
    collect settled = .error (.cancelled "") := by
  induction settled with
  | nil =>
    obtain ⟨s, hs, -⟩ := h
    exact absurd hs List.not_mem_nil
  | cons s settled ih =>
    obtain ⟨path, answer⟩ := s
    have hrest : (Settled.mk path answer).isCancelled = false →
        collect settled = .error (.cancelled "") := by
      intro hs
      obtain ⟨other, hmem, hother⟩ := h
      rcases List.mem_cons.1 hmem with rfl | hmem
      · rw [hs] at hother
        cases hother
      · exact ih ⟨other, hmem, hother⟩
    cases answer with
    | ok result => rw [collect, hrest rfl]; rfl
    | error e =>
      rw [collect]
      split
      · rfl
      · next he =>
        rw [hrest (by simpa [Settled.isCancelled] using he)]
        rfl

theorem collect_of_not_cancelled {settled : List Settled}
    (h : ∀ s ∈ settled, s.isCancelled = false) :
    collect settled = .ok (settled.map Settled.result) := by
  induction settled with
  | nil => rfl
  | cons s settled ih =>
    obtain ⟨path, answer⟩ := s
    have hs := h _ List.mem_cons_self
    have hrest := ih fun other hother => h other (List.mem_cons_of_mem _ hother)
    cases answer with
    | ok result => rw [collect, hrest]; rfl
    | error e =>
      have he : ¬ e.isCancelled = true := by simpa [Settled.isCancelled] using hs
      rw [collect, if_neg he, hrest]
      rfl

/-- The warnings stand in order of precedence, up to the first probe that was cancelled. -/
theorem ofProbes_eq_filterMap (settled : List Settled) :
    Event.ofProbes settled =
      (settled.takeWhile fun s => !s.isCancelled).filterMap Settled.warning? := by
  rw [Event.ofProbes]
  induction settled with
  | nil => rfl
  | cons s settled ih =>
    obtain ⟨path, answer⟩ := s
    cases answer with
    | ok result =>
      rw [raisedProbes, ih, List.takeWhile_cons_of_pos rfl]
      rfl
    | error e =>
      rw [raisedProbes]
      split
      · next he => rw [List.takeWhile_cons_of_neg (by simp [Settled.isCancelled, he])]; rfl
      · next he =>
        rw [List.takeWhile_cons_of_pos (by simp [Settled.isCancelled, he]), List.map_cons, ih]
        rfl

theorem firstFound?_eq_some_iff {results : List ProbeResult} {path : Path} :
    firstFound? results = some path ↔ ∃ before r after, results = before ++ r :: after ∧
      r.status = .present ∧ r.path = path ∧ ∀ other ∈ before, other.status ≠ .present := by
  simp only [firstFound?, Option.map_eq_some_iff, List.find?_eq_some_iff_append,
    ProbeResult.found, beq_iff_eq]
  constructor
  · rintro ⟨r, ⟨hr, before, after, rfl, hbefore⟩, rfl⟩
    exact ⟨before, r, after, rfl, hr, rfl, fun other hother => by simpa using hbefore other hother⟩
  · rintro ⟨before, r, after, rfl, hr, rfl, hbefore⟩
    exact ⟨r, ⟨hr, before, after, rfl, fun other hother => by simpa using hbefore other hother⟩,
      rfl⟩

theorem firstFound?_eq_none_iff {results : List ProbeResult} :
    firstFound? results = none ↔ ∀ r ∈ results, r.status ≠ .present := by
  simp [firstFound?, ProbeResult.found]

/-! ### Navigators -/

namespace Navigator

variable {σ : Type} (nav : Navigator σ) {candidates : List Path} {completion : List Nat}

/-- The navigator probes as if the probes finished in whatever order one likes. -/
theorem probeAll_run (h : completion.Perm (List.range candidates.length)) (w : Journaled σ) :
    (nav.probeAll candidates).run.run w =
      (Counterpart.probeAll (nav.probe w.state) candidates completion,
        { w with journal := w.journal ++
          (nav.probeJournal (gather (nav.probe w.state) candidates completion) ++
            Event.ofProbes (gather (nav.probe w.state) candidates completion)) }) := by
  have hsame : gather (nav.probe w.state) candidates (List.range candidates.length) =
      gather (nav.probe w.state) candidates completion := by
    rw [gather_eq_map h, gather_eq_map (List.Perm.refl _)]
  rw [Navigator.probeAll, Act.run_state_bind, hsame]
  dsimp only
  rw [Act.run_note_bind, Counterpart.probeAll]
  cases collect (gather (nav.probe w.state) candidates completion) <;> rfl

theorem firstExisting_run (h : completion.Perm (List.range candidates.length))
    (w : Journaled σ) : ∃ journal, (nav.firstExisting candidates).run.run w =
      ((Counterpart.probeAll (nav.probe w.state) candidates completion).map firstFound?,
        ⟨w.state, journal⟩) := by
  have hrun := nav.probeAll_run h w
  rw [Navigator.firstExisting]
  cases hp : Counterpart.probeAll (nav.probe w.state) candidates completion with
  | error e =>
    rw [hp] at hrun
    exact ⟨_, Act.run_bind_of_error _ hrun⟩
  | ok results =>
    rw [hp] at hrun
    exact ⟨_, (Act.run_bind_of_ok _ hrun).trans (Act.run_note_bind _ _ _)⟩

end Navigator

/-- In whatever order the probes finish, every candidate has its own entry, the warnings stand in
order of precedence, and the first candidate found is the one that comes first. A cancelled probe
calls all of it off. -/
theorem probing_in_any_order (calls : List Settled) {completion : List Nat}
    (h : completion.Perm (List.range calls.length)) :
    ((∀ call ∈ calls, call.isCancelled = false) →
      collect (gathered calls completion) = .ok (calls.map Settled.result) ∧
      Event.ofProbes (gathered calls completion) = calls.filterMap Settled.warning? ∧
      ((collect (gathered calls completion)).map firstFound? = .ok none ↔
        ∀ r ∈ calls.map Settled.result, r.status ≠ .present) ∧
      ∀ path, (collect (gathered calls completion)).map firstFound? = .ok (some path) ↔
        ∃ before r after, calls.map Settled.result = before ++ r :: after ∧
          r.status = .present ∧ r.path = path ∧ ∀ other ∈ before, other.status ≠ .present) ∧
    ((∃ call ∈ calls, call.isCancelled = true) →
      collect (gathered calls completion) = .error (.cancelled "") ∧
      (collect (gathered calls completion)).map firstFound? = .error (.cancelled "") ∧
      Event.ofProbes (gathered calls completion) =
        (calls.takeWhile fun call => !call.isCancelled).filterMap Settled.warning?) ∧
    (∀ (probe : Probe) (candidates : List Path),
      calls = candidates.map (fun p => ⟨p, probe p⟩) →
      probeAll probe candidates completion = collect (gathered calls completion)) ∧
    ∀ {σ : Type} (nav : Navigator σ) (w : Journaled σ) (candidates : List Path),
      calls = candidates.map (fun p => ⟨p, nav.probe w.state p⟩) →
      ((nav.probeAll candidates).run.run w).1 = collect (gathered calls completion) ∧
      ((nav.probeAll candidates).run.run w).2.journal = w.journal ++
        (nav.probeJournal calls ++ Event.ofProbes (gathered calls completion)) ∧
      ((nav.firstExisting candidates).run.run w).1 =
        (collect (gathered calls completion)).map firstFound? := by
  have hgather : ∀ (probe : Probe) (candidates : List Path),
      calls = candidates.map (fun p => ⟨p, probe p⟩) →
      probeAll probe candidates completion = collect (gathered calls completion) := by
    rintro probe candidates rfl
    rw [probeAll, gather_eq_gathered]
  rw [gathered_eq_self (mem_of_perm_range h)] at hgather ⊢
  refine ⟨fun hnone => ?_, fun hsome => ?_, hgather, ?_⟩
  · have hcollect := collect_of_not_cancelled hnone
    have hall : (calls.takeWhile fun call => !call.isCancelled) = calls :=
      List.takeWhile_eq_self_iff.2 fun call hcall => by simp [hnone call hcall]
    refine ⟨hcollect, ?_, ?_, fun path => ?_⟩
    · rw [ofProbes_eq_filterMap, hall]
    · rw [hcollect, ← firstFound?_eq_none_iff]
      exact ⟨Except.ok.inj, congrArg Except.ok⟩
    · rw [hcollect, ← firstFound?_eq_some_iff]
      exact ⟨Except.ok.inj, congrArg Except.ok⟩
  · have hcollect := collect_of_cancelled hsome
    refine ⟨hcollect, ?_, ofProbes_eq_filterMap calls⟩
    rw [hcollect]
    rfl
  · rintro σ nav w candidates rfl
    have horder := List.Perm.refl (List.range candidates.length)
    have hall := nav.probeAll_run horder w
    obtain ⟨journal, hfirst⟩ := nav.firstExisting_run horder w
    rw [probeAll, gather_eq_map horder] at hall hfirst
    rw [hall, hfirst]
    exact ⟨rfl, rfl, rfl⟩

theorem probing_in_any_order_mixed :
    let calls : List Settled := [
      ⟨.ofText "/a", .error (.host .runtime "boom")⟩,
      ⟨.ofText "/b", .ok ⟨.ofText "/b", .missing, none⟩⟩,
      ⟨.ofText "/c", .ok ⟨.ofText "/c", .present, none⟩⟩]
    [2, 0, 1].Perm (List.range calls.length) ∧ (∀ call ∈ calls, call.isCancelled = false) ∧
    collect (gathered calls [2, 0, 1]) = .ok [
      ⟨.ofText "/a", .failed, some "boom"⟩,
      ⟨.ofText "/b", .missing, none⟩,
      ⟨.ofText "/c", .present, none⟩] ∧
    (collect (gathered calls [2, 0, 1])).map firstFound? = .ok (some (.ofText "/c")) := by
  intro calls
  have horder : [2, 0, 1].Perm (List.range calls.length) := by decide
  have hnone : ∀ call ∈ calls, call.isCancelled = false := by simp [calls]; decide
  obtain ⟨hcollect, -, -, hfirst⟩ := (probing_in_any_order calls horder).1 hnone
  refine ⟨horder, hnone, hcollect, (hfirst _).2 ⟨[_, _], _, [], rfl, rfl, rfl, ?_⟩⟩
  decide

namespace FileTree

variable (tree : FileTree)

def holds (path : Path) : Bool := (tree.find path).toBool

def answer (path : Path) : ProbeResult :=
  match tree.find path with
  | .ok _ => ⟨path, .present, none⟩
  | .error e => if e.fault = .missing then ⟨path, .missing, none⟩
    else ⟨path, .failed, some e.message⟩

theorem probe_eq (path : Path) : tree.probe path = .ok (tree.answer path) := rfl

theorem answer_path (path : Path) : (tree.answer path).path = path := by
  rw [answer]
  split
  · rfl
  · split <;> rfl

theorem answer_found (path : Path) : (tree.answer path).found = tree.holds path := by
  rw [answer, holds]
  split
  · next h => rw [h]; rfl
  · next h =>
    rw [h]
    split <;> rfl

theorem probeAll_eq (candidates : List Path) : probeAll tree.probe candidates
    (List.range candidates.length) = .ok (candidates.map tree.answer) := by
  rw [probeAll, gather_eq_map (List.Perm.refl _), collect_of_not_cancelled (by simp [probe_eq,
    Settled.isCancelled]), List.map_map]
  rfl

theorem firstFound?_map_answer (candidates : List Path) :
    firstFound? (candidates.map tree.answer) = candidates.find? tree.holds := by
  have hfound : ProbeResult.found ∘ tree.answer = tree.holds := funext tree.answer_found
  have hpath : ProbeResult.path ∘ tree.answer = id := funext tree.answer_path
  rw [firstFound?, List.find?_map, Option.map_map, hfound, hpath, Option.map_id]
  rfl

end FileTree
end Counterpart
