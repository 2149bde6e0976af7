import Counterpart.Proofs.PathGrammar
import Counterpart.Proofs.RealPath

/-! The workspace root of a path. All roots that a path lies below are prefixes of it, so that the
longest of them lies inside the others, in whatever order the roots are listed. -/

namespace Counterpart

/-- The path goes on with a separator behind the root, the slashes at the end of the root aside. -/
def LiesBelow (path root : Text) : Prop :=
  ∃ base rest, IsBase root base ∧ forwardSlashes path = base ++ '/' :: rest

/-- Only the root of all ends in a separator. -/
def IsTrimmed (root : Text) : Prop :=
  (forwardSlashes root).getLast? = some '/' → forwardSlashes root = ['/']

instance : DecidablePred IsTrimmed := fun root =>
  inferInstanceAs (Decidable ((forwardSlashes root).getLast? = some '/' → _))

theorem contains_iff_liesBelow {path root : Text} : contains root path ↔ LiesBelow path root := by
  have hbase : IsBase root (Text.trimEnd (· == '/') (forwardSlashes root)) := isBase_iff.2 rfl
  rw [contains, Option.isSome_iff_exists]
  constructor
  · rintro ⟨rest, hrest⟩
    exact ⟨_, rest, hbase, (relativeTo?_eq_some_iff hbase).1 hrest⟩
  · rintro ⟨base, rest, hb, hpath⟩
    exact ⟨rest, (relativeTo?_eq_some_iff hb).2 hpath⟩

theorem length_forwardSlashes (s : Text) : (forwardSlashes s).length = s.length := List.length_map _

theorem IsBase.eq_nil {root : Text} (h : forwardSlashes root = ['/']) {base : Text}
    (hb : IsBase root base) : base = [] := by
  rw [isBase_iff.1 hb, h]
  rfl

theorem IsBase.eq_of_ne {root base : Text} (hb : IsBase root base)
    (h : (forwardSlashes root).getLast? ≠ some '/') : forwardSlashes root = base := by
  rw [isBase_iff.1 hb, trimEnd_eq_self h]

/-- Of the folders of a host only the root of all ends in a separator. -/
theorem Place.IsReal.isTrimmed {place : Place} (h : place.IsReal) : IsTrimmed place.path.text := by
  intro hlast
  by_cases hne : place = []
  · subst hne
    rfl
  · have hbase : IsBase place.path.text (slashed place) := isBase_iff.2 <| by
      rw [h.forwardSlashes_text, h.trimEnd_text]
    rw [h.forwardSlashes_text, text_eq hne] at hlast
    exact absurd hlast hbase.1

namespace LiesBelow

variable {path root other : Text}

/-- A trimmed root is a prefix of what lies below it. -/
theorem isPrefix (h : LiesBelow path root) (ht : IsTrimmed root) :
    forwardSlashes root <+: forwardSlashes path := by
  obtain ⟨base, rest, hbase, hpath⟩ := h
  by_cases hlast : (forwardSlashes root).getLast? = some '/'
  · have hroot := ht hlast
    rw [hpath, hbase.eq_nil hroot, hroot]
    exact ⟨rest, rfl⟩
  · rw [hpath, hbase.eq_of_ne hlast]
    exact List.prefix_append _ _

theorem eq_of_length (h : LiesBelow path root) (ht : IsTrimmed root) (h' : LiesBelow path other)
    (ht' : IsTrimmed other) (hlength : other.length = root.length) :
    forwardSlashes other = forwardSlashes root := by
  rw [← length_forwardSlashes other, ← length_forwardSlashes root] at hlength
  have hprefix := List.prefix_of_prefix_length_le (h'.isPrefix ht') (h.isPrefix ht) hlength.le
  exact hprefix.eq_of_length hlength

/-- Of two roots that a path lies below the shorter one contains the longer one. -/
theorem of_length_le (h : LiesBelow path root) (ht : IsTrimmed root) (h' : LiesBelow path other)
    (ht' : IsTrimmed other) (hlength : other.length ≤ root.length) :
    forwardSlashes other = forwardSlashes root ∨ LiesBelow root other := by
  have ⟨base, rest, hbase, hpath⟩ := h'
  have ⟨_, k, hother⟩ := hbase
  have hstart : base ++ ['/'] <+: forwardSlashes path :=
    ⟨rest, by rw [hpath, List.append_assoc]; rfl⟩
  by_cases hroom : (base ++ ['/']).length ≤ (forwardSlashes root).length
  · obtain ⟨more, hmore⟩ := List.prefix_of_prefix_length_le hstart (h.isPrefix ht) hroom
    exact .inr ⟨base, more, hbase, by rw [← hmore, List.append_assoc]; rfl⟩
  · have hbound := congrArg List.length hother
    rw [length_forwardSlashes] at hroom hbound
    rw [List.length_append] at hroom hbound
    exact .inl (h.eq_of_length ht h' ht' (by simp only [List.length_singleton] at hroom; omega))

end LiesBelow

/-! ### The longest root -/

theorem longest?_eq_none_iff {roots : List Text} : longest? roots = none ↔ roots = [] := by
  cases roots with
  | nil => simp [longest?]
  | cons root roots =>
    refine iff_of_false ?_ (List.cons_ne_nil _ _)
    rw [longest?]
    split
    · split <;> simp
    · simp

theorem length_le_longest? {roots : List Text} {root : Text} (h : longest? roots = some root) :
    ∀ other ∈ roots, other.length ≤ root.length := by
  induction roots generalizing root with
  | nil => simp
  | cons first roots ih =>
    rw [longest?] at h
    rw [List.forall_mem_cons]
    cases hrest : longest? roots with
    | none =>
      rw [hrest] at h
      obtain rfl := Option.some.inj h
      simp [longest?_eq_none_iff.1 hrest]
    | some longest =>
      have hle := ih hrest
      simp only [hrest] at h
      split at h
      · next hlt =>
        obtain rfl := Option.some.inj h
        exact ⟨hlt.le, hle⟩
      · next hlt =>
        obtain rfl := Option.some.inj h
        exact ⟨le_rfl, fun other ho => (hle other ho).trans (Nat.not_lt.1 hlt)⟩

section

variable {path root : Text} {roots others : List Text}

theorem innermostRoot?_eq_some (h : innermostRoot? path roots = some root) :
    root ∈ roots ∧ LiesBelow path root ∧
      ∀ other ∈ roots, LiesBelow path other → other.length ≤ root.length := by
  obtain ⟨hmem, hin⟩ := List.mem_filter.1 (longest?_mem h)
  refine ⟨hmem, contains_iff_liesBelow.1 hin, fun other ho hbelow => ?_⟩
  exact length_le_longest? h other (List.mem_filter.2 ⟨ho, contains_iff_liesBelow.2 hbelow⟩)

theorem innermostRoot?_eq_none_iff :
    innermostRoot? path roots = none ↔ ∀ root ∈ roots, ¬ LiesBelow path root := by
  rw [innermostRoot?, longest?_eq_none_iff, List.filter_eq_nil_iff]
  simp only [contains_iff_liesBelow]

theorem innermostRoot?_perm (h : ∀ root ∈ roots, IsTrimmed root) (hperm : others.Perm roots) :
    (innermostRoot? path others).map forwardSlashes =
      (innermostRoot? path roots).map forwardSlashes := by
  cases hr : innermostRoot? path roots with
  | none =>
    have hnone : innermostRoot? path others = none := innermostRoot?_eq_none_iff.2 fun root ho =>
      innermostRoot?_eq_none_iff.1 hr root (hperm.mem_iff.1 ho)
    rw [hnone]
  | some root =>
    obtain ⟨hmem, hbelow, hmost⟩ := innermostRoot?_eq_some hr
    cases ho : innermostRoot? path others with
    | none => exact absurd hbelow (innermostRoot?_eq_none_iff.1 ho root (hperm.mem_iff.2 hmem))
    | some other =>
      obtain ⟨hmem', hbelow', hmost'⟩ := innermostRoot?_eq_some ho
      have hin := hperm.mem_iff.1 hmem'
      have hlength := Nat.le_antisymm (hmost other hin hbelow')
        (hmost' root (hperm.mem_iff.2 hmem) hbelow)
      exact congrArg some (hbelow.eq_of_length (h root hmem) hbelow' (h other hin) hlength)

end

/-- The root of a path lies inside every other root that the path lies below. It depends neither on
the order of the roots nor on those that the path does not lie below. -/
theorem innermostRoot?_innermost (path : Text) {roots : List Text}
    (h : ∀ root ∈ roots, IsTrimmed root) :
    ((innermostRoot? path roots).isSome ↔ ∃ root ∈ roots, LiesBelow path root) ∧
    (∀ root, innermostRoot? path roots = some root → root ∈ roots ∧ LiesBelow path root ∧
      ∀ other ∈ roots, LiesBelow path other →
        forwardSlashes other = forwardSlashes root ∨ LiesBelow root other) ∧
    (∀ others, others.Perm roots → (innermostRoot? path others).map forwardSlashes =
      (innermostRoot? path roots).map forwardSlashes) ∧
    ∀ others, others.filter (contains · path) = roots.filter (contains · path) →
      innermostRoot? path others = innermostRoot? path roots := by
  refine ⟨?_, fun root hr => ?_, fun others => innermostRoot?_perm h, fun others hsame => ?_⟩
  · rw [← Option.ne_none_iff_isSome, ne_eq, innermostRoot?_eq_none_iff]
    simp only [not_forall, not_not, exists_prop]
  · obtain ⟨hmem, hbelow, hmost⟩ := innermostRoot?_eq_some hr
    refine ⟨hmem, hbelow, fun other ho hbelow' => ?_⟩
    exact hbelow.of_length_le (h root hmem) hbelow' (h other ho) (hmost other ho hbelow')
  · rw [innermostRoot?, hsame, innermostRoot?]

/-- One root spelled in two ways, roots around it, and one whose name only begins alike. -/
theorem innermostRoot?_among_engines :
    let places : List Place := [[], ["ws"], ["ws", "en"], ["ws", "engine"]]
    let roots : List Text := "/ws\\engine" :: places.map (·.path.text)
    (∀ root ∈ roots, IsTrimmed root) ∧
      innermostRoot? "/ws/engine/lib/a.rb" roots = some ("/ws\\engine" : Text) ∧
      (innermostRoot? "/ws/engine/lib/a.rb" roots.reverse).map forwardSlashes =
        some ("/ws/engine" : Text) := by
  intro places roots
  have htrimmed : ∀ root ∈ roots, IsTrimmed root := by
    refine List.forall_mem_cons.2 ⟨by decide, List.forall_mem_map.2 fun place hp => ?_⟩
    have hreal : ∀ place ∈ places, place.IsReal := by decide
    exact (hreal place hp).isTrimmed
  obtain ⟨-, -, hperm, -⟩ := innermostRoot?_innermost "/ws/engine/lib/a.rb" htrimmed
  have hfirst : innermostRoot? "/ws/engine/lib/a.rb" roots = some ("/ws\\engine" : Text) := by
    decide +kernel
  exact ⟨htrimmed, hfirst, (hperm _ roots.reverse_perm).trans (by rw [hfirst]; rfl)⟩

end Counterpart
