import Mathlib.Data.List.Basic
import Mathlib.Data.List.Induction
import Counterpart.FileTree.Resolve
import Counterpart.Proofs.Segments

/-! Trees without links. There a path is resolved by spelling it out, a resolved path leads back to
itself, and no walk is ever lost in links. -/

namespace Counterpart

/-! ### Spelling out a path -/

/-- Appends names to a path, going up at each `..`. -/
def Path.spell (here : Path) : List Text → Path
  | [] => here
  | name :: rest =>
    if !isSegment name then here.spell rest
    else if name = upward then here.parent.spell rest
    else (here.push name).spell rest

theorem Path.spell_names (anchor : Anchor) (before : List Text) {names : List Text}
    (h : ∀ name ∈ names, IsName name) :
    Path.spell ⟨anchor, before⟩ names = ⟨anchor, before ++ names⟩ := by
  induction names generalizing before with
  | nil => rw [List.append_nil]; rfl
  | cons name names ih =>
    have hname := h name List.mem_cons_self
    rw [Path.spell, if_neg (by simp [hname.isSegment]), if_neg hname.ne_upward, Path.push,
      ih _ fun other hother => h other (List.mem_cons_of_mem _ hother), List.append_assoc]
    rfl

theorem Path.mem_parent {here : Path} {name : Text} (h : name ∈ here.parent.segments) :
    name ∈ here.segments ∨ name = upward := by
  rw [Path.parent] at h
  split at h
  · simpa using h
  · exact .inl (List.dropLast_subset _ h)

theorem Path.mem_spell {here : Path} {names : List Text} {name : Text}
    (h : name ∈ (here.spell names).segments) :
    name ∈ here.segments ∨ name = upward ∨ name ∈ names ∧ isSegment name := by
  induction names generalizing here with
  | nil => exact .inl h
  | cons next names ih =>
    have hmore : name ∈ names ∧ isSegment name → name ∈ next :: names ∧ isSegment name :=
      And.imp_left (List.mem_cons_of_mem _)
    rw [Path.spell] at h
    split at h
    · exact (ih h).imp_right (Or.imp_right hmore)
    · next hnext =>
      split at h
      · rcases ih h with hhere | hrest
        · exact (Path.mem_parent hhere).imp_right .inl
        · exact .inr (hrest.imp_right hmore)
      · rcases ih h with hhere | hrest
        · rcases List.mem_append.1 hhere with hhere | hself
          · exact .inl hhere
          · obtain rfl := List.mem_singleton.1 hself
            exact .inr (.inr ⟨List.mem_cons_self, by simpa using hnext⟩)
        · exact .inr (hrest.imp_right hmore)

theorem collapse_append (before names : List Text) :
    collapse (before ++ names) =
      names.foldl (fun place name => if name = upward then place.dropLast else place ++ [name])
        (collapse before) := List.foldl_append

theorem mem_collapse {names : List Text} {name : Text} (h : name ∈ collapse names) :
    name ∈ names ∧ name ≠ upward := by
  induction names using List.reverseRecOn with
  | nil => exact absurd h List.not_mem_nil
  | append_singleton names last ih =>
    rw [collapse_append, List.foldl_cons, List.foldl_nil] at h
    split at h
    · obtain ⟨hmem, hne⟩ := ih (List.dropLast_subset _ h)
      exact ⟨List.mem_append_left _ hmem, hne⟩
    · next hlast =>
      rcases List.mem_append.1 h with h | h
      · obtain ⟨hmem, hne⟩ := ih h
        exact ⟨List.mem_append_left _ hmem, hne⟩
      · obtain rfl := List.mem_singleton.1 h
        exact ⟨by simp, hlast⟩

theorem collapse_of_not_mem {names : List Text} (h : upward ∉ names) : collapse names = names := by
  induction names using List.reverseRecOn with
  | nil => rfl
  | append_singleton names last ih =>
    have hlast : last ≠ upward := fun he => h (by simp [he])
    rw [collapse_append, List.foldl_cons, List.foldl_nil, if_neg hlast,
      ih fun hmem => h (List.mem_append_left _ hmem)]

/-! ### Trees without links -/

namespace FileTree

theorem mem_start {tree : FileTree} {path : Path} {name : Text} (h : name ∈ tree.start path) :
    name ∈ tree.workingDirectory := by
  rw [start] at h
  split at h
  · exact h
  · exact absurd h List.not_mem_nil

theorem exists_depthLimit (tree : FileTree) : ∃ depth, tree.depthLimit = depth + 1 :=
  Nat.exists_eq_succ_of_ne_zero (Nat.mul_ne_zero (by omega) (by omega))

def LinkFree (tree : FileTree) : Prop := ∀ e ∈ tree.entries, ∀ target, e.2 ≠ .link target

namespace LinkFree

variable {tree : FileTree} (h : tree.LinkFree)

include h

theorem ne_link (place : Place) (target : Text) :
    tree.entry? place ≠ some (.link target) := by
  unfold entry?
  split
  · simp
  · intro he
    obtain ⟨before, after, hentries, -⟩ := List.lookup_eq_some_iff.1 he
    exact h (place, .link target) (by simp [hentries]) target rfl

theorem walkWith_ne_tooManyLinks (goal : Goal) (follow : Place → List Text → Except FileFault Place)
    (here : Place) (names : List Text) :
    tree.walkWith goal follow here names ≠ .error .tooManyLinks := by
  induction names generalizing here with
  | nil => simp [walkWith]
  | cons name names ih =>
    rw [walkWith]
    split
    · simp
    · simp
    · simp
    · simp
    split
    · exact ih here
    split
    · exact ih here.dropLast
    split
    · simp
    split
    · simp
    split
    · split <;> simp
    · next target hlink => exact absurd hlink (h.ne_link _ target)
    · exact ih _

theorem locate_ne_tooManyLinks (path : Path) (goal : Goal) :
    tree.locate path goal ≠ .error .tooManyLinks := by
  rw [locate]
  split
  · simp
  · exact h.walkWith_ne_tooManyLinks goal _ _ _

theorem resolveWith_eq (follow : Met → Path → Path → Text → Except Path (Path × Met)) (met : Met)
    (here : Path) (names : List Text) :
    tree.resolveWith follow met here names = .ok (here.spell names, met) := by
  induction names generalizing here with
  | nil => rfl
  | cons name names ih =>
    rw [resolveWith, Path.spell]
    split
    · exact ih here
    split
    · exact ih here.parent
    split
    · next target hlink => exact absurd hlink (h.ne_link _ target)
    · exact ih (here.push name)

/-- Without links the real path is the path spelled out. -/
theorem resolve_eq (path : Path) : tree.resolve path = .ok ⟨.root, tree.placeOf
    (Path.spell ⟨if path.anchor = .relative then .relative else .root, []⟩ path.segments)⟩ := by
  obtain ⟨depth, hdepth⟩ := tree.exists_depthLimit
  rw [resolve, hdepth, resolveFrom, h.resolveWith_eq]
  dsimp only
  split
  · next hlost => exact absurd hlost (h.locate_ne_tooManyLinks _ _)
  · rfl

end LinkFree
end FileTree

/-! ### Real paths -/

def Place.path (place : Place) : Path := ⟨.root, place⟩

/-- Places that can be written down and read back. -/
def Place.IsReal (place : Place) : Prop := ∀ name ∈ place, IsName name

instance : DecidablePred Place.IsReal :=
  fun place => inferInstanceAs (Decidable (∀ name ∈ place, IsName name))

namespace Place.IsReal

variable {place : Place}

theorem text_eq (hne : place ≠ []) : place.path.text = slashed place := by
  rw [Place.path, Path.text_of_ne_nil .root hne, slashed_eq_joinWith hne]
  rfl

theorem forwardSlashes_text (h : place.IsReal) :
    forwardSlashes place.path.text = place.path.text := by
  by_cases hne : place = []
  · subst hne
    rfl
  · rw [text_eq hne, forwardSlashes_slashed h]

theorem ofText_text (h : place.IsReal) : Path.ofText place.path.text = place.path :=
  Path.IsRead.ofText_text fun name hname => (h name hname).isRead

theorem trimEnd_text (h : place.IsReal) :
    Text.trimEnd (· == '/') place.path.text = slashed place := by
  rcases List.eq_nil_or_concat' place with rfl | ⟨above, name, rfl⟩
  · rfl
  have hname := h name (by simp)
  obtain ⟨stem, c, rfl⟩ := (List.eq_nil_or_concat' name).resolve_left hname.ne_nil
  have hc : c ≠ '/' := fun hc => hname.slash (by simp [hc])
  have hlast : slashed (above ++ [stem ++ [c]]) = slashed above ++ '/' :: stem ++ [c] := by
    simp [slashed]
  rw [text_eq (by simp), hlast, Text.trimEnd, List.reverse_append, List.reverse_singleton,
    List.singleton_append, List.dropWhile_cons_of_neg (by simpa using hc), List.reverse_cons,
    List.reverse_reverse]

theorem slashed_of_prefix {below : Place} {rest : Text} (h : place.IsReal) (hb : below.IsReal)
    (he : slashed below = slashed place ++ '/' :: rest) :
    ∃ more, more ≠ [] ∧ below = place ++ more ∧ rest = Text.joinWith "/" more := by
  induction place generalizing below with
  | nil =>
    have hne : below ≠ [] := by
      rintro rfl
      cases he
    rw [slashed_eq_joinWith hne] at he
    exact ⟨below, hne, rfl, (List.cons.inj he).2.symm⟩
  | cons name place ih =>
    cases below with
    | nil => cases he
    | cons other below =>
      obtain ⟨t, ht⟩ : ∃ t, slashed place ++ '/' :: rest = '/' :: t := by
        cases place with
        | nil => exact ⟨rest, rfl⟩
        | cons next place => exact ⟨_, rfl⟩
      rw [slashed_cons, slashed_cons, List.cons_append, List.append_assoc, ht] at he
      have hrest := (List.cons.inj he).2
      have hother := hb other List.mem_cons_self
      have hne : below ≠ [] := by
        rintro rfl
        rw [show slashed [] = [] from rfl, List.append_nil] at hrest
        exact hother.slash (by simp [hrest])
      have hjoin := hrest
      rw [slashed_eq_joinWith hne] at hjoin
      obtain ⟨rfl, htail⟩ := append_slash_inj hother.slash (h name List.mem_cons_self).slash hjoin
      have hbelow : slashed below = slashed place ++ '/' :: rest := by
        rw [slashed_eq_joinWith hne, htail, ht]
      obtain ⟨more, hmore, rfl, hr⟩ := ih (fun n hn => h n (List.mem_cons_of_mem _ hn))
        (fun n hn => hb n (List.mem_cons_of_mem _ hn)) hbelow
      exact ⟨more, hmore, rfl, hr⟩

theorem contains_iff {below : Place} (h : place.IsReal) (hb : below.IsReal)
    (hne : below ≠ []) :
    contains place.path.text below.path.text ↔ ∃ more, more ≠ [] ∧ below = place ++ more := by
  rw [contains, relativeTo?, h.forwardSlashes_text, hb.forwardSlashes_text, h.trimEnd_text,
    text_eq hne, Option.isSome_iff_exists]
  simp only [List.isPrefixOf?_eq_some_iff_append_eq]
  constructor
  · rintro ⟨rest, hrest⟩
    rw [List.append_assoc] at hrest
    obtain ⟨more, hmore, hbelow, -⟩ := slashed_of_prefix h hb hrest.symm
    exact ⟨more, hmore, hbelow⟩
  · rintro ⟨more, hmore, rfl⟩
    refine ⟨Text.joinWith "/" more, ?_⟩
    rw [slashed_append, slashed_eq_joinWith hmore, List.append_assoc]
    rfl

end Place.IsReal

/-- No separator but the slashes between its segments, and no newline, is in a path. -/
def Path.IsPlain (p : Path) : Prop := ∀ s ∈ p.segments, '/' ∉ s ∧ '\\' ∉ s ∧ '\n' ∉ s

instance : DecidablePred Path.IsPlain := fun p =>
  inferInstanceAs (Decidable (∀ s ∈ p.segments, '/' ∉ s ∧ '\\' ∉ s ∧ '\n' ∉ s))

namespace FileTree.LinkFree

variable {tree : FileTree} (h : tree.LinkFree)

include h

theorem resolve_path {place : Place} (hp : place.IsReal) :
    tree.resolve place.path = .ok place.path := by
  rw [h.resolve_eq]
  have hspell : Path.spell ⟨.root, []⟩ place = place.path := Path.spell_names .root [] hp
  have hplace : tree.placeOf place.path = place :=
    collapse_of_not_mem fun hmem => (hp upward hmem).ne_upward rfl
  rw [show Path.spell ⟨if place.path.anchor = .relative then .relative else .root, []⟩
    place.path.segments = place.path from hspell, hplace]
  rfl

theorem exists_resolve (hd : Place.IsReal tree.workingDirectory) {p : Path} (hp : p.IsPlain) :
    ∃ place : Place, place.IsReal ∧ tree.resolve p = .ok place.path := by
  refine ⟨_, fun name hname => ?_, h.resolve_eq p⟩
  obtain ⟨hmem, hup⟩ := mem_collapse hname
  rcases List.mem_append.1 hmem with hmem | hmem
  · exact hd name (mem_start hmem)
  · rcases Path.mem_spell hmem with hmem | hmem | ⟨hmem, hseg⟩
    · exact absurd hmem List.not_mem_nil
    · exact absurd hmem hup
    · obtain ⟨hs, hb, hn⟩ := hp name hmem
      have hseg' : name ≠ [] ∧ name ≠ ['.'] := by simpa [isSegment] using hseg
      exact ⟨hseg'.1, hseg'.2, hup, hs, hb, hn⟩

end FileTree.LinkFree

/-! ### Workspace folders -/

/-- No folder lies inside another one. -/
def Unnested (folders : List Text) : Prop :=
  ∀ f ∈ folders, ∀ g ∈ folders, contains f g → f = g

instance : DecidablePred Unnested := fun folders =>
  inferInstanceAs (Decidable (∀ f ∈ folders, ∀ g ∈ folders, contains f g → f = g))

def IsRealText (s : Text) : Prop := ∃ place : Place, place.IsReal ∧ s = place.path.text

theorem longest?_eq_some {roots : List Text} {root : Text} (hne : roots ≠ [])
    (h : ∀ s ∈ roots, s = root) : longest? roots = some root := by
  induction roots with
  | nil => exact absurd rfl hne
  | cons s roots ih =>
    obtain rfl := h s List.mem_cons_self
    rw [longest?]
    by_cases hrest : roots = []
    · subst hrest
      rfl
    · rw [ih hrest fun t ht => h t (List.mem_cons_of_mem _ ht)]
      dsimp only
      rw [if_neg (Nat.lt_irrefl _)]

/-- Of folders outside each other the only one to contain a path is its root. -/
theorem innermostRoot?_of_unnested {folders : List Text} (hreal : ∀ f ∈ folders, IsRealText f)
    (hout : Unnested folders) {root : Text} (hroot : root ∈ folders) {below : Place}
    (hb : below.IsReal) (hne : below ≠ []) (hin : contains root below.path.text) :
    innermostRoot? below.path.text folders = some root := by
  refine longest?_eq_some (List.ne_nil_of_mem (List.mem_filter.2 ⟨hroot, hin⟩)) fun f hf => ?_
  obtain ⟨hmem, hcontains⟩ := List.mem_filter.1 hf
  obtain ⟨a, ha, rfl⟩ := hreal root hroot
  obtain ⟨b, hb', rfl⟩ := hreal f hmem
  obtain ⟨more, -, hmore⟩ := (ha.contains_iff hb hne).1 hin
  obtain ⟨others, -, hothers⟩ := (hb'.contains_iff hb hne).1 hcontains
  have heq : a ++ more = b ++ others := hmore.symm.trans hothers
  rcases List.append_eq_append_iff.1 heq with ⟨extra, rfl, -⟩ | ⟨extra, rfl, -⟩
  · by_cases hextra : extra = []
    · rw [hextra, List.append_nil]
    · exact (hout _ hroot _ hmem ((ha.contains_iff hb' (by simp [hextra])).2
        ⟨extra, hextra, rfl⟩)).symm
  · by_cases hextra : extra = []
    · rw [hextra, List.append_nil]
    · exact hout _ hmem _ hroot ((hb'.contains_iff ha (by simp [hextra])).2 ⟨extra, hextra, rfl⟩)

end Counterpart
