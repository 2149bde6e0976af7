import Counterpart.Proofs.Enclosure
import Counterpart.Target

/-! Paths as names with a slash before each. Reading such a path gives the names back, and what a
search for a directory finds in it depends on the names alone. -/

namespace Counterpart

/-- A name that leads to an entry of its own and that no separator parts. -/
structure IsName (s : Text) : Prop where
  ne_nil : s ≠ []
  ne_dot : s ≠ ['.']
  ne_upward : s ≠ upward
  slash : '/' ∉ s
  backslash : '\\' ∉ s
  newline : '\n' ∉ s

instance : DecidablePred IsName := fun s =>
  decidable_of_iff (s ≠ [] ∧ s ≠ ['.'] ∧ s ≠ upward ∧ '/' ∉ s ∧ '\\' ∉ s ∧ '\n' ∉ s)
    ⟨fun ⟨h₁, h₂, h₃, h₄, h₅, h₆⟩ => ⟨h₁, h₂, h₃, h₄, h₅, h₆⟩,
      fun ⟨h₁, h₂, h₃, h₄, h₅, h₆⟩ => ⟨h₁, h₂, h₃, h₄, h₅, h₆⟩⟩

/-- The names, with a slash before each. -/
def slashed (names : List Text) : Text := names.flatMap ('/' :: ·)

theorem slashed_cons (name : Text) (names : List Text) :
    slashed (name :: names) = '/' :: (name ++ slashed names) := rfl

theorem slashed_append (names more : List Text) :
    slashed (names ++ more) = slashed names ++ slashed more := List.flatMap_append

theorem mem_slashed {names : List Text} {c : Char} (h : c ∈ slashed names) :
    c = '/' ∨ ∃ name ∈ names, c ∈ name := by
  obtain ⟨name, hname, hc⟩ := List.mem_flatMap.1 h
  exact (List.mem_cons.1 hc).imp_right fun hc => ⟨name, hname, hc⟩

theorem slashed_eq_joinWith {names : List Text} (h : names ≠ []) :
    slashed names = '/' :: Text.joinWith "/" names := by
  induction names with
  | nil => exact absurd rfl h
  | cons name names ih =>
    cases names with
    | nil => simp [slashed, Text.joinWith]
    | cons next names =>
      rw [slashed_cons, ih (by simp), Text.joinWith, Text.joinWith, List.intercalate_cons_cons,
        List.append_assoc]
      rfl

theorem joinWith_append {names : List Text} (h : names ≠ []) (more : List Text) :
    Text.joinWith "/" (names ++ more) = Text.joinWith "/" names ++ slashed more := by
  have hall := slashed_append names more
  rw [slashed_eq_joinWith h, slashed_eq_joinWith (by simp [h])] at hall
  exact (List.cons.inj hall).2

theorem Path.text_of_ne_nil {segments : List Text} (anchor : Anchor) (h : segments ≠ []) :
    Path.text ⟨anchor, segments⟩ = anchor.text ++ Text.joinWith "/" segments := by
  obtain ⟨segment, segments, rfl⟩ := List.exists_cons_of_ne_nil h
  cases anchor <;> rfl

theorem Path.text_append {segments : List Text} (anchor : Anchor) (h : segments ≠ [])
    (more : List Text) :
    Path.text ⟨anchor, segments ++ more⟩ = Path.text ⟨anchor, segments⟩ ++ slashed more := by
  rw [Path.text_of_ne_nil anchor (List.append_ne_nil_of_left_ne_nil h more),
    Path.text_of_ne_nil anchor h, joinWith_append h, List.append_assoc]

namespace IsName

theorem isSegment {s : Text} (h : IsName s) : isSegment s = true := by
  simp [Counterpart.isSegment, h.ne_nil, h.ne_dot]

theorem isRead {s : Text} (h : IsName s) : Counterpart.isSegment s = true ∧ '/' ∉ s :=
  ⟨h.isSegment, h.slash⟩

theorem append {s more : Text} (h : IsName s) (hs : '/' ∉ more) (hb : '\\' ∉ more)
    (hn : '\n' ∉ more) : IsName (s ++ more) where
  ne_nil := by simp [h.ne_nil]
  ne_dot hdot := by
    rcases List.append_eq_singleton_iff.1 hdot with ⟨rfl, -⟩ | ⟨rfl, -⟩
    · exact h.ne_nil rfl
    · exact h.ne_dot rfl
  ne_upward hup := by
    rcases List.append_eq_cons_iff.1 hup with ⟨rfl, -⟩ | ⟨rest, rfl, hrest⟩
    · exact h.ne_nil rfl
    · rcases List.append_eq_singleton_iff.1 hrest.symm with ⟨rfl, -⟩ | ⟨rfl, -⟩
      · exact h.ne_dot rfl
      · exact h.ne_upward rfl
  slash := by simp [h.slash, hs]
  backslash := by simp [h.backslash, hb]
  newline := by simp [h.newline, hn]

theorem of_isWord {s : Text} (hne : s ≠ []) (h : s.all isWord) : IsName s := by
  have hnot {c : Char} (hc : isWord c = false) : c ∉ s := fun hmem =>
    Bool.false_ne_true (hc.symm.trans (List.all_eq_true.1 h c hmem))
  exact {
    ne_nil := hne
    ne_dot := fun he => hnot (c := '.') (by decide) (he ▸ List.mem_cons_self)
    ne_upward := fun he => hnot (c := '.') (by decide) (he ▸ List.mem_cons_self)
    slash := hnot (by decide)
    backslash := hnot (by decide)
    newline := hnot isWord_newline }

theorem controllerFile {stem : Text} (h : IsName stem) :
    IsName (stem ++ Conventions.standard.controllerFileSuffix) :=
  h.append (by decide) (by decide) (by decide)

end IsName

theorem isName_appDir : IsName Conventions.standard.appDir := by decide

theorem isName_viewsDir : IsName Conventions.standard.viewsDir := by decide

theorem isName_controllersDir : IsName Conventions.standard.controllersDir := by decide

theorem isName_multiRootDir : ∀ {dir : Text}, dir ∈ Conventions.standard.multiRootDirs →
    IsName dir := by
  decide

theorem segmentsOf_joinWith {names : List Text}
    (h : ∀ name ∈ names, Counterpart.isSegment name = true ∧ '/' ∉ name) :
    Path.segmentsOf (Text.joinWith "/" names) = names := by
  cases names with
  | nil => rfl
  | cons name names =>
    have hsplit := List.splitOn_intercalate '/' (fun name hname => (h name hname).2)
      (List.cons_ne_nil name names)
    refine (congrArg (List.filter Counterpart.isSegment) hsplit).trans ?_
    exact List.filter_eq_self.2 fun name hname => (h name hname).1

theorem head_ne_slash {names : List Text} (hne : names ≠ [])
    (h : ∀ name ∈ names, Counterpart.isSegment name = true ∧ '/' ∉ name) :
    ∃ c rest, c ≠ '/' ∧ Text.joinWith "/" names = c :: rest := by
  obtain ⟨name, names, rfl⟩ := List.exists_cons_of_ne_nil hne
  obtain ⟨hseg, hslash⟩ := h name List.mem_cons_self
  have hname : name ≠ [] := by
    rintro rfl
    cases hseg
  obtain ⟨c, name, rfl⟩ := List.exists_cons_of_ne_nil hname
  refine ⟨c, name ++ slashed names, fun hc => hslash (hc ▸ List.mem_cons_self), ?_⟩
  exact joinWith_append (List.cons_ne_nil (c :: name) []) names ▸ by simp [Text.joinWith]

theorem mem_splitOn {separator : Char} {s segment : Text} (h : segment ∈ s.splitOn separator) :
    separator ∉ segment ∧ segment ⊆ s := by
  induction s generalizing segment with
  | nil =>
    obtain rfl := List.mem_singleton.1 h
    exact ⟨List.not_mem_nil, List.nil_subset _⟩
  | cons c s ih =>
    rw [List.splitOn_cons_eq_if_modifyHead] at h
    split at h
    · rcases List.mem_cons.1 h with rfl | h
      · exact ⟨List.not_mem_nil, List.nil_subset _⟩
      · exact ⟨(ih h).1, List.subset_cons_of_subset c (ih h).2⟩
    · next hc =>
      obtain ⟨first, others, hsplit⟩ := List.exists_cons_of_ne_nil (List.splitOn_ne_nil separator s)
      rw [hsplit, List.modifyHead_cons] at h
      rcases List.mem_cons.1 h with rfl | h
      · obtain ⟨hslash, hsub⟩ := ih (hsplit ▸ List.mem_cons_self)
        refine ⟨fun hmem => ?_, List.cons_subset_cons c hsub⟩
        rcases List.mem_cons.1 hmem with he | hmem
        · exact hc (by simp [← he])
        · exact hslash hmem
      · obtain ⟨hslash, hsub⟩ := ih (hsplit ▸ List.mem_cons_of_mem first h)
        exact ⟨hslash, List.subset_cons_of_subset c hsub⟩

namespace Path

theorem segmentsOf_slash (s : Text) : segmentsOf ('/' :: s) = segmentsOf s := by
  rw [segmentsOf, ← List.nil_append ('/' :: s),
    List.splitOn_append_cons_self_of_not_mem List.not_mem_nil]
  rfl

/-- A path as reading gives it. -/
def IsRead (p : Path) : Prop := ∀ s ∈ p.segments, isSegment s = true ∧ '/' ∉ s

theorem isRead_ofText (s : Text) : (ofText s).IsRead := by
  intro segment hmem
  obtain ⟨hsplit, hsegment⟩ := List.mem_filter.1 hmem
  exact ⟨hsegment, (mem_splitOn hsplit).1⟩

/-- What is written of a path that was read gives the path back. -/
theorem IsRead.ofText_text {p : Path} (h : p.IsRead) : ofText p.text = p := by
  obtain ⟨anchor, segments⟩ := p
  by_cases hne : segments = []
  · subst hne
    cases anchor <;> rfl
  obtain ⟨c, rest, hc, he⟩ := head_ne_slash hne h
  have hsegments := segmentsOf_joinWith h
  rw [text_of_ne_nil anchor hne]
  cases anchor with
  | relative =>
    rw [show Anchor.relative.text = [] from rfl, List.nil_append, ofText, hsegments, he,
      List.takeWhile_cons_of_neg (by simpa using hc)]
    rfl
  | root =>
    rw [show Anchor.root.text = ['/'] from rfl, List.singleton_append, ofText, segmentsOf_slash,
      hsegments, he, List.takeWhile_cons_of_pos (by decide),
      List.takeWhile_cons_of_neg (by simpa using hc)]
    rfl
  | doubled =>
    rw [show Anchor.doubled.text = ['/', '/'] from rfl, List.cons_append, List.singleton_append,
      ofText, segmentsOf_slash, segmentsOf_slash, hsegments, he,
      List.takeWhile_cons_of_pos (by decide), List.takeWhile_cons_of_pos (by decide),
      List.takeWhile_cons_of_neg (by simpa using hc)]
    rfl

end Path

theorem Path.ofText_joinWith {names : List Text} (hne : names ≠ [])
    (h : ∀ name ∈ names, IsName name) :
    Path.ofText (Text.joinWith "/" names) = ⟨.relative, names⟩ := by
  have hread : Path.IsRead ⟨.relative, names⟩ := fun name hname => (h name hname).isRead
  rw [← hread.ofText_text, Path.text_of_ne_nil .relative hne]
  rfl

theorem Path.hDiv_joinWith (p : Path) {names : List Text} (hne : names ≠ [])
    (h : ∀ name ∈ names, IsName name) :
    p / Text.joinWith "/" names = ⟨p.anchor, p.segments ++ names⟩ := by
  rw [Path.hDiv_eq, Path.ofText_joinWith hne h]
  rfl

theorem Path.hDiv_name (p : Path) {name : Text} (h : IsName name) :
    p / name = ⟨p.anchor, p.segments ++ [name]⟩ := by
  have := p.hDiv_joinWith (List.cons_ne_nil name []) (by simpa using h)
  simpa [Text.joinWith] using this

theorem forwardSlashes_append (s t : Text) :
    forwardSlashes (s ++ t) = forwardSlashes s ++ forwardSlashes t := List.map_append

theorem forwardSlashes_eq_self {s : Text} (h : '\\' ∉ s) : forwardSlashes s = s := by
  refine (List.map_congr_left fun c hc => ?_).trans (List.map_id s)
  exact if_neg fun he : c = '\\' => h (he ▸ hc)

theorem forwardSlashes_slashed {names : List Text} (h : ∀ name ∈ names, IsName name) :
    forwardSlashes (slashed names) = slashed names := by
  refine forwardSlashes_eq_self fun hmem => ?_
  rcases mem_slashed hmem with hc | ⟨name, hname, hc⟩
  · exact absurd hc (by decide)
  · exact (h name hname).backslash hc

theorem forwardSlashes_joinWith {names : List Text} (h : ∀ name ∈ names, IsName name) :
    forwardSlashes (Text.joinWith "/" names) = Text.joinWith "/" names := by
  by_cases hne : names = []
  · subst hne
    rfl
  · have hself := forwardSlashes_slashed h
    rw [slashed_eq_joinWith hne] at hself
    exact (List.cons.inj hself).2

theorem trimEnd_append_replicate (s : Text) :
    ∃ k, s = Text.trimEnd (· == '/') s ++ List.replicate k '/' := by
  have hall : (s.reverse.takeWhile (· == '/')).all (· == '/') := List.all_takeWhile
  have hrep : (s.reverse.takeWhile (· == '/')).reverse = List.replicate _ '/' :=
    List.eq_replicate_iff.2 ⟨rfl, fun c hc =>
      beq_iff_eq.1 (List.all_eq_true.1 hall c (List.mem_reverse.1 hc))⟩
  exact ⟨_, hrep ▸ (trimEnd_append_takeWhile (· == '/') s).symm⟩

theorem replicate_slash (k : Nat) (s : Text) :
    '/' :: (List.replicate k '/' ++ s) = List.replicate k '/' ++ '/' :: s := by
  rw [← List.cons_append, ← List.replicate_succ, List.replicate_succ', List.append_assoc]
  rfl

theorem relativeTo?_slashed {path root s : Text} {k : Nat} {names : List Text} (hne : names ≠ [])
    (hp : forwardSlashes path = s ++ (List.replicate k '/' ++ slashed names))
    (hr : Text.trimEnd (· == '/') (forwardSlashes root) = s) :
    relativeTo? path root = some (List.replicate k '/' ++ Text.joinWith "/" names) := by
  rw [relativeTo?, hp, hr, List.isPrefixOf?_eq_some_iff_append_eq, slashed_eq_joinWith hne,
    ← replicate_slash, List.append_assoc]
  rfl

theorem workspaceRelative_slashed {path root s : Text} {k : Nat} {names : List Text}
    (hne : names ≠ [])
    (hp : forwardSlashes path = s ++ (List.replicate k '/' ++ slashed names))
    (hr : Text.trimEnd (· == '/') (forwardSlashes root) = s) :
    workspaceRelative path root = List.replicate k '/' ++ slashed names := by
  rw [workspaceRelative, relativeTo?_slashed hne hp hr, Option.getD_some, slashed_eq_joinWith hne,
    replicate_slash]

/-- The empty relative path contains nothing: its text is no start of a path. -/
theorem relativeTo?_dot {names : List Text} (hne : names ≠ []) (h : ∀ name ∈ names, IsName name) :
    relativeTo? (Text.joinWith "/" names) ['.'] = none := by
  obtain ⟨name, more, rfl⟩ := List.exists_cons_of_ne_nil hne
  have hname := h name List.mem_cons_self
  refine Option.eq_none_iff_forall_not_mem.2 fun rest hrest => ?_
  have hdot := (List.isPrefixOf?_eq_some_iff_append_eq.1 hrest).symm
  rw [forwardSlashes_joinWith h, ← List.singleton_append, joinWith_append (by simp), Text.joinWith,
    List.intercalate_singleton] at hdot
  replace hdot : name ++ slashed more = '.' :: '/' :: rest := hdot
  rcases List.append_eq_cons_iff.1 hdot with ⟨hnil, -⟩ | ⟨name, rfl, hslash⟩
  · exact hname.ne_nil hnil
  · rcases List.append_eq_cons_iff.1 hslash.symm with ⟨rfl, -⟩ | ⟨name, rfl, -⟩
    · exact hname.ne_dot rfl
    · exact hname.slash (by simp)

/-- What lies below a workspace is seen from it by its names, after slashes that the workspace may
end in. -/
theorem workspaceRelative_below (root : Path) {names : List Text} (hne : names ≠ [])
    (h : ∀ name ∈ names, IsName name) :
    ∃ k, workspaceRelative (Path.text ⟨root.anchor, root.segments ++ names⟩) root.text =
      List.replicate k '/' ++ slashed names := by
  obtain ⟨anchor, segments⟩ := root
  have hself := forwardSlashes_slashed h
  cases segments with
  | cons segment segments =>
    obtain ⟨k, hk⟩ :=
      trimEnd_append_replicate (forwardSlashes (Path.text ⟨anchor, segment :: segments⟩))
    refine ⟨k, workspaceRelative_slashed hne ?_ rfl⟩
    rw [Path.text_append anchor (by simp), forwardSlashes_append, hself, ← List.append_assoc, ← hk]
  | nil =>
    obtain ⟨c, rest, hc, he⟩ := head_ne_slash hne fun name hname => (h name hname).isRead
    have hjoin := slashed_eq_joinWith hne
    obtain ⟨name, more, rfl⟩ := List.exists_cons_of_ne_nil hne
    rw [List.nil_append]
    cases anchor with
    | root =>
      refine ⟨0, workspaceRelative_slashed hne (s := []) ?_ rfl⟩
      rw [← hself, hjoin]
      rfl
    | doubled =>
      refine ⟨1, workspaceRelative_slashed hne (s := []) ?_ rfl⟩
      rw [List.nil_append, List.replicate_one, List.singleton_append, ← hself, hjoin]
      rfl
    | relative =>
      have htext : Path.text ⟨.relative, name :: more⟩ = Text.joinWith "/" (name :: more) := rfl
      refine ⟨0, ?_⟩
      rw [htext, workspaceRelative, show Path.text ⟨.relative, []⟩ = ['.'] from rfl,
        relativeTo?_dot hne h, Option.getD_none, forwardSlashes_joinWith h, hjoin, he,
        Text.trimStart, List.dropWhile_cons_of_neg (by simpa using hc)]
      rfl

/-! ### Searching for a directory -/

theorem append_slash_inj {name other s t : Text} (hn : '/' ∉ name) (ho : '/' ∉ other)
    (h : name ++ '/' :: s = other ++ '/' :: t) : name = other ∧ s = t := by
  have hsplit := congrArg (List.splitOn '/') h
  rw [List.splitOn_append_cons_self_of_not_mem hn, List.splitOn_append_cons_self_of_not_mem ho]
    at hsplit
  obtain rfl := (List.cons.inj hsplit).1
  exact ⟨rfl, (List.cons.inj (List.append_cancel_left h)).2⟩

/-- A directory is met at the start of a path just when it is the first of several names. -/
theorem marker_isPrefixOf?_slashed {dir name : Text} (hd : '/' ∉ dir) (hn : '/' ∉ name)
    (names : List Text) :
    List.isPrefixOf? ('/' :: (dir ++ ['/'])) (slashed (name :: names)) =
      if name = dir ∧ names ≠ [] then some (Text.joinWith "/" names) else none := by
  split
  · next h =>
    obtain ⟨rfl, hne⟩ := h
    rw [List.isPrefixOf?_eq_some_iff_append_eq, slashed_cons, slashed_eq_joinWith hne]
    simp
  · next h =>
    refine Option.eq_none_iff_forall_not_mem.2 fun rest hrest => h ?_
    have heq := (List.isPrefixOf?_eq_some_iff_append_eq.1 hrest).symm
    replace heq : name ++ slashed names = dir ++ '/' :: rest := by
      simpa [slashed_cons] using heq
    by_cases hne : names = []
    · subst hne
      rw [show slashed [] = [] from rfl, List.append_nil] at heq
      exact absurd (heq ▸ by simp) hn
    · rw [slashed_eq_joinWith hne] at heq
      exact ⟨(append_slash_inj hn hd heq).1, hne⟩

theorem isPrefixOf?_cons_of_ne {c d : Char} (h : c ≠ d) (s t : Text) :
    List.isPrefixOf? (c :: s) (d :: t) = none :=
  if_neg (by simpa using h)

theorem after?_append {marker : Text} {acceptable : Text → Bool} {name : Text} (h : '/' ∉ name)
    (s : Text) :
    Text.after? ('/' :: marker) acceptable (name ++ s) =
      Text.after? ('/' :: marker) acceptable s := by
  induction name with
  | nil => rfl
  | cons c name ih =>
    have hc : '/' ≠ c := fun hc => h (hc ▸ List.mem_cons_self)
    rw [List.cons_append, Text.after?, isPrefixOf?_cons_of_ne hc]
    exact ih fun hmem => h (List.mem_cons_of_mem _ hmem)

theorem after?_slashed_cons {dir name : Text} (hd : '/' ∉ dir) (hn : '/' ∉ name)
    (names : List Text) (acceptable : Text → Bool) :
    Text.after? ('/' :: (dir ++ ['/'])) acceptable (slashed (name :: names)) =
      if name = dir ∧ names ≠ [] ∧ acceptable (Text.joinWith "/" names) then
        some (Text.joinWith "/" names)
      else Text.after? ('/' :: (dir ++ ['/'])) acceptable (slashed names) := by
  have hprefix := marker_isPrefixOf?_slashed hd hn names
  rw [slashed_cons] at hprefix ⊢
  rw [Text.after?, hprefix, after?_append hn]
  by_cases h : name = dir ∧ names ≠ []
  · rw [if_pos h, Option.filter_some]
    by_cases ha : acceptable (Text.joinWith "/" names)
    · rw [if_pos ha, if_pos ⟨h.1, h.2, ha⟩]
    · rw [if_neg ha, if_neg fun hall => ha hall.2.2]
  · rw [if_neg h, if_neg fun hall => h ⟨hall.1, hall.2.1⟩]
    rfl

theorem after?_replicate {dir : Text} (hne : dir ≠ []) (hd : '/' ∉ dir) (acceptable : Text → Bool)
    (k : Nat) (names : List Text) :
    Text.after? ('/' :: (dir ++ ['/'])) acceptable (List.replicate k '/' ++ slashed names) =
      Text.after? ('/' :: (dir ++ ['/'])) acceptable (slashed names) := by
  obtain ⟨c, dir, rfl⟩ := List.exists_cons_of_ne_nil hne
  have hc : c ≠ '/' := fun hc => hd (hc ▸ List.mem_cons_self)
  induction k with
  | zero => rfl
  | succ k ih =>
    have hstart : List.isPrefixOf? ('/' :: (c :: dir ++ ['/']))
        ('/' :: (List.replicate k '/' ++ slashed names)) = none := by
      cases k with
      | zero =>
        cases names with
        | nil => rfl
        | cons name names => exact isPrefixOf?_cons_of_ne hc _ _
      | succ k => exact isPrefixOf?_cons_of_ne hc _ _
    refine Eq.trans ?_ ih
    rw [List.replicate_succ, show '/' :: List.replicate k '/' ++ slashed names =
      '/' :: (List.replicate k '/' ++ slashed names) from rfl, Text.after?, hstart]
    rfl

theorem splitFile_append {dir file : Text} (h : '/' ∉ file) :
    splitFile (dir ++ '/' :: file) = (dir, file) := by
  have hall : ∀ c ∈ file.reverse, (c != '/') = true := fun c hc => by
    simpa using fun he : c = '/' => h (he ▸ List.mem_reverse.1 hc)
  have hrev : (dir ++ '/' :: file).reverse = file.reverse ++ '/' :: dir.reverse := by simp
  rw [splitFile, hrev, List.dropWhile_append_of_pos hall, List.takeWhile_append_of_pos hall]
  simp

theorem actionOf?_append {action rest : Text} (hne : action ≠ []) (h : action.all isWord) :
    actionOf? (action ++ '.' :: rest) = some action := by
  have hall : ∀ c ∈ action, isWord c = true := List.all_eq_true.1 h
  have hdot : isWord '.' = false := by decide
  obtain ⟨c, name, rfl⟩ := List.exists_cons_of_ne_nil hne
  rw [actionOf?, List.takeWhile_append_of_pos hall, List.dropWhile_append_of_pos hall,
    List.takeWhile_cons_of_neg (by simp [hdot]), List.dropWhile_cons_of_neg (by simp [hdot]),
    List.append_nil]
  rfl

end Counterpart
