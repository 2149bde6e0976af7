import Counterpart.Lookup
import Counterpart.Proofs.CandidatePaths

/-! The grammar of the paths that documents are read from. A path is seen from its workspace behind
one slash. Of all the ways to part it at the directory of its kind, the one with the shortest start
tells the identity; if there is none, the path is refused. -/

namespace Counterpart

open Conventions

/-! ### The first place of a marker -/

/-- The marker stands behind `before`, and what follows it is acceptable. -/
def FollowsAt (marker : Text) (acceptable : Text → Bool) (s before found : Text) : Prop :=
  s = before ++ (marker ++ found) ∧ acceptable found

namespace FollowsAt

variable {marker s before found : Text} {acceptable : Text → Bool} {c : Char}

theorem nil_iff : FollowsAt marker acceptable s [] found ↔
    (marker.isPrefixOf? s).filter acceptable = some found := by
  rw [Option.filter_eq_some_iff, List.isPrefixOf?_eq_some_iff_append_eq, FollowsAt, List.nil_append,
    eq_comm]

theorem cons_cons_iff {d : Char} : FollowsAt marker acceptable (c :: s) (d :: before) found ↔
    c = d ∧ FollowsAt marker acceptable s before found := by
  rw [FollowsAt, FollowsAt, List.cons_append, List.cons.injEq, and_assoc]

end FollowsAt

section After

variable {marker s found : Text} {acceptable : Text → Bool}

theorem after?_eq_none_iff : Text.after? marker acceptable s = none ↔
    ∀ before found, ¬ FollowsAt marker acceptable s before found := by
  -- A marker stands at the start, or behind the first character.
  induction s with
  | nil =>
    rw [Text.after?]
    constructor
    · rintro h (_ | ⟨d, before⟩) found hat
      · rw [FollowsAt.nil_iff, h] at hat
        cases hat
      · exact List.cons_ne_nil _ _ hat.1.symm
    · intro h
      exact Option.eq_none_iff_forall_ne_some.2 fun found hf => h [] found (FollowsAt.nil_iff.2 hf)
  | cons c s ih =>
    rw [Text.after?]
    cases hf : (marker.isPrefixOf? (c :: s)).filter acceptable with
    | some found =>
      refine iff_of_false (Option.some_ne_none found) fun h => ?_
      exact h [] found (FollowsAt.nil_iff.2 hf)
    | none =>
      rw [ih]
      constructor
      · rintro h (_ | ⟨d, before⟩) found hat
        · rw [FollowsAt.nil_iff, hf] at hat
          cases hat
        · exact h before found (FollowsAt.cons_cons_iff.1 hat).2
      · intro h before found hat
        exact h (c :: before) found (FollowsAt.cons_cons_iff.2 ⟨rfl, hat⟩)

theorem exists_of_after? (h : Text.after? marker acceptable s = some found) :
    ∃ before, FollowsAt marker acceptable s before found ∧ ∀ before' found',
      FollowsAt marker acceptable s before' found' → before.length ≤ before'.length := by
  induction s with
  | nil =>
    rw [Text.after?] at h
    exact ⟨[], FollowsAt.nil_iff.2 h, fun _ _ _ => Nat.zero_le _⟩
  | cons c s ih =>
    rw [Text.after?] at h
    cases hf : (marker.isPrefixOf? (c :: s)).filter acceptable with
    | some found' =>
      rw [hf] at h
      obtain rfl := Option.some.inj h
      exact ⟨[], FollowsAt.nil_iff.2 hf, fun _ _ _ => Nat.zero_le _⟩
    | none =>
      rw [hf] at h
      obtain ⟨before, hat, hleast⟩ := ih h
      refine ⟨c :: before, FollowsAt.cons_cons_iff.2 ⟨rfl, hat⟩, ?_⟩
      rintro (_ | ⟨d, before'⟩) found' hat'
      · rw [FollowsAt.nil_iff, hf] at hat'
        cases hat'
      · exact Nat.succ_le_succ (hleast before' found' (FollowsAt.cons_cons_iff.1 hat').2)

/-- What is found behind a marker stands behind its first place. -/
theorem after?_eq_some_iff : Text.after? marker acceptable s = some found ↔
    ∃ before, FollowsAt marker acceptable s before found ∧ ∀ before' found',
      FollowsAt marker acceptable s before' found' → before.length ≤ before'.length := by
  refine ⟨exists_of_after?, ?_⟩
  rintro ⟨before, hat, hleast⟩
  cases ha : Text.after? marker acceptable s with
  | none => exact absurd hat (after?_eq_none_iff.1 ha before found)
  | some found' =>
    obtain ⟨before', hat', hleast'⟩ := exists_of_after? ha
    have hlength := Nat.le_antisymm (hleast' _ _ hat) (hleast _ _ hat')
    obtain ⟨rfl, hrest⟩ := List.append_inj (hat'.1.symm.trans hat.1) hlength
    rw [List.append_cancel_left hrest]

end After

/-! ### Paths seen from a workspace -/

/-- The root, less the slashes that it ends in. -/
def IsBase (root base : Text) : Prop :=
  base.getLast? ≠ some '/' ∧ ∃ k, forwardSlashes root = base ++ List.replicate k '/'

/-- A path below the root is seen without the root. Any other is seen without the slashes that it
starts with. Both have one slash in front. -/
inductive SeenFrom (root path : Text) : Text → Prop
  | below {base rest : Text} (hbase : IsBase root base)
      (hpath : forwardSlashes path = base ++ '/' :: rest) : SeenFrom root path ('/' :: rest)
  | outside {base rest : Text} {k : Nat} (hbase : IsBase root base)
      (hnot : ∀ rest, forwardSlashes path ≠ base ++ '/' :: rest)
      (hpath : forwardSlashes path = List.replicate k '/' ++ rest)
      (hrest : rest.head? ≠ some '/') : SeenFrom root path ('/' :: rest)

theorem trimEnd_eq_self {s : Text} (h : s.getLast? ≠ some '/') :
    Text.trimEnd (· == '/') s = s := by
  have hreverse : s.reverse.dropWhile (· == '/') = s.reverse := by
    cases hs : s.reverse with
    | nil => rfl
    | cons c rest =>
      refine List.dropWhile_cons_of_neg fun hc => h ?_
      rw [← List.head?_reverse, hs, List.head?_cons, beq_iff_eq.1 hc]
  rw [Text.trimEnd, hreverse, List.reverse_reverse]

theorem isBase_iff {root base : Text} :
    IsBase root base ↔ base = Text.trimEnd (· == '/') (forwardSlashes root) := by
  constructor
  · rintro ⟨hlast, k, hk⟩
    rw [hk, Text.trimEnd_append_of_all _ (by simp), trimEnd_eq_self hlast]
  · rintro rfl
    refine ⟨?_, trimEnd_append_replicate (forwardSlashes root)⟩
    have hhead := List.head?_dropWhile_not (· == '/') (forwardSlashes root).reverse
    rw [Text.trimEnd, List.getLast?_reverse]
    intro hslash
    simp [hslash] at hhead

theorem relativeTo?_eq_some_iff {root base path rest : Text} (hb : IsBase root base) :
    relativeTo? path root = some rest ↔ forwardSlashes path = base ++ '/' :: rest := by
  rw [relativeTo?, ← isBase_iff.1 hb, List.isPrefixOf?_eq_some_iff_append_eq, List.append_assoc,
    List.singleton_append, eq_comm]

theorem trimStart_eq {k : Nat} {rest : Text} (h : rest.head? ≠ some '/') :
    Text.trimStart (· == '/') (List.replicate k '/' ++ rest) = rest := by
  rw [Text.trimStart, List.dropWhile_append_of_pos (by simp)]
  cases rest with
  | nil => rfl
  | cons c rest => exact List.dropWhile_cons_of_neg (by simpa using h)

theorem exists_trimStart (s : Text) :
    ∃ k, s = List.replicate k '/' ++ Text.trimStart (· == '/') s ∧
      (Text.trimStart (· == '/') s).head? ≠ some '/' := by
  have hall : ∀ c ∈ s.takeWhile (· == '/'), c = '/' := by
    intro c hc
    simpa using List.mem_takeWhile_imp hc
  refine ⟨(s.takeWhile (· == '/')).length, ?_, ?_⟩
  · rw [← List.eq_replicate_of_mem hall, Text.trimStart, List.takeWhile_append_dropWhile]
  · have hhead := List.head?_dropWhile_not (· == '/') s
    intro hslash
    rw [Text.trimStart] at hslash
    simp [hslash] at hhead

theorem seenFrom_iff {root path s : Text} :
    SeenFrom root path s ↔ s = workspaceRelative path root := by
  have hbase : IsBase root (Text.trimEnd (· == '/') (forwardSlashes root)) := isBase_iff.2 rfl
  constructor
  · rintro (⟨hb, hpath⟩ | ⟨hb, hnot, hpath, hrest⟩)
    · rw [workspaceRelative, (relativeTo?_eq_some_iff hb).2 hpath, Option.getD_some]
    · have hnone : relativeTo? path root = none :=
        Option.eq_none_iff_forall_ne_some.2 fun rest hr => hnot rest
          ((relativeTo?_eq_some_iff hb).1 hr)
      rw [workspaceRelative, hnone, Option.getD_none, hpath, trimStart_eq hrest]
  · rintro rfl
    cases hr : relativeTo? path root with
    | some rest =>
      rw [workspaceRelative, hr, Option.getD_some]
      exact .below hbase ((relativeTo?_eq_some_iff hbase).1 hr)
    | none =>
      obtain ⟨k, hpath, hrest⟩ := exists_trimStart (forwardSlashes path)
      rw [workspaceRelative, hr, Option.getD_none]
      refine .outside hbase (fun rest hp => ?_) hpath hrest
      rw [(relativeTo?_eq_some_iff hbase).2 hp] at hr
      cases hr

/-- A path below a root is seen alike wherever the root lies, but for slashes that the root may end
in. -/
theorem workspaceRelative_append (root rest : Text) :
    ∃ k, workspaceRelative (root ++ '/' :: rest) root =
      List.replicate k '/' ++ '/' :: forwardSlashes rest := by
  have hbase : IsBase root (Text.trimEnd (· == '/') (forwardSlashes root)) := isBase_iff.2 rfl
  have ⟨_, k, hroot⟩ := hbase
  have hpath : forwardSlashes (root ++ '/' :: rest) =
      Text.trimEnd (· == '/') (forwardSlashes root) ++
        '/' :: (List.replicate k '/' ++ forwardSlashes rest) := by
    rw [replicate_slash, ← List.append_assoc, ← hroot, forwardSlashes_append]
    rfl
  refine ⟨k, ?_⟩
  rw [← replicate_slash]
  exact (seenFrom_iff.1 (.below hbase hpath)).symm

/-! ### Parting a path -/

/-- Behind `before` come the directory of views, the identity, and a file whose name starts with the
action and a dot. -/
def ReadsView (conv : Conventions) (s before identity action : Text) : Prop :=
  ∃ rest, s = before ++ (conv.viewsMarker ++ (identity ++ '/' :: (action ++ '.' :: rest))) ∧
    identity ≠ [] ∧ '\n' ∉ identity ∧ action ≠ [] ∧ action.all isWord ∧ '/' ∉ rest

/-- Behind `before` come the directory of controllers, the identity and the suffix of a controller
file, and after that at most one newline. -/
def ReadsController (conv : Conventions) (s before identity : Text) : Prop :=
  ∃ path, (s = path ∨ s = path ++ ['\n']) ∧
    path = before ++ (conv.controllersMarker ++ (identity ++ conv.controllerFileSuffix)) ∧
    identity ≠ [] ∧ '\n' ∉ identity

theorem isIdentity_iff {s : Text} : isIdentity s ↔ s ≠ [] ∧ '\n' ∉ s := by
  simp [isIdentity, isOneLine]

theorem mem_endings {s t : Text} : t ∈ Text.endings s ↔ s = t ∨ t ++ ['\n'] = s := by
  rw [Text.endings]
  split
  · next h =>
    obtain ⟨stem, rfl⟩ := List.getLast?_eq_some_iff.1 h
    simp [eq_comm]
  · next h =>
    rw [List.mem_singleton, eq_comm]
    refine (or_iff_left fun hs => h ?_).symm
    exact hs ▸ List.getLast?_concat

theorem actionOf?_eq_some_iff {file action : Text} : actionOf? file = some action ↔
    action ≠ [] ∧ action.all isWord ∧ ∃ rest, file = action ++ '.' :: rest := by
  constructor
  · intro h
    have hsplit := List.takeWhile_append_dropWhile (p := isWord) (l := file)
    have hall : (file.takeWhile isWord).all isWord := List.all_takeWhile
    rw [actionOf?] at h
    split at h
    · next c name rest hname hrest =>
      obtain rfl := Option.some.inj h
      rw [hname, hrest] at hsplit
      exact ⟨List.cons_ne_nil _ _, hname ▸ hall, rest, hsplit.symm⟩
    · cases h
  · rintro ⟨hne, hword, rest, rfl⟩
    exact actionOf?_append hne hword

theorem exists_file {s : Text} (h : '/' ∈ s) : ∃ dir file, s = dir ++ '/' :: file ∧ '/' ∉ file := by
  obtain ⟨back, front, hs, hback⟩ := List.eq_append_cons_of_mem (List.mem_reverse.2 h)
  refine ⟨front.reverse, back.reverse, ?_, fun hmem => hback (List.mem_reverse.1 hmem)⟩
  rw [← List.reverse_reverse s, hs]
  simp

section Parting

variable {conv : Conventions} {s before identity action : Text}

theorem readsView_iff {dir file : Text} (hf : '/' ∉ file) :
    ReadsView conv (dir ++ '/' :: file) before identity action ↔
      actionOf? file = some action ∧
        FollowsAt conv.viewsMarker isIdentity dir before identity := by
  rw [actionOf?_eq_some_iff, FollowsAt, isIdentity_iff]
  constructor
  · rintro ⟨rest, hs, hne, hline, ha, hw, hrest⟩
    -- The last slash of both spellings is the one in front of the file name.
    have hfile : '/' ∉ action ++ '.' :: rest := by
      simpa [hrest] using (IsName.of_isWord ha hw).slash
    have hsplit := congrArg splitFile hs
    rw [← List.append_assoc, ← List.append_assoc, splitFile_append hf, splitFile_append hfile]
      at hsplit
    obtain ⟨rfl, rfl⟩ := Prod.mk.inj hsplit
    exact ⟨⟨ha, hw, rest, rfl⟩, List.append_assoc _ _ _, hne, hline⟩
  · rintro ⟨⟨ha, hw, rest, rfl⟩, rfl, hne, hline⟩
    refine ⟨rest, ?_, hne, hline, ha, hw, fun hmem => hf ?_⟩
    · simp only [List.append_assoc]
    · exact List.mem_append_right _ (List.mem_cons_of_mem _ hmem)

theorem targetIn?_eq {dir file : Text} (hf : '/' ∉ file) :
    targetIn? conv (dir ++ '/' :: file) = (actionOf? file).bind fun action =>
      (Text.after? conv.viewsMarker isIdentity dir).map (·, action) := by
  rw [targetIn?, splitFile_append hf]
  dsimp only
  cases actionOf? file <;> rfl

/-- The identity and the action are those of the parting with the shortest start. -/
theorem targetIn?_eq_some_iff (hs : '/' ∈ s) : targetIn? conv s = some (identity, action) ↔
    ∃ before, ReadsView conv s before identity action ∧ ∀ before' identity' action',
      ReadsView conv s before' identity' action' → before.length ≤ before'.length := by
  obtain ⟨dir, file, rfl, hf⟩ := exists_file hs
  simp only [readsView_iff hf, targetIn?_eq hf]
  cases ha : actionOf? file with
  | none => simp
  | some action' =>
    simp only [Option.bind_some, Option.map_eq_some_iff, Prod.mk.injEq, after?_eq_some_iff,
      Option.some.injEq]
    constructor
    · rintro ⟨found, ⟨before, hat, hleast⟩, rfl, rfl⟩
      exact ⟨before, ⟨rfl, hat⟩, fun before' identity' _ h => hleast before' identity' h.2⟩
    · rintro ⟨before, ⟨rfl, hat⟩, hleast⟩
      exact ⟨identity, ⟨before, hat, fun before' found' h => hleast before' found' _ ⟨rfl, h⟩⟩,
        rfl, rfl⟩

theorem targetIn?_eq_none_iff (hs : '/' ∈ s) : targetIn? conv s = none ↔
    ∀ before identity action, ¬ ReadsView conv s before identity action := by
  obtain ⟨dir, file, rfl, hf⟩ := exists_file hs
  simp only [readsView_iff hf, targetIn?_eq hf]
  cases ha : actionOf? file with
  | none => simp
  | some action' => simp [after?_eq_none_iff]

end Parting

section ControllerFile

variable {s stem before identity : Text}

/-- The path is the stem, the suffix of a controller file and at most one newline. -/
def HasControllerStem (s stem : Text) : Prop :=
  s = stem ++ standard.controllerFileSuffix ∨
    s = stem ++ standard.controllerFileSuffix ++ ['\n']

theorem controllerFile_ne_newline (stem path : Text) :
    stem ++ standard.controllerFileSuffix ≠ path ++ ['\n'] := by
  intro he
  have hlast := getLast?_controllerFile stem
  rw [he, List.getLast?_concat] at hlast
  exact absurd hlast (by decide)

theorem HasControllerStem.unique {stem' : Text} (h : HasControllerStem s stem)
    (h' : HasControllerStem s stem') : stem = stem' := by
  rcases h with rfl | rfl
  · rcases h' with he | he
    · exact List.append_cancel_right he
    · exact absurd he (controllerFile_ne_newline _ _)
  · rcases h' with he | he
    · exact absurd he.symm (controllerFile_ne_newline _ _)
    · exact List.append_cancel_right (List.append_cancel_right he)

theorem readsController_iff : ReadsController standard s before identity ↔
    ∃ stem, HasControllerStem s stem ∧
      FollowsAt standard.controllersMarker isIdentity stem before identity := by
  simp only [FollowsAt, isIdentity_iff]
  constructor
  · rintro ⟨path, hs, rfl, hne, hline⟩
    refine ⟨before ++ (standard.controllersMarker ++ identity), ?_, rfl, hne, hline⟩
    simpa only [HasControllerStem, List.append_assoc] using hs
  · rintro ⟨stem, hstem, rfl, hne, hline⟩
    refine ⟨_, hstem, ?_, hne, hline⟩
    simp only [List.append_assoc]

theorem identityIn?_of_stem (h : HasControllerStem s stem) :
    identityIn? .standard s = Text.after? standard.controllersMarker isIdentity stem := by
  rcases h with rfl | rfl
  · exact identityIn?_append stem
  · -- Before the newline the path ends as a controller file does, and behind it as none does.
    have hnone : standard.controllerFileSuffix.isSuffixOf?
        (stem ++ standard.controllerFileSuffix ++ ['\n']) = none := by
      refine Option.eq_none_iff_forall_ne_some.2 fun t ht => ?_
      exact controllerFile_ne_newline _ _ (List.isSuffixOf?_eq_some_iff_append_eq.1 ht)
    have hstem : standard.controllerFileSuffix.isSuffixOf?
        (stem ++ standard.controllerFileSuffix) = some stem :=
      List.isSuffixOf?_eq_some_iff_append_eq.2 rfl
    rw [identityIn?, Text.endings, if_pos List.getLast?_concat, List.dropLast_concat,
      List.findSome?_cons, hnone, Option.bind_none]
    dsimp only
    rw [List.findSome?_singleton, hstem, Option.bind_some]

theorem identityIn?_of_not_stem (h : ∀ stem, ¬ HasControllerStem s stem) :
    identityIn? .standard s = none := by
  refine List.findSome?_eq_none_iff.2 fun t ht => ?_
  rw [Option.bind_eq_none_iff]
  intro stem hstem
  rw [List.isSuffixOf?_eq_some_iff_append_eq] at hstem
  refine absurd ?_ (h stem)
  rw [HasControllerStem, hstem]
  exact (mem_endings.1 ht).imp_right Eq.symm

theorem identityIn?_eq_some_iff : identityIn? .standard s = some identity ↔
    ∃ before, ReadsController .standard s before identity ∧ ∀ before' identity',
      ReadsController .standard s before' identity' → before.length ≤ before'.length := by
  simp only [readsController_iff]
  by_cases h : ∃ stem, HasControllerStem s stem
  · obtain ⟨stem, hstem⟩ := h
    have hiff (before found : Text) : (∃ stem, HasControllerStem s stem ∧
        FollowsAt standard.controllersMarker isIdentity stem before found) ↔
          FollowsAt standard.controllersMarker isIdentity stem before found :=
      ⟨fun ⟨_, hstem', hat⟩ => hstem.unique hstem' ▸ hat, fun hat => ⟨stem, hstem, hat⟩⟩
    simp only [hiff, identityIn?_of_stem hstem, after?_eq_some_iff]
  · rw [identityIn?_of_not_stem fun stem hstem => h ⟨stem, hstem⟩]
    refine iff_of_false (by simp) ?_
    rintro ⟨-, ⟨stem, hstem, -⟩, -⟩
    exact h ⟨stem, hstem⟩

theorem identityIn?_eq_none_iff : identityIn? .standard s = none ↔
    ∀ before identity, ¬ ReadsController .standard s before identity := by
  simp only [readsController_iff]
  constructor
  · rintro hnone before identity ⟨stem, hstem, hat⟩
    rw [identityIn?_of_stem hstem] at hnone
    exact after?_eq_none_iff.1 hnone before identity hat
  · intro h
    by_cases hex : ∃ stem, HasControllerStem s stem
    · obtain ⟨stem, hstem⟩ := hex
      rw [identityIn?_of_stem hstem, after?_eq_none_iff]
      exact fun before identity hat => h before identity ⟨stem, hstem, hat⟩
    · exact identityIn?_of_not_stem fun stem hstem => hex ⟨stem, hstem⟩

end ControllerFile

/-! ### Slashes in front -/

theorem after?_cons_slash {c : Char} {marker s : Text} (hs : s.head? ≠ some c)
    (acceptable : Text → Bool) :
    Text.after? ('/' :: c :: marker) acceptable ('/' :: s) =
      Text.after? ('/' :: c :: marker) acceptable s := by
  have hnone : List.isPrefixOf? ('/' :: c :: marker) ('/' :: s) = none := by
    refine Option.eq_none_iff_forall_ne_some.2 fun rest hrest => hs ?_
    obtain ⟨-, htail⟩ := List.cons.inj (List.isPrefixOf?_eq_some_iff_append_eq.1 hrest)
    rw [← htail]
    rfl
  rw [Text.after?, hnone]
  rfl

/-- The first part of a text with a slash in front is empty, or has that slash in front. -/
theorem head?_ne_of_append {c : Char} (hc : c ≠ '/') {s part rest : Text}
    (h : '/' :: s = part ++ rest) : part.head? ≠ some c := by
  cases part with
  | nil => simp
  | cons d part =>
    obtain ⟨rfl, -⟩ := List.cons.inj h
    simpa using hc.symm

theorem targetIn?_cons_slash (s : Text) :
    targetIn? .standard ('/' :: '/' :: s) = targetIn? .standard ('/' :: s) := by
  obtain ⟨dir, file, hs, hf⟩ := exists_file (s := '/' :: s) List.mem_cons_self
  have hhead : dir.head? ≠ some 'v' := head?_ne_of_append (by decide) hs
  have hafter : Text.after? standard.viewsMarker isIdentity ('/' :: dir) =
      Text.after? standard.viewsMarker isIdentity dir := after?_cons_slash hhead isIdentity
  rw [hs, ← List.cons_append, targetIn?_eq hf, targetIn?_eq hf]
  exact congrArg _ (funext fun action => congrArg _ hafter)

theorem hasControllerStem_cons_iff {s stem : Text} :
    HasControllerStem ('/' :: s) ('/' :: stem) ↔ HasControllerStem s stem := by
  simp only [HasControllerStem, List.cons_append, List.cons.injEq, true_and]

theorem identityIn?_cons_slash (s : Text) :
    identityIn? .standard ('/' :: '/' :: s) = identityIn? .standard ('/' :: s) := by
  by_cases h : ∃ stem, HasControllerStem ('/' :: s) stem
  · obtain ⟨stem, hstem⟩ := h
    have hhead : stem.head? ≠ some 'c' := by
      rcases hstem with hs | hs
      · exact head?_ne_of_append (by decide) hs
      · exact head?_ne_of_append (by decide) (hs.trans (List.append_assoc _ _ _))
    rw [identityIn?_of_stem (hasControllerStem_cons_iff.2 hstem), identityIn?_of_stem hstem]
    exact after?_cons_slash hhead isIdentity
  · rw [identityIn?_of_not_stem fun stem hstem => h ⟨stem, hstem⟩]
    refine identityIn?_of_not_stem fun stem hstem => ?_
    cases stem with
    | nil => rcases hstem with hs | hs <;> cases hs
    | cons c stem =>
      obtain rfl : '/' = c := by
        rcases hstem with hs | hs
        · exact (List.cons.inj hs).1
        · exact (List.cons.inj hs).1
      exact h ⟨stem, hasControllerStem_cons_iff.1 hstem⟩

theorem readings_replicate (k : Nat) (s : Text) :
    targetIn? .standard (List.replicate k '/' ++ '/' :: s) = targetIn? .standard ('/' :: s) ∧
      identityIn? .standard (List.replicate k '/' ++ '/' :: s) =
        identityIn? .standard ('/' :: s) := by
  induction k with
  | zero => exact ⟨rfl, rfl⟩
  | succ k ih =>
    rw [List.replicate_succ, List.cons_append, ← replicate_slash]
    exact ⟨(targetIn?_cons_slash _).trans (replicate_slash k s ▸ ih.1),
      (identityIn?_cons_slash _).trans (replicate_slash k s ▸ ih.2)⟩

/-- What is read off a path is what the parting with the shortest start says, a path that has no
parting is refused, and where the workspace lies makes no difference. -/
theorem extraction_grammar (path root : Text) :
    let s := workspaceRelative path root
    (∀ t, SeenFrom root path t ↔ t = s) ∧
    (∀ identity action, viewTarget? .standard path root = some (identity, action) ↔
      ∃ before, ReadsView .standard s before identity action ∧ ∀ before' identity' action',
        ReadsView .standard s before' identity' action' → before.length ≤ before'.length) ∧
    (viewTarget? .standard path root = none ↔
      ∀ before identity action, ¬ ReadsView .standard s before identity action) ∧
    (∀ identity, controllerIdentity? .standard path root = some identity ↔
      ∃ before, ReadsController .standard s before identity ∧ ∀ before' identity',
        ReadsController .standard s before' identity' → before.length ≤ before'.length) ∧
    (controllerIdentity? .standard path root = none ↔
      ∀ before identity, ¬ ReadsController .standard s before identity) ∧
    (∀ (doc : Document) (workspace : Path), doc.path = path → workspace.text = root →
      (classify .standard path = .view →
        (∀ before identity action, ¬ ReadsView .standard s before identity action) →
        Lookup.find .standard doc workspace = .error (.viewParse (forwardSlashes path))) ∧
      (classify .standard path = .controller →
        (∀ before identity, ¬ ReadsController .standard s before identity) →
        Lookup.find .standard doc workspace = .error (.controllerParse (forwardSlashes path)))) ∧
    ∀ other rest : Text,
      viewTarget? .standard (root ++ '/' :: rest) root =
        viewTarget? .standard (other ++ '/' :: rest) other ∧
      controllerIdentity? .standard (root ++ '/' :: rest) root =
        controllerIdentity? .standard (other ++ '/' :: rest) other := by
  intro s
  have hslash : '/' ∈ s := List.mem_cons_self
  refine ⟨fun _ => seenFrom_iff, fun _ _ => targetIn?_eq_some_iff hslash,
    targetIn?_eq_none_iff hslash, fun _ => identityIn?_eq_some_iff, identityIn?_eq_none_iff,
    ?_, ?_⟩
  · rintro doc workspace rfl rfl
    refine ⟨fun hkind hnot => ?_, fun hkind hnot => ?_⟩
    · have hnone : viewTarget? .standard doc.path workspace.text = none :=
        (targetIn?_eq_none_iff hslash).2 hnot
      rw [Lookup.find_eq_of_view hkind, viewTarget?_forwardSlashes, hnone]
    · have hnone : controllerIdentity? .standard doc.path workspace.text = none :=
        identityIn?_eq_none_iff.2 hnot
      rw [Lookup.find_eq_of_controller hkind, controllerIdentity?_forwardSlashes, hnone]
  · intro other rest
    obtain ⟨k, hroot⟩ := workspaceRelative_append root rest
    obtain ⟨l, hother⟩ := workspaceRelative_append other rest
    obtain ⟨htarget, hidentity⟩ := readings_replicate k (forwardSlashes rest)
    obtain ⟨htarget', hidentity'⟩ := readings_replicate l (forwardSlashes rest)
    rw [viewTarget?, viewTarget?, controllerIdentity?, controllerIdentity?, hroot, hother]
    exact ⟨htarget.trans htarget'.symm, hidentity.trans hidentity'.symm⟩

/-- A view outside of every directory of views, and a controller outside of every directory of
controllers. -/
theorem extraction_grammar_refuses :
    let view : Document := ⟨"/ws/app/show.html.erb", "", 0⟩
    let controller : Document := ⟨"/ws/controllers/_controller.rb", "def index", 9⟩
    let root := Path.ofText "/ws"
    classify .standard view.path = .view ∧
      (∀ before identity action,
        ¬ ReadsView .standard (workspaceRelative view.path root.text) before identity action) ∧
      Lookup.find .standard view root = .error (.viewParse "/ws/app/show.html.erb") ∧
    classify .standard controller.path = .controller ∧
      (∀ before identity,
        ¬ ReadsController .standard (workspaceRelative controller.path root.text) before identity) ∧
      Lookup.find .standard controller root =
        .error (.controllerParse "/ws/controllers/_controller.rb") := by
  intro view controller root
  obtain ⟨-, -, hview, -, -, hrefused, -⟩ := extraction_grammar view.path root.text
  obtain ⟨-, -, -, -, hcontroller, hrefused', -⟩ := extraction_grammar controller.path root.text
  have hkind : classify .standard view.path = .view := by decide +kernel
  have hkind' : classify .standard controller.path = .controller := by decide +kernel
  have hnot := hview.1 (by decide +kernel)
  have hnot' := hcontroller.1 (by decide +kernel)
  exact ⟨hkind, hnot, (hrefused view root rfl rfl).1 hkind hnot, hkind', hnot',
    (hrefused' controller root rfl rfl).2 hkind' hnot'⟩

/-- The workspace may lie below a directory of the same name; the first one below it counts. -/
example : viewTarget? .standard "/views/a/views/b/views/c/x.html.erb" "/views/a" =
    some (("b/views/c" : Text), ("x" : Text)) := by
  decide +kernel

end Counterpart
