import Mathlib.Data.List.Basic
import Counterpart.Candidate
import Counterpart.Proofs.Segments

/-! Reading a candidate gives back what it was made from. The exception is a sub-application named
like the directory that the search for the identity starts at. -/

namespace Counterpart

open Conventions

theorem isIdentity_joinWith {names : List Text} (hne : names ≠ [])
    (h : ∀ name ∈ names, IsName name) : isIdentity (Text.joinWith "/" names) := by
  obtain ⟨c, rest, -, he⟩ := head_ne_slash hne fun name hname => (h name hname).isRead
  have hnewline : '\n' ∉ slashed names := fun hmem => by
    rcases mem_slashed hmem with hc | ⟨name, hname, hc⟩
    · exact absurd hc (by decide)
    · exact (h name hname).newline hc
  rw [slashed_eq_joinWith hne] at hnewline
  simp only [isIdentity, isOneLine, Bool.and_eq_true]
  refine ⟨he ▸ rfl, ?_⟩
  simpa using fun hmem => hnewline (List.mem_cons_of_mem _ hmem)

theorem after?_first_directory (before : List Text) {dir : Text} (hd : '/' ∉ dir)
    {names : List Text}
    (hb : ∀ name ∈ before, name ≠ dir ∧ '/' ∉ name) (hne : names ≠ [])
    (h : ∀ name ∈ names, IsName name) :
    Text.after? ('/' :: (dir ++ ['/'])) isIdentity (slashed (before ++ dir :: names)) =
      some (Text.joinWith "/" names) := by
  induction before with
  | nil =>
    rw [List.nil_append, after?_slashed_cons hd hd, if_pos ⟨rfl, hne, isIdentity_joinWith hne h⟩]
  | cons name before ih =>
    obtain ⟨hne', hslash⟩ := hb name List.mem_cons_self
    rw [List.cons_append, after?_slashed_cons hd hslash, if_neg fun hall => hne' hall.1]
    exact ih fun other hother => hb other (List.mem_cons_of_mem _ hother)

theorem Path.exists_text_append (anchor : Anchor) (segments : List Text) (name suffix : Text) :
    ∃ s, Path.text ⟨anchor, segments ++ [name ++ suffix]⟩ = s ++ suffix := by
  by_cases h : segments = []
  · subst h
    refine ⟨anchor.text ++ name, ?_⟩
    rw [List.nil_append, Path.text_of_ne_nil anchor (by simp), Text.joinWith,
      List.intercalate_singleton, List.append_assoc]
  · refine ⟨Path.text ⟨anchor, segments⟩ ++ '/' :: name, ?_⟩
    rw [Path.text_append anchor h, slashed_cons, List.append_assoc]
    simp [slashed]

theorem extension_cases : ∀ extension ∈ standard.viewExtensions,
    '/' ∉ extension ∧ '\\' ∉ extension ∧ '\n' ∉ extension ∧ extension.head? = some '.' ∧
      ¬ extension <:+ standard.controllerFileSuffix ∧
      ¬ standard.controllerFileSuffix <:+ extension ∧
      ∃ type ∈ standard.contentTypes, ∃ engine ∈ standard.templateEngines,
        extension = "." ++ type ++ "." ++ engine := by
  decide

theorem classify_view {extension : Text} (h : extension ∈ standard.viewExtensions)
    (s : Text) : classify .standard (s ++ extension) = .view := by
  obtain ⟨-, hb, -, -, hnot, hnot', type, htype, engine, hengine, he⟩ := extension_cases extension h
  have hcontroller : standard.controllerFileSuffix.isSuffixOf
      (forwardSlashes s ++ extension) = false := by
    refine Bool.eq_false_iff.2 fun hsuffix => ?_
    rcases List.suffix_or_suffix_of_suffix (List.isSuffixOf_iff_suffix.1 hsuffix)
      (List.suffix_append _ extension) with h | h
    · exact hnot' h
    · exact hnot h
  have hview : hasTemplateExtension .standard (forwardSlashes s ++ extension) = true := by
    refine List.any_eq_true.2 ⟨forwardSlashes s ++ extension, ?_, List.any_eq_true.2 ⟨type, htype,
      List.any_eq_true.2 ⟨engine, hengine, ?_⟩⟩⟩
    · rw [Text.endings]
      split <;> simp
    · exact List.isSuffixOf_iff_suffix.2 (he ▸ List.suffix_append _ _)
  rw [classify, forwardSlashes_append, forwardSlashes_eq_self hb, hcontroller, hview]
  rfl

theorem classify_controller (s : Text) :
    classify .standard (s ++ standard.controllerFileSuffix) = .controller := by
  have hb : '\\' ∉ standard.controllerFileSuffix := by decide
  rw [classify, forwardSlashes_append, forwardSlashes_eq_self hb,
    if_pos (List.isSuffixOf_iff_suffix.2 (List.suffix_append _ _))]

theorem viewsMarker_eq : standard.viewsMarker = '/' :: (standard.viewsDir ++ ['/']) := rfl

theorem controllersMarker_eq :
    standard.controllersMarker = '/' :: (standard.controllersDir ++ ['/']) := rfl

/-- What a view below a workspace says is read off the names of its directories and its file. -/
theorem viewTarget?_below (root : Path) {dirs : List Text} {file : Text}
    (hd : ∀ name ∈ dirs, IsName name) (hf : IsName file) :
    viewTarget? .standard (Path.text ⟨root.anchor, root.segments ++ (dirs ++ [file])⟩) root.text =
      (actionOf? file).bind fun action =>
        (Text.after? standard.viewsMarker isIdentity (slashed dirs)).map (·, action) := by
  have hall : ∀ name ∈ dirs ++ [file], IsName name := by
    simpa [or_imp, forall_and] using ⟨hd, hf⟩
  obtain ⟨k, hk⟩ := workspaceRelative_below root (by simp) hall
  have hfile : List.replicate k '/' ++ slashed (dirs ++ [file]) =
      (List.replicate k '/' ++ slashed dirs) ++ '/' :: file := by
    simp [slashed]
  have hafter : Text.after? standard.viewsMarker isIdentity
      (List.replicate k '/' ++ slashed dirs) =
        Text.after? standard.viewsMarker isIdentity (slashed dirs) := by
    rw [viewsMarker_eq]
    exact after?_replicate (by decide) (by decide) isIdentity k dirs
  rw [viewTarget?, hk, hfile, targetIn?, splitFile_append hf.slash]
  cases ha : actionOf? file with
  | none => simp only [ha, Option.bind_none]
  | some action => simp only [ha, hafter, Option.bind_some]

theorem getLast?_controllerFile (s : Text) :
    (s ++ standard.controllerFileSuffix).getLast? = some 'b' := by
  rw [List.getLast?_append]
  rfl

theorem identityIn?_append (s : Text) :
    identityIn? .standard (s ++ standard.controllerFileSuffix) =
      Text.after? standard.controllersMarker isIdentity s := by
  have hendings : Text.endings (s ++ standard.controllerFileSuffix) =
      [s ++ standard.controllerFileSuffix] := by
    rw [Text.endings, getLast?_controllerFile, if_neg (by decide)]
  have hsuffix : standard.controllerFileSuffix.isSuffixOf?
      (s ++ standard.controllerFileSuffix) = some s :=
    List.isSuffixOf?_eq_some_iff_append_eq.2 rfl
  rw [identityIn?, hendings, List.findSome?_singleton, hsuffix, Option.bind_some]

theorem controllerIdentity?_below (root : Path) {dirs : List Text} {stem : Text}
    (hd : ∀ name ∈ dirs, IsName name) (hs : IsName stem) :
    controllerIdentity? .standard (Path.text ⟨root.anchor, root.segments ++
        (dirs ++ [stem ++ standard.controllerFileSuffix])⟩) root.text =
      Text.after? standard.controllersMarker isIdentity (slashed (dirs ++ [stem])) := by
  have hfile := hs.controllerFile
  have hall : ∀ name ∈ dirs ++ [stem ++ standard.controllerFileSuffix],
      IsName name := by
    simpa [or_imp, forall_and] using ⟨hd, hfile⟩
  obtain ⟨k, hk⟩ := workspaceRelative_below root (by simp) hall
  have hstem : List.replicate k '/' ++
      slashed (dirs ++ [stem ++ standard.controllerFileSuffix]) =
        (List.replicate k '/' ++ slashed (dirs ++ [stem])) ++
          standard.controllerFileSuffix := by
    simp [slashed]
  rw [controllerIdentity?, hk, hstem, identityIn?_append, controllersMarker_eq]
  exact after?_replicate (by decide) (by decide) isIdentity k _

theorem namespace?_joinWith {name : Text} {names : List Text}
    (h : ∀ other ∈ name :: names, IsName other) : namespace? (Text.joinWith "/" (name :: names)) =
      if names = [] then none else some name := by
  have hname := h name List.mem_cons_self
  have hall : ∀ c ∈ name, (c != '/') = true := fun c hc => by
    simpa using fun he : c = '/' => hname.slash (he ▸ hc)
  have hjoin : Text.joinWith "/" (name :: names) = name ++ slashed names := by
    rw [← List.singleton_append, joinWith_append (by simp), Text.joinWith,
      List.intercalate_singleton]
  by_cases hne : names = []
  · subst hne
    rw [if_pos rfl, hjoin, show slashed [] = [] from rfl, List.append_nil, namespace?]
    exact if_neg fun hall => hname.slash hall.1
  · rw [if_neg hne, hjoin, slashed_eq_joinWith hne, namespace?,
      List.takeWhile_append_of_pos hall, List.takeWhile_cons_of_neg (by simp), List.append_nil]
    exact if_pos ⟨by simp, hname.ne_nil⟩

theorem mem_searchRoots {workspace root : Path} {names : List Text}
    (h : ∀ name ∈ names, IsName name)
    (hroot : root ∈ searchRoots .standard workspace (Text.joinWith "/" names)) :
    root = workspace ∨ ∃ dir ∈ standard.multiRootDirs, ∃ name rest,
      names = name :: rest ∧ rest ≠ [] ∧
        root = ⟨workspace.anchor, workspace.segments ++ [dir, name]⟩ := by
  cases names with
  | nil =>
    exact .inl (List.mem_singleton.1 hroot)
  | cons name names =>
    rw [searchRoots, namespace?_joinWith h] at hroot
    by_cases hne : names = []
    · rw [if_pos hne] at hroot
      exact .inl (List.mem_singleton.1 hroot)
    · rw [if_neg hne] at hroot
      rcases List.mem_cons.1 hroot with rfl | hroot
      · exact .inl rfl
      · obtain ⟨dir, hdir, rfl⟩ := List.mem_map.1 hroot
        refine .inr ⟨dir, hdir, name, names, rfl, hne, ?_⟩
        have hname := h name List.mem_cons_self
        rw [Path.hDiv_name _ (isName_multiRootDir hdir), Path.hDiv_name _ hname]
        simp

theorem mem_viewCandidates {roots : List Path} {names : List Text} {action : Text} {p : Path}
    (hne : names ≠ []) (h : ∀ name ∈ names, IsName name) (ha : IsName action) :
    p ∈ viewCandidates .standard roots (Text.joinWith "/" names) action ↔
      ∃ root ∈ roots, ∃ extension ∈ standard.viewExtensions,
        p = ⟨root.anchor, root.segments ++
          ([standard.appDir, standard.viewsDir] ++ names ++ [action ++ extension])⟩ := by
  have hpath (root : Path) {extension : Text}
      (he : extension ∈ standard.viewExtensions) :
      root / standard.appDir / standard.viewsDir / Text.joinWith "/" names /
          (action ++ extension) =
        ⟨root.anchor, root.segments ++
          ([standard.appDir, standard.viewsDir] ++ names ++ [action ++ extension])⟩ := by
    obtain ⟨hs, hb, hn, -⟩ := extension_cases extension he
    rw [Path.hDiv_name _ isName_appDir,
      Path.hDiv_name _ isName_viewsDir,
      Path.hDiv_joinWith _ hne h, Path.hDiv_name _ (ha.append hs hb hn)]
    simp
  rw [viewCandidates, List.mem_flatMap]
  constructor
  · rintro ⟨root, hroot, hp⟩
    obtain ⟨extension, he, rfl⟩ := List.mem_map.1 hp
    exact ⟨root, hroot, extension, he, hpath root he⟩
  · rintro ⟨root, hroot, extension, he, rfl⟩
    exact ⟨root, hroot, List.mem_map.2 ⟨extension, he, hpath root he⟩⟩

theorem mem_controllerCandidates {roots : List Path} {dirs : List Text} {stem : Text} {p : Path}
    (h : ∀ name ∈ dirs ++ [stem], IsName name) :
    p ∈ controllerCandidates .standard roots (Text.joinWith "/" (dirs ++ [stem])) ↔
      ∃ root ∈ roots, p = ⟨root.anchor, root.segments ++
        ([standard.appDir, standard.controllersDir] ++ dirs ++
          [stem ++ standard.controllerFileSuffix])⟩ := by
  have hjoin : Text.joinWith "/" (dirs ++ [stem]) ++ standard.controllerFileSuffix =
      Text.joinWith "/" (dirs ++ [stem ++ standard.controllerFileSuffix]) := by
    by_cases hd : dirs = []
    · subst hd
      simp only [Text.joinWith, List.nil_append, List.intercalate_singleton]
    · rw [joinWith_append hd, joinWith_append hd, List.append_assoc]
      simp [slashed]
  have hall : ∀ name ∈ dirs ++ [stem ++ standard.controllerFileSuffix],
      IsName name := fun name hname => by
    rcases List.mem_append.1 hname with hname | hname
    · exact h name (List.mem_append_left _ hname)
    · rw [List.mem_singleton.1 hname]
      exact (h stem (by simp)).controllerFile
  have hpath (root : Path) : root / standard.appDir /
      standard.controllersDir /
        (Text.joinWith "/" (dirs ++ [stem]) ++ standard.controllerFileSuffix) =
      ⟨root.anchor, root.segments ++ ([standard.appDir, standard.controllersDir] ++ dirs ++
        [stem ++ standard.controllerFileSuffix])⟩ := by
    rw [hjoin, Path.hDiv_name _ isName_appDir,
      Path.hDiv_name _ isName_controllersDir,
      Path.hDiv_joinWith _ (by simp) hall]
    simp
  simp only [controllerCandidates, List.mem_map, hpath, eq_comm]

theorem joinWith_inj {names others : List Text} (h : ∀ name ∈ names, IsName name)
    (ho : ∀ name ∈ others, IsName name) :
    Text.joinWith "/" names = Text.joinWith "/" others ↔ names = others := by
  refine ⟨fun he => ?_, congrArg _⟩
  rw [← segmentsOf_joinWith fun name hname => (h name hname).isRead, he,
    segmentsOf_joinWith fun name hname => (ho name hname).isRead]

/-- Below every root of an identity the search for its directory gives the identity, unless it
starts in a sub-application of the same name. -/
theorem after?_below_root {workspace root : Path} {dir : Text} {names : List Text}
    (hdir : IsName dir) (happ : standard.appDir ≠ dir) (hmulti : dir ∉ standard.multiRootDirs)
    (hne : names ≠ []) (h : ∀ name ∈ names, IsName name)
    (hroot : root ∈ searchRoots .standard workspace (Text.joinWith "/" names)) :
    ∃ extra, root = ⟨workspace.anchor, workspace.segments ++ extra⟩ ∧
      (∀ name ∈ extra, IsName name) ∧
      (Text.after? ('/' :: (dir ++ ['/'])) isIdentity
        (slashed (extra ++ ([standard.appDir, dir] ++ names))) =
          some (Text.joinWith "/" names) ↔ root = workspace ∨ names.head? ≠ some dir) := by
  have hname := isName_appDir
  rcases mem_searchRoots h hroot with rfl | ⟨multi, hmem, name, rest, rfl, hrest, rfl⟩
  · refine ⟨[], by simp, by simp, iff_of_true ?_ (.inl rfl)⟩
    exact after?_first_directory [standard.appDir] hdir.slash
      (by simpa using And.intro happ hname.slash) hne h
  · have hn := h name List.mem_cons_self
    have hother : (⟨workspace.anchor, workspace.segments ++ [multi, name]⟩ : Path) ≠ workspace :=
      fun he => by simpa using congrArg (fun p : Path => p.segments.length) he
    have hfirst : multi ≠ dir := fun he => hmulti (he ▸ hmem)
    refine ⟨[multi, name], rfl, by simpa using ⟨isName_multiRootDir hmem, hn⟩, ?_⟩
    by_cases he : name = dir
    · subst he
      refine iff_of_false (fun hafter => ?_) (by simp [hother])
      have hlong : ∀ other ∈ standard.appDir :: name :: name :: rest, IsName other := by
        simpa using ⟨hname, hn, fun other hother => h other (List.mem_cons_of_mem _ hother)⟩
      have hsearch := after?_first_directory [multi] hn.slash
        (by simpa using ⟨hfirst, (isName_multiRootDir hmem).slash⟩) (List.cons_ne_nil _ _) hlong
      have hjoin := (joinWith_inj hlong h).1 (Option.some.inj (hsearch.symm.trans hafter))
      have hlength := congrArg List.length hjoin
      simp only [List.length_cons] at hlength
      omega
    · refine iff_of_true ?_ (.inr (by simpa using he))
      refine after?_first_directory [multi, name, standard.appDir] hdir.slash ?_ hne h
      simpa using ⟨⟨hfirst, (isName_multiRootDir hmem).slash⟩, ⟨he, hn.slash⟩, happ, hname.slash⟩

section

variable {workspace root p : Path} {names : List Text}

theorem view_read_back {action : Text} (hne : names ≠ []) (h : ∀ name ∈ names, IsName name)
    (ha : action ≠ []) (hw : action.all isWord)
    (hroot : root ∈ searchRoots .standard workspace (Text.joinWith "/" names))
    (hp : p ∈ viewCandidates .standard [root] (Text.joinWith "/" names) action) :
    classify .standard p.text = .view ∧
      (viewTarget? .standard p.text workspace.text = some (Text.joinWith "/" names, action) ↔
        root = workspace ∨ names.head? ≠ some standard.viewsDir) := by
  have haction := IsName.of_isWord ha hw
  obtain ⟨root', hmem, extension, he, rfl⟩ := (mem_viewCandidates hne h haction).1 hp
  obtain rfl : root = root' := (List.mem_singleton.1 hmem).symm
  obtain ⟨hs, hb, hn, hdot, -⟩ := extension_cases extension he
  constructor
  · rw [← List.append_assoc]
    obtain ⟨s, hs⟩ := Path.exists_text_append root.anchor
      (root.segments ++ ([standard.appDir, standard.viewsDir] ++ names)) action extension
    exact hs ▸ classify_view he s
  obtain ⟨rest, rfl⟩ : ∃ rest, extension = '.' :: rest := List.head?_eq_some_iff.1 hdot
  obtain ⟨extra, rfl, hextra, hread⟩ := after?_below_root isName_viewsDir
    (by decide) (by decide) hne h hroot
  have hdirs : ∀ name ∈ extra ++ ([standard.appDir, standard.viewsDir] ++ names), IsName name := by
    simpa [or_imp, forall_and] using ⟨hextra, isName_appDir, isName_viewsDir, h⟩
  have htarget := viewTarget?_below workspace hdirs (haction.append hs hb hn)
  rw [actionOf?_append ha hw, Option.bind_some, viewsMarker_eq] at htarget
  rw [← hread, List.append_assoc, ← List.append_assoc extra, htarget, Option.map_eq_some_iff]
  simp

theorem controller_read_back (hne : names ≠ []) (h : ∀ name ∈ names, IsName name)
    (hroot : root ∈ searchRoots .standard workspace (Text.joinWith "/" names))
    (hp : p ∈ controllerCandidates .standard [root] (Text.joinWith "/" names)) :
    classify .standard p.text = .controller ∧
      (controllerIdentity? .standard p.text workspace.text = some (Text.joinWith "/" names) ↔
        root = workspace ∨ names.head? ≠ some standard.controllersDir) := by
  obtain ⟨dirs, stem, rfl⟩ := List.eq_nil_or_concat' names |>.resolve_left hne
  obtain ⟨root', hmem, rfl⟩ := (mem_controllerCandidates h).1 hp
  obtain rfl : root = root' := (List.mem_singleton.1 hmem).symm
  constructor
  · rw [← List.append_assoc]
    obtain ⟨s, hs⟩ := Path.exists_text_append root.anchor
      (root.segments ++ ([standard.appDir, standard.controllersDir] ++ dirs)) stem
      standard.controllerFileSuffix
    exact hs ▸ classify_controller s
  obtain ⟨extra, rfl, hextra, hread⟩ := after?_below_root isName_controllersDir
    (by decide) (by decide) hne h hroot
  have hdirs : ∀ name ∈ extra ++ ([standard.appDir, standard.controllersDir] ++ dirs),
      IsName name := by
    simpa [or_imp, forall_and] using ⟨hextra, isName_appDir, isName_controllersDir,
      fun name hname => h name (List.mem_append_left _ hname)⟩
  have hidentity := controllerIdentity?_below workspace hdirs (h stem (by simp))
  rw [← hread, List.append_assoc, ← List.append_assoc extra, hidentity, controllersMarker_eq,
    List.append_assoc extra, List.append_assoc [standard.appDir, standard.controllersDir]]

end

/-- Every candidate is read as what it was made from, except below a sub-application that is named
like the directory of the candidates: there the search for the identity starts too early. -/
theorem candidates_read_back (workspace : Path) (names : List Text) (action : Text)
    (hne : names ≠ []) (h : ∀ name ∈ names, IsName name) (ha : action ≠ [])
    (hw : action.all isWord) :
    ∀ root ∈ searchRoots .standard workspace (Text.joinWith "/" names),
      (∀ p ∈ viewCandidates .standard [root] (Text.joinWith "/" names) action,
        classify .standard p.text = .view ∧
          (viewTarget? .standard p.text workspace.text = some (Text.joinWith "/" names, action) ↔
            root = workspace ∨ names.head? ≠ some standard.viewsDir)) ∧
      ∀ p ∈ controllerCandidates .standard [root] (Text.joinWith "/" names),
        classify .standard p.text = .controller ∧
          (controllerIdentity? .standard p.text workspace.text = some (Text.joinWith "/" names) ↔
            root = workspace ∨ names.head? ≠ some standard.controllersDir) :=
  fun _ hroot => ⟨fun _ hp => view_read_back hne h ha hw hroot hp,
    fun _ hp => controller_read_back hne h hroot hp⟩

theorem candidates_read_back_sample :
    let names : List Text := ["cms", "views", "orders"]
    viewTarget? .standard "/ws/domains/cms/app/views/cms/views/orders/index.js.erb" "/ws" =
        some (Text.joinWith "/" names, ("index" : Text)) := by
  intro names
  have hread := candidates_read_back ⟨.root, ["ws"]⟩ names "index" (by decide) (by decide)
    (by decide) (by decide) ⟨.root, ["ws", "domains", "cms"]⟩ (by decide +kernel)
  have hview := hread.1
    ⟨.root, ["ws", "domains", "cms", "app", "views", "cms", "views", "orders", "index.js.erb"]⟩
    (by decide +kernel)
  have htext : Path.text ⟨.root, ["ws", "domains", "cms", "app", "views", "cms", "views", "orders",
      "index.js.erb"]⟩ = "/ws/domains/cms/app/views/cms/views/orders/index.js.erb" := by
    decide +kernel
  rw [htext] at hview
  exact hview.2.2 (.inr (by decide))

/-- Below the sub-application `views` the search starts at the sub-application itself. -/
theorem view_misread_below_views :
    (∀ name ∈ (["views", "a"] : List Text), IsName name) ∧
      Text.joinWith "/" ["views", "a"] = ("views/a" : Text) ∧
      Path.ofText "/ws/domains/views/app/views/views/a/index.html.erb" ∈
        viewCandidates .standard (searchRoots .standard (Path.ofText "/ws") "views/a") "views/a"
          "index" ∧
      viewTarget? .standard "/ws/domains/views/app/views/views/a/index.html.erb" "/ws" =
        some (("app/views/views/a" : Text), ("index" : Text)) := by
  decide +kernel

end Counterpart
