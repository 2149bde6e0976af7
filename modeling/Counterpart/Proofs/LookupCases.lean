import Counterpart.Proofs.PathGrammar

/-! What a lookup answers. The path alone settles whether a document is a controller, a view or
neither, each kind has its own errors in a fixed order, and what is left is answered with the same
number of candidates for every root. -/

namespace Counterpart

open Conventions

/-! ### Kinds of paths -/

def IsControllerPath (path : Text) : Prop := ∃ stem, path = stem ++ standard.controllerFileSuffix

/-- The path ends in a content type and a template engine. -/
def EndsInTemplate (path : Text) : Prop :=
  ∃ stem, ∃ type ∈ standard.contentTypes, ∃ engine ∈ standard.templateEngines,
    path = stem ++ ("." ++ type ++ "." ++ engine)

/-- The path ends in a content type, on the same line as a directory of views before it. -/
def EndsInType (path : Text) : Prop :=
  ∃ before between, ∃ type ∈ standard.contentTypes,
    path = before ++ (standard.viewsMarker ++ (between ++ ("." ++ type))) ∧ '\n' ∉ between

/-- The path is that of a view, less a newline that it may end in. -/
def IsViewPath (path : Text) : Prop :=
  ∃ s, (path = s ∨ path = s ++ ['\n']) ∧ (EndsInTemplate s ∨ EndsInType s)

theorem any_endings_iff {path : Text} {p : Text → Bool} :
    (Text.endings path).any p ↔ ∃ s, (path = s ∨ path = s ++ ['\n']) ∧ p s := by
  simp only [List.any_eq_true, mem_endings, eq_comm (a := path)]

theorem hasTemplateExtension_iff {path : Text} : hasTemplateExtension .standard path ↔
    ∃ s, (path = s ∨ path = s ++ ['\n']) ∧ EndsInTemplate s := by
  have hchoices : choices standard.contentTypes = standard.contentTypes ∧
      choices standard.templateEngines = standard.templateEngines := ⟨rfl, rfl⟩
  simp only [hasTemplateExtension, any_endings_iff, hchoices]
  refine exists_congr fun s => and_congr_right fun _ => ?_
  simp only [EndsInTemplate, List.any_eq_true, List.isSuffixOf_iff_suffix]
  constructor
  · rintro ⟨type, htype, engine, hengine, stem, hs⟩
    exact ⟨stem, type, htype, engine, hengine, hs.symm⟩
  · rintro ⟨stem, type, htype, engine, hengine, hs⟩
    exact ⟨type, htype, engine, hengine, stem, hs.symm⟩

theorem isSome_after?_iff {marker s : Text} {acceptable : Text → Bool} :
    (Text.after? marker acceptable s).isSome ↔
      ∃ before found, FollowsAt marker acceptable s before found := by
  rw [← Option.ne_none_iff_isSome, ne_eq, after?_eq_none_iff]
  simp only [not_forall, not_not]

theorem isBareView_iff {path : Text} : isBareView .standard path ↔
    ∃ s, (path = s ∨ path = s ++ ['\n']) ∧ EndsInType s := by
  have hchoices : choices standard.contentTypes = standard.contentTypes := rfl
  simp only [isBareView, any_endings_iff, hchoices]
  refine exists_congr fun s => and_congr_right fun _ => ?_
  simp only [EndsInType, List.any_eq_true, Option.any_eq_true, isSome_after?_iff, FollowsAt,
    List.isSuffixOf?_eq_some_iff_append_eq]
  constructor
  · rintro ⟨type, htype, stem, rfl, before, between, rfl, hline⟩
    refine ⟨before, between, type, htype, ?_, by simpa [isOneLine] using hline⟩
    simp only [List.append_assoc]
  · rintro ⟨before, between, type, htype, rfl, hline⟩
    refine ⟨type, htype, before ++ (standard.viewsMarker ++ between), ?_, before, between, rfl,
      by simpa [isOneLine] using hline⟩
    simp only [List.append_assoc]

theorem isSuffixOf_controllerFileSuffix_iff {path : Text} :
    standard.controllerFileSuffix.isSuffixOf path ↔ IsControllerPath path := by
  rw [List.isSuffixOf_iff_suffix, IsControllerPath]
  exact exists_congr fun stem => eq_comm

theorem isViewPath_iff {path : Text} :
    (hasTemplateExtension .standard path || isBareView .standard path) ↔ IsViewPath path := by
  rw [Bool.or_eq_true, hasTemplateExtension_iff, isBareView_iff, IsViewPath, ← exists_or]
  simp only [← and_or_left]

section Kind

variable {path : Text}

theorem classify_of_controllerPath (h : IsControllerPath (forwardSlashes path)) :
    classify .standard path = .controller :=
  if_pos (isSuffixOf_controllerFileSuffix_iff.2 h)

theorem classify_of_viewPath (hnot : ¬ IsControllerPath (forwardSlashes path))
    (h : IsViewPath (forwardSlashes path)) : classify .standard path = .view := by
  rw [classify, if_neg (mt isSuffixOf_controllerFileSuffix_iff.1 hnot),
    if_pos (isViewPath_iff.2 h)]

theorem classify_of_neither (hnot : ¬ IsControllerPath (forwardSlashes path))
    (h : ¬ IsViewPath (forwardSlashes path)) : classify .standard path = .unsupported := by
  rw [classify, if_neg (mt isSuffixOf_controllerFileSuffix_iff.1 hnot),
    if_neg (mt isViewPath_iff.1 h)]

theorem classify_eq_controller_iff :
    classify .standard path = .controller ↔ IsControllerPath (forwardSlashes path) := by
  refine ⟨fun h => ?_, classify_of_controllerPath⟩
  by_contra hnot
  by_cases hview : IsViewPath (forwardSlashes path)
  · simp [classify_of_viewPath hnot hview] at h
  · simp [classify_of_neither hnot hview] at h

theorem classify_eq_view_iff : classify .standard path = .view ↔
    ¬ IsControllerPath (forwardSlashes path) ∧ IsViewPath (forwardSlashes path) := by
  refine ⟨fun h => ?_, fun ⟨hnot, hview⟩ => classify_of_viewPath hnot hview⟩
  have hnot : ¬ IsControllerPath (forwardSlashes path) := by
    intro hcontroller
    simp [classify_of_controllerPath hcontroller] at h
  refine ⟨hnot, ?_⟩
  by_contra hview
  simp [classify_of_neither hnot hview] at h

end Kind

/-! ### Numbers of candidates -/

/-- The identity has a slash behind a first segment that is not empty. -/
def IsNamespaced (identity : Text) : Prop :=
  ∃ first rest, identity = first ++ '/' :: rest ∧ '/' ∉ first ∧ first ≠ []

theorem isSome_namespace?_iff {identity : Text} :
    (namespace? identity).isSome ↔ IsNamespaced identity := by
  have hfirst {first : Text} (rest : Text) (h : '/' ∉ first) :
      (first ++ '/' :: rest).takeWhile (· != '/') = first := by
    have hall : ∀ c ∈ first, (c != '/') = true := fun c hc => by
      simpa using fun he : c = '/' => h (he ▸ hc)
    rw [List.takeWhile_append_of_pos hall, List.takeWhile_cons_of_neg (by simp), List.append_nil]
  rw [namespace?, Option.isSome_ite]
  constructor
  · rintro ⟨hmem, hne⟩
    obtain ⟨first, rest, rfl, hslash⟩ := List.eq_append_cons_of_mem hmem
    rw [hfirst rest hslash] at hne
    exact ⟨first, rest, rfl, hslash, hne⟩
  · rintro ⟨first, rest, rfl, hslash, hne⟩
    rw [hfirst rest hslash]
    exact ⟨by simp, hne⟩

theorem length_searchRoots (root : Path) (identity : Text) :
    (IsNamespaced identity → (searchRoots .standard root identity).length = 3) ∧
      (¬ IsNamespaced identity → (searchRoots .standard root identity).length = 1) := by
  have hdirs : standard.multiRootDirs.length = 2 := rfl
  rw [← isSome_namespace?_iff, searchRoots]
  cases namespace? identity <;> simp [hdirs]

theorem length_viewCandidates (roots : List Path) (identity action : Text) :
    (viewCandidates .standard roots identity action).length = 9 * roots.length := by
  have hextensions : standard.viewExtensions.length = 9 := rfl
  simp only [viewCandidates, List.length_flatMap, List.length_map, hextensions, List.map_const',
    List.sum_replicate_nat, Nat.mul_comm]

theorem length_controllerCandidates (roots : List Path) (identity : Text) :
    (controllerCandidates .standard roots identity).length = roots.length :=
  List.length_map _

/-! ### Answers -/

section Answer

variable {conv : Conventions} {doc : Document}

theorem find_controller_cases (h : classify conv doc.path = .controller) (root : Path) :
    let path := forwardSlashes doc.path
    let found := Lookup.find conv doc root
    (found = .error (.controllerParse path) ↔ controllerIdentity? conv path root.text = none) ∧
    (found = .error .cursorNotInAction ↔ controllerIdentity? conv path root.text ≠ none ∧
      enclosingMethod? conv doc.text doc.cursor = none) ∧
    ∀ identity action, controllerIdentity? conv path root.text = some identity →
      enclosingMethod? conv doc.text doc.cursor = some action →
      found = .ok (.ofAction conv root identity action) := by
  dsimp only
  rw [Lookup.find_eq_of_controller h]
  -- The path is read before the cursor is looked at.
  cases controllerIdentity? conv (forwardSlashes doc.path) root.text with
  | none => simp [NavigationError.controllerParse]
  | some identity =>
    cases enclosingMethod? conv doc.text doc.cursor with
    | none => simp [NavigationError.controllerParse]
    | some action => simp

theorem find_view_cases (h : classify conv doc.path = .view) (root : Path) :
    let path := forwardSlashes doc.path
    let found := Lookup.find conv doc root
    (found = .error (.viewParse path) ↔ viewTarget? conv path root.text = none) ∧
    (∀ identity action, viewTarget? conv path root.text = some (identity, action) →
      found = .ok (.ofTarget conv root identity action)) ∧
    ∀ text cursor, Lookup.find conv ⟨doc.path, text, cursor⟩ root = found := by
  dsimp only
  have hsame (text : Text) (cursor : Int) :
      Lookup.find conv ⟨doc.path, text, cursor⟩ root = Lookup.find conv doc root := by
    have htext : classify conv (⟨doc.path, text, cursor⟩ : Document).path = .view := h
    rw [Lookup.find_eq_of_view htext, Lookup.find_eq_of_view h]
  refine ⟨?_, fun identity action htarget => ?_, hsame⟩
  · rw [Lookup.find_eq_of_view h]
    cases viewTarget? conv (forwardSlashes doc.path) root.text <;> simp
  · rw [Lookup.find_eq_of_view h, htarget]

theorem find_eq_unsupported_iff (root : Path) :
    Lookup.find conv doc root = .error .unsupportedFile ↔
      classify conv doc.path = .unsupported := by
  refine ⟨fun h => ?_, fun h => Lookup.find_eq_of_unsupported h root⟩
  cases hkind : classify conv doc.path with
  | unsupported => rfl
  | controller =>
    rw [Lookup.find_eq_of_controller hkind] at h
    split at h
    · cases h
    · split at h <;> cases h
  | view =>
    rw [Lookup.find_eq_of_view hkind] at h
    split at h <;> cases h

end Answer

/-- Every document is answered in exactly one way. A controller is answered with its views, a view
with its controllers, and the first thing that is missing is the error. -/
theorem lookup_partition (doc : Document) (root : Path) :
    let path := forwardSlashes doc.path
    let found := Lookup.find .standard doc root
    (classify .standard doc.path = .controller ↔ IsControllerPath path) ∧
    (classify .standard doc.path = .view ↔ ¬ IsControllerPath path ∧ IsViewPath path) ∧
    (found = .error .unsupportedFile ↔ ¬ IsControllerPath path ∧ ¬ IsViewPath path) ∧
    (IsControllerPath path →
      (found = .error (.controllerParse path) ↔
        controllerIdentity? .standard path root.text = none) ∧
      (found = .error .cursorNotInAction ↔
        controllerIdentity? .standard path root.text ≠ none ∧
          enclosingMethod? .standard doc.text doc.cursor = none) ∧
      ∀ identity action, controllerIdentity? .standard path root.text = some identity →
        enclosingMethod? .standard doc.text doc.cursor = some action →
        found = .ok ⟨.controller, identity, action,
          viewCandidates .standard (searchRoots .standard root identity) identity action⟩) ∧
    (¬ IsControllerPath path → IsViewPath path →
      (found = .error (.viewParse path) ↔ viewTarget? .standard path root.text = none) ∧
      (∀ identity action, viewTarget? .standard path root.text = some (identity, action) →
        found = .ok ⟨.view, identity, action,
          controllerCandidates .standard (searchRoots .standard root identity) identity⟩) ∧
      ∀ text cursor, Lookup.find .standard ⟨doc.path, text, cursor⟩ root = found) ∧
    (∀ roots identity action,
      (viewCandidates .standard roots identity action).length = 9 * roots.length ∧
      (controllerCandidates .standard roots identity).length = roots.length) ∧
    ∀ identity, (IsNamespaced identity → (searchRoots .standard root identity).length = 3) ∧
      (¬ IsNamespaced identity → (searchRoots .standard root identity).length = 1) := by
  intro path found
  refine ⟨classify_eq_controller_iff, classify_eq_view_iff, ?_, fun h => ?_, fun hnot h => ?_,
    fun roots identity action => ⟨length_viewCandidates roots identity action,
      length_controllerCandidates roots identity⟩, length_searchRoots root⟩
  · rw [find_eq_unsupported_iff root]
    constructor
    · intro hkind
      refine ⟨fun h => ?_, fun h => ?_⟩
      · simp [classify_of_controllerPath h] at hkind
      · by_cases hcontroller : IsControllerPath path
        · simp [classify_of_controllerPath hcontroller] at hkind
        · simp [classify_of_viewPath hcontroller h] at hkind
    · rintro ⟨hnot, hview⟩
      exact classify_of_neither hnot hview
  · exact find_controller_cases (classify_of_controllerPath h) root
  · exact find_view_cases (classify_of_viewPath hnot h) root

/-- A controller with a method at the cursor, and a view that is known by its directory alone and
whose path ends in a newline. -/
theorem lookup_partition_sample :
    let controller : Document := ⟨"/ws/controllers/cms/users_controller.rb", "def show\n  x", 10⟩
    let view : Document := ⟨"/ws\\views/users/index.json\n", "", 0⟩
    let root := Path.ofText "/ws"
    let roots : List Path := [.ofText "/ws", .ofText "/ws/domains/cms", .ofText "/ws/apps/cms"]
    IsControllerPath controller.path ∧
      Lookup.find .standard controller root = .ok ⟨.controller, "cms/users", "show",
        viewCandidates .standard roots "cms/users" "show"⟩ ∧
      IsNamespaced "cms/users" ∧ roots.length = 3 ∧
    ¬ IsControllerPath (forwardSlashes view.path) ∧ IsViewPath (forwardSlashes view.path) ∧
      Lookup.find .standard view root = .ok ⟨.view, "users", "index",
        [.ofText "/ws/app/controllers/users_controller.rb"]⟩ ∧
      Lookup.find .standard ⟨view.path, "end", 2⟩ root = Lookup.find .standard view root := by
  intro controller view root roots
  obtain ⟨hkind, -, -, hcontroller, -, -, hroots⟩ := lookup_partition controller root
  obtain ⟨-, hkind', -, -, hview, -⟩ := lookup_partition view root
  have hpath := hkind.1 (by decide +kernel)
  obtain ⟨hnot, hpath'⟩ := hkind'.1 (by decide +kernel)
  obtain ⟨-, -, hshown⟩ := hcontroller hpath
  obtain ⟨-, hread, hsame⟩ := hview hnot hpath'
  have hfound := hshown "cms/users" "show" (by decide +kernel) (by decide +kernel)
  have hfound' := hread "users" "index" (by decide +kernel)
  have hnamespaced : IsNamespaced "cms/users" := ⟨"cms", "users", by decide, by decide, by decide⟩
  have hsearch : searchRoots .standard root "cms/users" = roots := by decide +kernel
  rw [hsearch] at hfound
  refine ⟨hpath, hfound, hnamespaced, hsearch ▸ (hroots "cms/users").1 hnamespaced, hnot, hpath',
    hfound'.trans ?_, hsame "end" 2⟩
  decide +kernel

end Counterpart
