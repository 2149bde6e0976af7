import Counterpart.Candidate
import Counterpart.Event
import Counterpart.Text.Number

/-! What to look for from a document: its kind, the identity and action it stands for, and the
candidates for its counterpart. -/

namespace Counterpart

/-- A document as an editor holds it. The cursor may have been put outside the text. -/
structure Document where
  path : Text
  text : Text
  cursor : Int
deriving DecidableEq

/-- Whether the cursor can be written: a number with more digits than a numeral may have cannot. No
text is so long that a place in it has such a number. -/
def Document.isSpelled (doc : Document) : Bool :=
  doc.cursor = clampOffset doc.text doc.cursor ||
    (Text.ofNat doc.cursor.natAbs).length ≤ Text.numeralLimit

/-- No cursor that far from an empty text can be written. -/
theorem Document.isSpelled_of_far (path : Text) {n : Nat}
    (h : Text.numeralLimit < (Text.ofNat n).length) :
    (Document.mk path [] n).isSpelled = false := by
  have hpos : n ≠ 0 := by
    rintro rfl
    exact absurd h (by decide)
  have hclamp : clampOffset [] n = 0 := by simp [clampOffset]
  rw [isSpelled, Bool.or_eq_false_iff, decide_eq_false_iff_not, decide_eq_false_iff_not, Nat.not_le]
  dsimp only
  rw [hclamp]
  exact ⟨by omega, h⟩

structure Lookup where
  kind : FileKind
  identity : Text
  action : Text
  candidates : List Path
deriving DecidableEq

namespace Lookup

/-- The views of an action, under every root of its identity. -/
def ofAction (conv : Conventions) (root : Path) (identity action : Text) : Lookup where
  kind := .controller
  identity := identity
  action := action
  candidates := viewCandidates conv (searchRoots conv root identity) identity action

/-- The controllers of a view, under every root of its identity. -/
def ofTarget (conv : Conventions) (root : Path) (identity action : Text) : Lookup where
  kind := .view
  identity := identity
  action := action
  candidates := controllerCandidates conv (searchRoots conv root identity) identity

def find (conv : Conventions) (doc : Document) (root : Path) : Except NavigationError Lookup :=
  let path := forwardSlashes doc.path
  match classify conv path with
  | .controller =>
    match controllerIdentity? conv path root.text with
    | none => .error (.controllerParse path)
    | some identity =>
      match enclosingMethod? conv doc.text doc.cursor with
      | none => .error .cursorNotInAction
      | some action => .ok (ofAction conv root identity action)
  | .view =>
    match viewTarget? conv path root.text with
    | none => .error (.viewParse path)
    | some (identity, action) => .ok (ofTarget conv root identity action)
  | .unsupported => .error .unsupportedFile

/-- The candidates of a lookup in the journal. -/
def events (conv : Conventions) (root : Path) (found : Lookup) : List Event :=
  [.rootsResolved found.identity (searchRoots conv root found.identity),
    match found.kind with
    | .controller => .candidatesBuilt .view found.candidates.length
        (found.identity ++ "#" ++ found.action)
    | _ => .candidatesBuilt .controller found.candidates.length found.identity]

/-- All that looking up leaves in the journal, whether it succeeds or not. -/
def journal (conv : Conventions) (doc : Document) (root : Path) : List Event :=
  let path := forwardSlashes doc.path
  let kind := classify conv path
  let cursor := if kind = .controller ∧ (controllerIdentity? conv path root.text).isSome then
      [.ofEnclosure (clampOffset doc.text doc.cursor) (enclosure conv doc.text doc.cursor)]
    else []
  let found := match find conv doc root with
    | .ok found => found.events conv root
    | .error _ => []
  .classified path kind :: cursor ++ found

theorem find_eq_of_controller {conv : Conventions} {doc : Document}
    (h : classify conv doc.path = .controller) (root : Path) :
    find conv doc root =
      match controllerIdentity? conv (forwardSlashes doc.path) root.text with
      | none => .error (.controllerParse (forwardSlashes doc.path))
      | some identity =>
        match enclosingMethod? conv doc.text doc.cursor with
        | none => .error .cursorNotInAction
        | some action => .ok (ofAction conv root identity action) := by
  rw [← classify_forwardSlashes] at h
  simp only [find, h]

theorem find_eq_of_view {conv : Conventions} {doc : Document} (h : classify conv doc.path = .view)
    (root : Path) :
    find conv doc root =
      match viewTarget? conv (forwardSlashes doc.path) root.text with
      | none => .error (.viewParse (forwardSlashes doc.path))
      | some (identity, action) => .ok (ofTarget conv root identity action) := by
  rw [← classify_forwardSlashes] at h
  simp only [find, h]

theorem find_eq_of_unsupported {conv : Conventions} {doc : Document}
    (h : classify conv doc.path = .unsupported) (root : Path) :
    find conv doc root = .error .unsupportedFile := by
  rw [← classify_forwardSlashes] at h
  simp only [find, h]

/-- A lookup reads an identity off the path, and an action off the text or off the path too. -/
theorem find_cases {conv : Conventions} {doc : Document} {root : Path} {found : Lookup}
    (h : find conv doc root = .ok found) :
    (∃ identity action, classify conv (forwardSlashes doc.path) = .controller ∧
      controllerIdentity? conv (forwardSlashes doc.path) root.text = some identity ∧
      enclosingMethod? conv doc.text doc.cursor = some action ∧
      found = ofAction conv root identity action) ∨
    ∃ identity action, classify conv (forwardSlashes doc.path) = .view ∧
      viewTarget? conv (forwardSlashes doc.path) root.text = some (identity, action) ∧
      found = ofTarget conv root identity action := by
  rw [find] at h
  split at h
  · next hkind =>
    split at h
    · cases h
    next identity hidentity =>
    split at h
    · cases h
    next action haction =>
    exact .inl ⟨identity, action, hkind, hidentity, haction, (Except.ok.inj h).symm⟩
  · next hkind =>
    split at h
    · cases h
    next identity action htarget =>
    exact .inr ⟨identity, action, hkind, htarget, (Except.ok.inj h).symm⟩
  · cases h

theorem find_error {conv : Conventions} {doc : Document} {root : Path}
    {e : NavigationError} (h : find conv doc root = .error e) :
    ∃ kind, e.kind = some kind ∧ kind ≠ .notFound := by
  rw [find] at h
  split at h
  · split at h
    · obtain rfl := Except.error.inj h
      exact ⟨.pattern, rfl, by decide⟩
    split at h
    · obtain rfl := Except.error.inj h
      exact ⟨.heuristicMiss, rfl, by decide⟩
    · cases h
  · split at h
    · obtain rfl := Except.error.inj h
      exact ⟨.pattern, rfl, by decide⟩
    · cases h
  · obtain rfl := Except.error.inj h
    exact ⟨.classification, rfl, by decide⟩

end Lookup
end Counterpart
