import Counterpart.Path

/-! Where a document lies with respect to workspace roots. Backslashes and slashes separate alike,
and a root contains what lies below it at a separator. -/

namespace Counterpart

def forwardSlashes (s : Text) : Text := s.map fun c => if c = '\\' then '/' else c

/-- The path below a root, or none when the root does not contain it. -/
def relativeTo? (path root : Text) : Option Text :=
  (Text.trimEnd (· == '/') (forwardSlashes root) ++ ['/']).isPrefixOf? (forwardSlashes path)

def contains (root path : Text) : Bool := (relativeTo? path root).isSome

/-- The first of the longest. -/
def longest? : List Text → Option Text
  | [] => none
  | s :: rest =>
    match longest? rest with
    | some t => if s.length < t.length then some t else some s
    | none => some s

/-- The containing root that lies deepest. -/
def innermostRoot? (path : Text) (roots : List Text) : Option Text :=
  longest? (roots.filter (contains · path))

/-- A path as seen from its workspace, with one leading slash; a path outside the workspace keeps
all its segments. -/
def workspaceRelative (path root : Text) : Text :=
  '/' :: (relativeTo? path root).getD (Text.trimStart (· == '/') (forwardSlashes path))

theorem forwardSlashes_forwardSlashes (s : Text) :
    forwardSlashes (forwardSlashes s) = forwardSlashes s := by
  simp only [forwardSlashes, List.map_map]
  refine List.map_congr_left fun c _ => ?_
  by_cases h : c = '\\' <;> simp [h]

theorem workspaceRelative_forwardSlashes (path root : Text) :
    workspaceRelative (forwardSlashes path) root = workspaceRelative path root := by
  rw [workspaceRelative, workspaceRelative, relativeTo?, relativeTo?,
    forwardSlashes_forwardSlashes]

theorem longest?_mem {roots : List Text} {s : Text} (h : longest? roots = some s) :
    s ∈ roots := by
  induction roots generalizing s with
  | nil => simp [longest?] at h
  | cons r rest ih =>
    simp only [longest?] at h
    split at h
    · next t ht =>
      split at h
      · obtain rfl := Option.some.inj h
        exact List.mem_cons_of_mem _ (ih ht)
      · exact Option.some.inj h ▸ List.mem_cons_self
    · exact Option.some.inj h ▸ List.mem_cons_self

end Counterpart
