import Counterpart.Conventions
import Counterpart.Path

/-! Where counterparts may lie. The workspace root is searched before the sub-applications named by
the first segment of a namespaced identity, and one root is searched entirely before the next. -/

namespace Counterpart

/-- The first segment of an identity that has more than one. -/
def namespace? (identity : Text) : Option Text :=
  let segment := identity.takeWhile (· != '/')
  if '/' ∈ identity ∧ segment ≠ [] then some segment else none

def searchRoots (conv : Conventions) (workspace : Path) (identity : Text) : List Path :=
  match namespace? identity with
  | some segment => workspace :: conv.multiRootDirs.map (workspace / · / segment)
  | none => [workspace]

def viewCandidates (conv : Conventions) (roots : List Path) (identity action : Text) : List Path :=
  roots.flatMap fun root => conv.viewExtensions.map fun extension =>
    root / conv.appDir / conv.viewsDir / identity / (action ++ extension)

def controllerCandidates (conv : Conventions) (roots : List Path) (identity : Text) : List Path :=
  roots.map fun root =>
    root / conv.appDir / conv.controllersDir / (identity ++ conv.controllerFileSuffix)

end Counterpart
