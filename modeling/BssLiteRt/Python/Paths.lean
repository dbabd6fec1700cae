import BssLiteRt.Library.FileCalls
import BssLiteRt.Python.PurePosixPath

/-!
Owns the paths of `pathlib` on a file system: the path of a name, and the place that a
path resolves to. A path is the list of its components from the root.
-/

namespace BssLiteRt.Python

open BssLiteRt.Library

/-- `root / name` -/
def joinName (root : List String) (name : String) : List String :=
  let path := PurePosixPath.parse name
  let components := path.tail.map String.ofList
  if path.root = [] then root ++ components else components

/-- `str(path)` -/
def pathText (path : List String) : String :=
  "/" ++ String.intercalate "/" path

/-- `path.resolve()` of Python 3.12, which the workflow sets up: the real path, unless it
still leads round in links. -/
def resolve (system : FileSystem) (path : List String) : Py Path :=
  match system.realPath path with
  | .error .tooDeep => raise .recursionError "maximum recursion depth exceeded"
  | .error .embeddedNull => raise .valueError "lstat: embedded null character in path"
  | .ok found => do
      raiseIf (found.any FileSystem.hasNul) .valueError "stat: embedded null character in path"
      raiseIf (system.walk FileSystem.linkLimit [] found = .error .tooManyLinks) .runtimeError
        ("Symlink loop from '" ++ pathText found ++ "'")
      return found

theorem resolve_of_realPath {system : FileSystem} {path : List String} {found : Path}
    (real : system.realPath path = .ok found)
    (arrives : system.walk FileSystem.linkLimit [] found = .ok found) :
    resolve system path = .ok found := by
  obtain ⟨_, _, walked⟩ := FileSystem.walk_walks arrives
  rw [resolve, real]
  dsimp only
  rw [walked.noNul, arrives]
  rfl

/-- Where the system walks, a path resolves to what it walks to. -/
theorem resolve_of_walk {system : FileSystem} {path : List String} {found : Path}
    (arrives : system.walk FileSystem.linkLimit [] path = .ok found) :
    resolve system path = .ok found :=
  resolve_of_realPath (FileSystem.realPath_of_walk arrives) (FileSystem.walk_again arrives _)

end BssLiteRt.Python
