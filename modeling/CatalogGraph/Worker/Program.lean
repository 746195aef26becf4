import CatalogGraph.Files.Tree
import CatalogGraph.Settings.Loading

/-!
# The program of the worker

The settings may name the program of the worker. Otherwise it is looked for in the folder of the
run and in the one for workers below it, and then wherever programs are looked for. A name without a
slash is looked for in the folders that a variable lists.
-/

namespace CatalogGraph.Worker

open Files

/-- The name of the program. -/
def programName : String := "catalogql-worker"

/-- The places where the program is looked for first. -/
def usualPaths : List String := ["./" ++ programName, "./worker/" ++ programName]

/-- The path by which the program is started. -/
def programPath (s : Settings.Worker) (t : Tree) (env : Environment) : Except Error String :=
  match s.path with
  | some path => (Settings.expand env path).mapError fun fault => .spawnFailed fault.message
  | none => .ok ((usualPaths.find? t.exists?).getD programName)

/-- The variable that lists the folders with programs. -/
def pathVariable : String := "PATH"

/-- The paths that a program may be found at. -/
def candidatePaths (path : String) (env : Environment) : List String :=
  if path.toList.contains '/' then [path]
  else if path = "" then []
  else
    (((Dictionary.find? env pathVariable).getD "").splitOn ":").map fun folder =>
      Tree.join folder path

/-- Whether there is a program at the end of a path. -/
def isProgram (t : Tree) (path : String) : Bool :=
  match t.find path with
  | .file .program => true
  | _ => false

/-- Whether the worker can be started. -/
def checkProgram (s : Settings.Worker) (t : Tree) (env : Environment) : Except Error Unit := do
  let path ← programPath s t env
  let paths := candidatePaths path env
  if paths.any (isProgram t) then return ()
  else if paths.any t.exists? then .error (.spawnFailed "Permission denied (os error 13)")
  else .error (.spawnFailed "No such file or directory (os error 2)")

end CatalogGraph.Worker
