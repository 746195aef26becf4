import CatalogGraph.Cache.Saved
import CatalogGraph.CommandLine.Reach

/-!
# The program

Looks up the files and variables that a run looks at, makes the run, keeps the cache that it leaves
and prints what it reports. A run is given no programs, so one that needs the engine finds no
worker.
-/

namespace CatalogGraph.CommandLine

open Files

/-- The variables of some names that have values. -/
def lookUpVariables (names : List String) : IO Environment := do
  let found ← names.filterMapM fun name => do
    return (← IO.getEnv name).map fun value => (name, value)
  return Dictionary.ofList found

/-- The tree with what is at the end of a path; `read` tells what is in a file with a text. -/
def lookUp (read : String → File) (t : Tree) (path : String) : IO Tree := do
  let place := Tree.placeNamed path
  match ← (IO.FS.realPath path).toBaseIO with
  | .error _ => return t
  | .ok real =>
    if ← real.isDir then return t.makeFolder place
    match ← (IO.FS.readBinFile real).toBaseIO with
    | .error _ => return t.write place .binary
    | .ok bytes => return t.write place (((String.fromUTF8? bytes).map read).getD .binary)

/-- What is in the file of a cache with a text. -/
def databaseFile (content : String) : File :=
  ((Cache.Database.ofText? content).map File.database).getD .binary

/-- The world of a run: first with the files that may hold the settings, then with what they lead
to. -/
def lookUpWorld (i : Invocation) : IO World := do
  let env ← lookUpVariables usualVariables
  let tree ← (i.textPaths env).foldlM (lookUp File.text) Tree.empty
  let world : World := ⟨tree, env, [], none, []⟩
  let env ← lookUpVariables (usualVariables ++ i.variableNames world)
  let world := { world with env := env }
  let tree ← (i.databasePath? world).toList.foldlM (lookUp databaseFile) tree
  return { world with tree := tree }

/-- Keeps a database in the file at the end of a path. -/
def saveDatabase (path : String) (db : Cache.Database) : IO Unit := do
  let folder := String.intercalate "/" (path.splitOn "/").dropLast
  if folder ≠ "" then IO.FS.createDirAll folder
  IO.FS.writeFile path db.toText

/-- Keeps the cache that a run leaves. -/
def saveWorld (i : Invocation) (world : World) : IO Unit := do
  match i.databasePath? world with
  | none => return ()
  | some path =>
    match world.tree.file? (Tree.placeNamed path) with
    | some (.database db) => saveDatabase path db
    | _ => return ()

/-- Whether an event is shown. -/
def isShown (verbose : Bool) (e : Event) : Bool := verbose || e.level == .warn

/-- Makes a run and prints what it reports. -/
def report (args : List String) : IO UInt32 := do
  let (r, events) ← match demand args with
    | .run i => do
      let (r, world) := i.run (← lookUpWorld i)
      saveWorld i world
      pure (r, world.events.filter (isShown i.verbose))
    | _ => pure ((run args ⟨Tree.empty, [], [], none, []⟩).1, [])
  events.forM fun e => IO.eprintln e.line
  IO.print r.out
  IO.eprint r.err
  return UInt32.ofNat r.code

end CatalogGraph.CommandLine

def main (args : List String) : IO UInt32 := CatalogGraph.CommandLine.report args
