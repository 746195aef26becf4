import CatalogGraph.Cache.Database

/-!
# File trees

The files and folders that the program sees, seen from the folder in which it runs. A place is the
list of the names that lead to it; places outside start with a slash or with two points.

A folder is there if it was made or if something is in it. A path leads to a place only if every
name on the way is a folder.
-/

namespace CatalogGraph.Files

/-- What is in a file. -/
inductive File where
  | text (content : String)
  /-- Bytes that are no text. -/
  | binary
  | database (db : Cache.Database)
  /-- A program that can be started. -/
  | program

/-- The names that lead to a file or folder. -/
abbrev Place := List String

/-- Files and folders. -/
structure Tree where
  files : List (Place × File)
  folders : List Place

/-- What is at a place. -/
inductive Found where
  | missing
  | folder
  | file (f : File)

/-! ## Faults -/

/-- Why a folder cannot be made. -/
inductive FolderFault where
  /-- There is a file of its name. -/
  | taken
  /-- There is a file on the way to it. -/
  | blocked
deriving DecidableEq, Repr

/-- The text of a fault. -/
def FolderFault.message : FolderFault → String
  | .taken => "File exists (os error 17)"
  | .blocked => "Not a directory (os error 20)"

/-- Why a database cannot be opened. -/
inductive OpenFault where
  /-- The folder of its file cannot be made. -/
  | folder (fault : FolderFault)
  /-- The path is no path of a file. -/
  | unopenable (path : String)
  /-- The file holds something else. -/
  | foreign
deriving DecidableEq, Repr

/-- The text of a fault. -/
def OpenFault.message : OpenFault → String
  | .folder fault => "IO error: " ++ fault.message
  | .unopenable path => "SQLite error: unable to open database file: " ++ path
  | .foreign => "SQLite error: file is not a database"

/-- An open database, and the place of its file if it has one. -/
structure OpenDatabase where
  place : Option Place
  db : Cache.Database

namespace Tree

/-- A tree without files. -/
def empty : Tree := ⟨[], []⟩

/-- The file at a place. -/
def file? (t : Tree) (place : Place) : Option File :=
  (t.files.find? fun entry => entry.1 == place).map Prod.snd

/-- Whether there is a folder at a place. -/
def isFolder (t : Tree) (place : Place) : Bool :=
  place == [] || place == ["/"] || t.folders.contains place ||
    t.files.any (fun entry => place.isPrefixOf entry.1 && place != entry.1) ||
    t.folders.any fun folder => place.isPrefixOf folder

/-- The tree with a file at a place. -/
def write (t : Tree) (place : Place) (file : File) : Tree :=
  ⟨(place, file) :: t.files.filter fun entry => entry.1 != place, t.folders⟩

/-- The tree with a folder at a place. -/
def makeFolder (t : Tree) (place : Place) : Tree := ⟨t.files, place :: t.folders⟩

/-! ## Paths -/

/-- The place that the parts of a path lead to, each from a folder. -/
def walk? (t : Tree) : Place → List String → Option Place
  | place, [] => some place
  | place, part :: rest =>
    if !t.isFolder place then none
    else if part = "" ∨ part = "." then walk? t place rest
    else if part = ".." ∧ place ≠ [] ∧ place.getLast? ≠ some ".." then
      walk? t place.dropLast rest
    else walk? t (place ++ [part]) rest

/-- The place that a path leads to. The empty path leads nowhere. -/
def place? (t : Tree) (path : String) : Option Place :=
  if path = "" then none
  else
    match path.splitOn "/" with
    | "" :: rest => t.walk? ["/"] rest
    | all => t.walk? [] all

/-- What is at the end of a path. -/
def find (t : Tree) (path : String) : Found :=
  match t.place? path with
  | none => .missing
  | some place =>
    match t.file? place with
    | some f => .file f
    | none => if t.isFolder place then .folder else .missing

/-- Whether there is something at the end of a path. -/
def exists? (t : Tree) (path : String) : Bool :=
  match t.find path with
  | .missing => false
  | _ => true

/-- A path followed from another one: an absolute path stays as it is. -/
def join (base path : String) : String :=
  if path.toList.head? = some '/' then path
  else if base.toList.getLast? = some '/' then base ++ path
  else base ++ "/" ++ path

/-! ## Folders -/

/-- The names of a path, whether there are files and folders of these names or not. -/
def placeNamed (path : String) : Place :=
  let step (place : Place) (part : String) : Place :=
    if part = "" ∨ part = "." then place
    else if part = ".." ∧ place ≠ [] ∧ place.getLast? ≠ some ".." then place.dropLast
    else place ++ [part]
  match path.splitOn "/" with
  | "" :: rest => rest.foldl step ["/"]
  | all => all.foldl step []

/-- The tree with all folders on the way to a place and the one at it. -/
def makeFolders (t : Tree) (place : Place) : Except FolderFault Tree :=
  if (t.file? place).isSome then .error .taken
  else if t.files.any fun entry => entry.1.isPrefixOf place then .error .blocked
  else .ok (t.makeFolder place)

/-! ## Databases -/

/-- The paths of databases without a file, which are gone when they are closed. -/
def fleetingPaths : List String := ["", ":memory:"]

/-- The database in a file; an empty file is a database without entries. -/
def databaseOf? : Option File → Option Cache.Database
  | none => some .blank
  | some (.text "") => some .blank
  | some (.database db) => some db
  | some _ => none

/-- Opens the database at the end of a path; its file and folder are made where they are missing. -/
def openDatabase (t : Tree) (path : String) : Except OpenFault (OpenDatabase × Tree) :=
  if fleetingPaths.contains path then .ok (⟨none, Cache.Database.blank.opened⟩, t)
  else
    let place := placeNamed path
    match t.makeFolders place.dropLast with
    | .error fault => .error (.folder fault)
    | .ok t =>
      if t.isFolder place || path.toList.getLast? == some '/' then .error (.unopenable path)
      else
        match databaseOf? (t.file? place) with
        | none => .error .foreign
        | some db => .ok (⟨some place, db.opened⟩, t.write place (.database db.opened))

/-- The tree after an open database has been written to. -/
def keep (t : Tree) (opened : OpenDatabase) : Tree :=
  match opened.place with
  | some place => t.write place (.database opened.db)
  | none => t

end Tree

end CatalogGraph.Files
