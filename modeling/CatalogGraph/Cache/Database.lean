import CatalogGraph.Dictionary
import CatalogGraph.Text.Digits

/-!
# Cache databases

A cache database holds texts under keys, and the version of its layout. One database serves several
engine connections: each has a namespace, which is written before its keys with a colon. The empty
namespace has the plain keys.

Keys are compared as they are, but they are searched by their beginning as character strings that
end at the first NUL. A database of another version is emptied when it is opened.
-/

namespace CatalogGraph.Cache

open Text

/-- A table of texts by key, and the version text if there is one. -/
structure Database where
  rows : Dictionary String
  version : Option String
deriving DecidableEq, Repr

namespace Database

/-! ## Versions -/

/-- The version of the layout that is used. -/
def currentVersion : Nat := 1

/-- The number that a version text gives, within thirty-two bits. -/
def versionNumber? (s : String) : Option Int := integerIn? (.signed 32) s

/-- A database in which nothing has been written. -/
def blank : Database := ⟨[], none⟩

/-- The database after it has been opened: marked with the current version, and emptied if it was
marked with another one. -/
def opened (db : Database) : Database :=
  match db.version with
  | none => ⟨db.rows, some (decimal currentVersion)⟩
  | some s =>
    if (versionNumber? s).getD 0 = currentVersion then db else ⟨[], some (decimal currentVersion)⟩

/-! ## Keys -/

/-- The key of an entry within a namespace. -/
def fullKey (space key : String) : String := if space = "" then key else space ++ ":" ++ key

/-- The characters before the first NUL. -/
def beforeNul (s : String) : List Char := s.toList.takeWhile (· ≠ '\x00')

/-- Whether a search for keys that start with `start` finds the key. -/
def finds (start key : String) : Bool :=
  (beforeNul key).take (beforeNul start).length == start.toList

/-! ## Operations -/

/-- The text of an entry. -/
def find? (db : Database) (space key : String) : Option String :=
  Dictionary.find? db.rows (fullKey space key)

/-- The database with a text written under a key. -/
def write (db : Database) (space key value : String) : Database :=
  ⟨Dictionary.insert db.rows (fullKey space key) value, db.version⟩

/-- The database without an entry. -/
def erase (db : Database) (space key : String) : Database :=
  ⟨Dictionary.erase db.rows (fullKey space key), db.version⟩

/-- The rows of a namespace whose keys start with a text. -/
def search (db : Database) (space start : String) : List (String × String) :=
  db.rows.filter fun row => finds (fullKey space start) row.1

/-- The database without the entries of a namespace whose keys start with a text. -/
def clear (db : Database) (space start : String) : Database :=
  ⟨db.rows.filter fun row => !finds (fullKey space start) row.1, db.version⟩

/-- The keys of a namespace that start with a text, without the namespace, ascending. -/
def keys (db : Database) (space start : String) : List String :=
  (db.search space start).map fun row =>
    String.ofList (row.1.toList.drop (fullKey space "").length)

/-- The database with a row written under its full key. -/
def writeRow (db : Database) (key value : String) : Database :=
  ⟨Dictionary.insert db.rows key value, db.version⟩

/-- The database with another version text. -/
def withVersion (db : Database) (version : Option String) : Database := ⟨db.rows, version⟩

end Database

end CatalogGraph.Cache
