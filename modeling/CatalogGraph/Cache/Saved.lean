import CatalogGraph.Cache.Database
import CatalogGraph.Json.Codec

/-!
# Saved databases

A cache database is kept in a file as a JSON record of its version and its rows. An empty file is a
database in which nothing has been written.
-/

namespace CatalogGraph.Cache.Database

open Json

/-- The database as a JSON record. -/
def toJson (db : Database) : Json :=
  .object [("version", Json.orNull (db.version.map .string)),
    ("rows", .object (db.rows.map fun row => (row.1, .string row.2)))]

/-- A database as a record. -/
def recordType : RecordType Database where
  title := "struct Database"
  slots :=
    [.of "version" true (Decoder.optional Decoder.string) fun v db => ⟨db.rows, v⟩,
     .of "rows" true (Decoder.dictionary Decoder.string) fun v db => ⟨v, db.version⟩]
  blank := blank

/-- The text of the file of a database. -/
def toText (db : Database) : String := db.toJson.compact ++ "\n"

/-- The database in a file with a text. -/
def ofText? (s : String) : Option Database := if s = "" then some blank else recordType.ofText? s

end CatalogGraph.Cache.Database
