import CatalogGraph.Json.Decode
import CatalogGraph.Name

/-!
# What discovery exposes

Catalogs and schemas can be listed for inclusion and for exclusion, in the discovered spelling or
as the engine names them. Exclusion wins. Names can be rewritten to fit the schema grammar, and
names that do not fit it can be passed over.
-/

namespace CatalogGraph.Discovery

open Json

/-- Which catalogs and schemas are exposed, and how names are treated. -/
structure Settings where
  /-- Only these catalogs, where given. -/
  includeCatalogs : Option (List String)
  excludeCatalogs : List String
  /-- Only these schemas, where given. -/
  includeSchemas : Option (List String)
  excludeSchemas : List String
  /-- Rewrite names that do not fit the schema grammar. -/
  replaceInvalid : Bool
  /-- Pass over names that do not fit the schema grammar. -/
  ignoreInvalid : Bool
deriving DecidableEq, Repr

namespace Settings

/-- Everything is exposed under the names of the engine, as far as they fit the grammar. -/
def standard : Settings := ⟨none, [], none, [], false, true⟩

/-- Whether a list holds a name, in its own spelling or restored. -/
def lists (entries : List String) (name : String) : Bool :=
  entries.any fun entry => entry == name || entry == Name.restore name

/-- Whether a name is included and not excluded. -/
def allows (included : Option (List String)) (excluded : List String) (name : String) : Bool :=
  !lists excluded name && included.all fun entries => lists entries name

/-- Whether a catalog is exposed. -/
def allowsCatalog (s : Settings) (catalog : String) : Bool :=
  allows s.includeCatalogs s.excludeCatalogs catalog

/-- Whether a schema is exposed. -/
def allowsSchema (s : Settings) (schema : String) : Bool :=
  allows s.includeSchemas s.excludeSchemas schema

/-- The settings as a JSON record. -/
def toJson (s : Settings) : Json :=
  .object [("include_catalogs", Json.orNull (s.includeCatalogs.map Json.strings)),
    ("exclude_catalogs", Json.strings s.excludeCatalogs),
    ("include_schemas", Json.orNull (s.includeSchemas.map Json.strings)),
    ("exclude_schemas", Json.strings s.excludeSchemas),
    ("replace_invalid_characters", .bool s.replaceInvalid),
    ("ignore_invalid_names", .bool s.ignoreInvalid)]

/-- Settings as a JSON record; missing fields have their standard values. -/
def recordType : RecordType Settings where
  title := "struct DiscoverySettings"
  slots :=
    [.of "include_catalogs" false (Decoder.optional (Decoder.list Decoder.string)) fun v s =>
       { s with includeCatalogs := v },
     .of "exclude_catalogs" false (Decoder.list Decoder.string) fun v s =>
       { s with excludeCatalogs := v },
     .of "include_schemas" false (Decoder.optional (Decoder.list Decoder.string)) fun v s =>
       { s with includeSchemas := v },
     .of "exclude_schemas" false (Decoder.list Decoder.string) fun v s =>
       { s with excludeSchemas := v },
     .of "replace_invalid_characters" false Decoder.bool fun v s => { s with replaceInvalid := v },
     .of "ignore_invalid_names" false Decoder.bool fun v s => { s with ignoreInvalid := v }]
  blank := standard

end Settings

end CatalogGraph.Discovery
