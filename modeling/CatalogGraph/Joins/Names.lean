import CatalogGraph.Joins.Plural
import CatalogGraph.Text.Blank

/-!
# Names and types of join columns

Whether columns may be joined is told from their names and types alone. Schemas of the engine
itself and columns of types that make no keys are left out. Two columns match by name when their
names are equal without regard to case and underscores.
-/

namespace CatalogGraph.Joins

open Text

/-! ## What takes part -/

/-- Schemas that the engine keeps for itself. -/
def internalSchemas : List String := ["information_schema", "pg_catalog", "system", "sys"]

/-- Whether a schema is one of the engine itself. -/
def isInternalSchema (schema : String) : Bool :=
  internalSchemas.any fun s => sameIgnoringAsciiCase s schema

/-- Types without parameters that make no keys. -/
def unjoinableTypes : List String :=
  ["date", "time", "time with time zone", "timestamp", "timestamp with time zone", "boolean",
   "json", "jsonb", "interval", "blob", "array", "map", "row", "struct", "decimal", "float",
   "real", "varbinary"]

/-- What follows the last closing parenthesis; nothing where there is none. -/
def afterLastClosing (cs : List Char) : List Char :=
  if cs.contains ')' then (cs.reverse.takeWhile (· ≠ ')')).reverse else []

/-- A type text without its parameters, which reach from the first opening parenthesis to the last
closing one. -/
def withoutParameters (cs : List Char) : List Char :=
  match cs.dropWhile (· ≠ '(') with
  | [] => cs
  | _ :: parameters => trimEndChars (cs.takeWhile (· ≠ '(')) ++ afterLastClosing parameters

/-- Whether a column of a type can take part in a join. -/
def isJoinableType (nativeType : String) : Bool :=
  let small := (lower (trim nativeType)).toList
  if "varchar".toList.isPrefixOf small || "interval".toList.isPrefixOf small then false
  else !unjoinableTypes.contains (String.ofList (trimChars (withoutParameters small)))

/-! ## Names of columns -/

/-- A column name in small letters without underscores. -/
def normalizeColumn (name : String) : String :=
  String.ofList ((name.toList.filter (· ≠ '_')).flatMap lowerChar)

/-- The name before a final `_id` in any case; it is not empty. -/
def idStem? (column : String) : Option String :=
  match column.toList.reverse with
  | d :: i :: u :: c :: rest =>
    if d.toLower = 'd' ∧ i.toLower = 'i' ∧ u = '_' then some (String.ofList (c :: rest).reverse)
    else none
  | _ => none

/-- Why two columns are joined. -/
inductive Basis where
  /-- The names are equal without regard to case. -/
  | exactName
  /-- The names are equal without regard to case and underscores. -/
  | normalizedName
  /-- One column is named after the table of the other. -/
  | foreignKeySuffix
deriving DecidableEq, Repr

/-- Whether and why two columns match by name. -/
def joinability (left right : String) : Option Basis :=
  if sameIgnoringAsciiCase left right then some .exactName
  else if normalizeColumn left = normalizeColumn right then some .normalizedName
  else
    match idStem? left, idStem? right with
    | some l, some r => if sameIgnoringAsciiCase l r then some .normalizedName else none
    | _, _ => none

/-- Whether a table is named after a stem: the stem, the stem with an `s`, or its plural. -/
def tableMatches (table stem : String) : Bool :=
  let table := lower table
  let stem := lower stem
  table == stem || table == stem ++ "s" || table == pluralize stem

end CatalogGraph.Joins
