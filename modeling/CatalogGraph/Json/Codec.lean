import CatalogGraph.Json.Decode

/-!
# Codecs

A codec writes typed values as JSON values and reads them back. Values that are kept are normal:
every object in them is a dictionary in key order.
-/

namespace CatalogGraph.Json

mutual

/-- The value with the members of every object in key order. -/
def normal : Json → Json
  | .array items => .array (normalItems items)
  | .object members => .object (Dictionary.ofList (normalMembers members))
  | .null => .null
  | .bool b => .bool b
  | .int n => .int n
  | .float x => .float x
  | .string s => .string s

/-- The normal forms of the items. -/
def normalItems : List Json → List Json
  | [] => []
  | j :: rest => normal j :: normalItems rest

/-- The members with the normal forms of their values. -/
def normalMembers : List (String × Json) → List (String × Json)
  | [] => []
  | (key, j) :: rest => (key, normal j) :: normalMembers rest

end

/-- Writes values of a type and reads them back. -/
structure Codec (α : Type) where
  encode : α → Json
  decode : Decoder α

namespace Codec

/-- Values as they are. -/
def any : Codec Json := ⟨id, Decoder.any⟩

/-- Texts. -/
def string : Codec String := ⟨Json.string, Decoder.string⟩

/-- Lists of values. -/
def list {α : Type} (inner : Codec α) : Codec (List α) :=
  ⟨fun items => .array (items.map inner.encode), Decoder.list inner.decode⟩

end Codec

end CatalogGraph.Json
