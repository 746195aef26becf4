import CatalogGraph.Hash.Sha256
import CatalogGraph.Json.Printer

/-!
# Namespaces of connections

Entries of one engine connection are kept apart from those of another by a namespace: the first
sixteen digits of the hash of the driver and the connection string, written as a JSON array.
-/

namespace CatalogGraph

/-- The hash of the compact text of a value. -/
def Json.hash (j : Json) : String := Sha256.ofText j.compact

namespace Cache

/-- The value that stands for a connection. -/
def connectionJson (driver connectionString : String) : Json :=
  Json.strings [driver, connectionString]

/-- How many digits of the hash make a namespace. -/
def namespaceWidth : Nat := 16

/-- The namespace of a connection. -/
def connectionNamespace (driver connectionString : String) : String :=
  String.ofList ((connectionJson driver connectionString).hash.toList.take namespaceWidth)

end Cache

end CatalogGraph
