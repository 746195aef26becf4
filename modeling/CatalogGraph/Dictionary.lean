/-!
# Dictionaries in key order

A dictionary is a list of keys with their values, in ascending order of the keys and without a
repeated key. The order of keys is the order of their code points. `insert` and `erase` keep the
order; `ofList` lets a later entry replace an earlier one with the same key.
-/

namespace CatalogGraph

/-- Values by key, in key order. -/
abbrev Dictionary (α : Type) := List (String × α)

namespace Dictionary

variable {α β : Type}

/-- The value under a key. -/
def find? (d : Dictionary α) (key : String) : Option α :=
  match d with
  | [] => none
  | (k, v) :: rest => if k = key then some v else find? rest key

/-- The dictionary with the value under the key, whatever the key held before. -/
def insert (d : Dictionary α) (key : String) (value : α) : Dictionary α :=
  match d with
  | [] => [(key, value)]
  | (k, v) :: rest =>
    if key = k then (key, value) :: rest
    else if key < k then (key, value) :: (k, v) :: rest
    else (k, v) :: insert rest key value

/-- The dictionary without the key. -/
def erase (d : Dictionary α) (key : String) : Dictionary α := d.filter fun entry => entry.1 ≠ key

/-- The keys, ascending. -/
def keys (d : Dictionary α) : List String := d.map Prod.fst

/-- The values in key order. -/
def values (d : Dictionary α) : List α := d.map Prod.snd

/-- The entries inserted one after the other. -/
def ofList (entries : List (String × α)) : Dictionary α :=
  entries.foldl (fun d entry => insert d entry.1 entry.2) []

/-- The value under a key changed by a function, which is given nothing where the key is new. -/
def alter (d : Dictionary α) (key : String) (f : Option α → α) : Dictionary α :=
  insert d key (f (find? d key))

end Dictionary

end CatalogGraph
