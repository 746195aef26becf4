import CatalogGraph.Discovery.Column
import CatalogGraph.Proofs.CacheKeys
import CatalogGraph.Proofs.JsonText

/-!
# Codecs that keep their values

A codec keeps the values of its type if it reads each of them back from the normal form of what it
writes. Such a value is found again where it was saved, in memory and in a database.
-/

namespace CatalogGraph

namespace Json

/-- What the codec writes is tidy and is read back as it was. -/
def Codec.Keeps {α : Type} (codec : Codec α) (depth : Nat) : Prop :=
  ∀ a, Tidy depth (codec.encode a).normal ∧ codec.decode (codec.encode a).normal = .ok a

theorem keeps_string (depth : Nat) : Codec.string.Keeps depth := by
  intro s
  cases depth <;> exact ⟨trivial, rfl⟩

theorem normalItems_eq_map (items : List Json) : normalItems items = items.map normal := by
  induction items with
  | nil => rfl
  | cons j items ih => rw [normalItems, ih, List.map_cons]

theorem Codec.Keeps.list {α : Type} {codec : Codec α} {depth : Nat} (h : codec.Keeps depth) :
    codec.list.Keeps (depth + 1) := by
  intro values
  have hnormal : (codec.list.encode values).normal =
      .array (values.map fun a => (codec.encode a).normal) := by
    simp [Codec.list, normal, normalItems_eq_map]
  rw [hnormal]
  constructor
  · intro j hj
    obtain ⟨a, -, rfl⟩ := List.mem_map.1 hj
    exact (h a).1
  · change (values.map fun a => (codec.encode a).normal).mapM codec.decode = .ok values
    induction values with
    | nil => rfl
    | cons a values ih =>
      have hrest := ih (by simp [Codec.list, normal, normalItems_eq_map])
      rw [List.map_cons, List.mapM_cons, (h a).2, hrest]
      rfl

end Json

open Json

/-- The members of the record of a column in key order. -/
theorem normal_toJson (c : Column) :
    c.toJson.normal = .object [("catalog", .string c.catalog), ("column", .string c.name),
      ("native_type", .string c.nativeType), ("schema", .string c.schema),
      ("table", .string c.table)] := by
  simp only [Column.toJson, normal, normalMembers, Dictionary.ofList, List.foldl, Dictionary.insert,
    String.reduceEq, String.reduceLT, reduceIte]

theorem keeps_column (depth : Nat) : Column.codec.Keeps (depth + 1) := by
  intro c
  change Tidy (depth + 1) c.toJson.normal ∧ Column.recordType.decode c.toJson.normal = .ok c
  rw [normal_toJson]
  refine ⟨⟨?_, ?_⟩, rfl⟩
  · change ["catalog", "column", "native_type", "schema", "table"].Pairwise (· < ·)
    decide
  · intro m hm
    obtain ⟨s, hs⟩ : ∃ s, m.2 = .string s := by
      simp only [List.mem_cons, List.not_mem_nil, or_false] at hm
      rcases hm with rfl | rfl | rfl | rfl | rfl <;> exact ⟨_, rfl⟩
    rw [hs]
    exact (keeps_string depth s).1

namespace Cache.Store

/-- What was saved is found again at its place. -/
theorem load_save {α : Type} {codec : Codec α} (h : codec.Keeps Draft.greatestDepth) (store : Store)
    (path : Path) (value : α) :
    (store.save codec path value).load codec path = .ok (some value) := by
  obtain ⟨htidy, hdecode⟩ := h value
  cases store with
  | memory entries => simp [load, save, find, put, hdecode]
  | database db space =>
    simp [load, save, find, put, Database.find?, Database.write, parse?_compact htidy, hdecode]

end Cache.Store

end CatalogGraph
