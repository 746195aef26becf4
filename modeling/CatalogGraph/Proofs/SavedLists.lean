import CatalogGraph.Joins.Detection
import CatalogGraph.Proofs.Codecs

/-!
# Saved lists are found again

Lists of names, of columns and of join candidates are found as they were saved, in memory and in a
database, whatever characters are in them. A database holds the compact text of a list; this text
is read back as the value that was written. A detection leaves its candidates at the place for the
joins of its catalog.
-/

namespace CatalogGraph.Joins

open Json

/-! ## Candidates -/

/-- The members of the record of a candidate in key order. -/
theorem normal_candidate (c : Candidate) :
    c.toJson.normal = .object [("basis", .string c.basis.name), ("left", c.left.toJson.normal),
      ("right", c.right.toJson.normal)] := by
  simp only [Candidate.toJson, normal, normalMembers, Dictionary.ofList, List.foldl,
    Dictionary.insert, String.reduceEq, String.reduceLT, reduceIte]

theorem decode_candidate (c : Candidate) : Candidate.codec.decode c.toJson.normal = .ok c := by
  obtain ⟨left, right, basis⟩ := c
  rw [normal_candidate, normal_toJson, normal_toJson]
  cases basis <;> rfl

theorem keeps_candidate (depth : Nat) : Candidate.codec.Keeps (depth + 2) := by
  intro c
  refine ⟨?_, decode_candidate c⟩
  change Tidy (depth + 2) c.toJson.normal
  rw [normal_candidate]
  have hcolumn (column : Column) : Tidy (depth + 1) column.toJson.normal :=
    (keeps_column depth column).1
  constructor
  · change ["basis", "left", "right"].Pairwise (· < ·)
    decide
  · intro m hm
    simp only [List.mem_cons, List.not_mem_nil, or_false] at hm
    rcases hm with rfl | rfl | rfl
    · exact (keeps_string (depth + 1) c.basis.name).1
    · exact hcolumn c.left
    · exact hcolumn c.right

end CatalogGraph.Joins

namespace CatalogGraph.Cache

open Discovery Joins

/-! ## Values that survive storage -/

/-- Values of the codec are found as they were saved. What a database holds of them is a compact
text, which is read back as what was written. -/
structure Survives {α : Type} (codec : Json.Codec α) : Prop where
  loaded : ∀ (store : Store) (path : Path) (value : α),
    (store.save codec path value).load codec path = .ok (some value)
  printed : ∀ (db : Database) (space : String) (path : Path) (value : α),
    let written := (codec.encode value).normal
    (Store.database db space).save codec path value =
        .database (db.write space path.key written.compact) space ∧
      Json.parse? written.compact = some written ∧ codec.decode written = .ok value

theorem survives_of_keeps {α : Type} {codec : Json.Codec α}
    (h : codec.Keeps Json.Draft.greatestDepth) : Survives codec where
  loaded := Store.load_save h
  printed := by
    intro db space path value
    obtain ⟨htidy, hdecode⟩ := h value
    exact ⟨rfl, Json.parse?_compact htidy, hdecode⟩

/-- The candidates of a detection are at the place for the joins of the catalog. -/
theorem load_detectCatalog {σ : Type} (w : Walker σ) (strategy : Strategy) (catalog : String)
    (s : Session σ) :
    (detectCatalog w strategy catalog s).2.store.load Candidate.codec.list (.joins catalog) =
      .ok (some (detectCatalog w strategy catalog s).1) := by
  have hcandidates : Candidate.codec.list.Keeps Json.Draft.greatestDepth := (keeps_candidate _).list
  exact Store.load_save hcandidates _ _ _

/-- Names, columns and candidates survive storage, the candidates of a detection among them. -/
theorem lists_survive :
    Survives Json.Codec.string.list ∧ Survives Column.codec.list ∧ Survives Candidate.codec.list ∧
      ∀ (σ : Type) (w : Walker σ) (strategy : Strategy) (catalog : String) (s : Session σ),
        (detectCatalog w strategy catalog s).2.store.load Candidate.codec.list (.joins catalog) =
          .ok (some (detectCatalog w strategy catalog s).1) := by
  refine ⟨?_, ?_, ?_, fun σ w strategy catalog s => load_detectCatalog w strategy catalog s⟩
  · exact survives_of_keeps (Json.keeps_string _).list
  · exact survives_of_keeps (keeps_column _).list
  · exact survives_of_keeps (keeps_candidate _).list

end CatalogGraph.Cache
