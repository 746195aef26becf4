import CatalogGraph.Proofs.CompactText
import CatalogGraph.Proofs.ExactInvalidation
import Mathlib.Algebra.GroupWithZero.Nat

/-!
# Sizes of a cache

A memory and a namespace of a database that are used alike hold the same entries: the rows of the
namespace are the entries of the memory, written out (`Copied`). So both report the number of the
entries that are alive. But the memory adds up the bytes of their texts and the database their
characters, which comes to the same exactly if all texts are ASCII (`sizes_exact`). In a namespace
that holds a NUL nothing is found, so nothing is reported.
-/

namespace CatalogGraph.Cache

/-! ## Entries that are alive -/

/-- What an operation leaves under a key that held a value or none. -/
def Operation.leaves (key : String) (before : Option Json) : Operation → Option Json
  | .put path value => if key = path.key then some value else before
  | .erase path => if key = path.key then none else before
  | .clear start => if startsWith key start then none else before
  | .invalidate none => none
  | .invalidate (some catalog) =>
    if startsWith key (Path.catalogRoot catalog) ∨ key = Path.catalogs.key then none else before
  | .find _ | .keys _ | .stats => before

/-- The value that is alive under a key after operations: the last one that was put there, unless it
was removed again. -/
def alive? (ops : List Operation) (key : String) : Option Json :=
  ops.foldl (Operation.leaves key) none

/-- The bytes of the texts of entries. -/
def byteSize (entries : Dictionary Json) : Nat :=
  (entries.map fun entry => entry.2.compact.utf8ByteSize).sum

/-- The characters of the texts of entries. -/
def characterCount (entries : Dictionary Json) : Nat :=
  (entries.map fun entry => entry.2.compact.length).sum

/-! ## Bytes and characters -/

theorem byteSize_ofList_ge (cs : List Char) : cs.length ≤ (String.ofList cs).utf8ByteSize := by
  induction cs with
  | nil => exact Nat.zero_le _
  | cons c cs ih =>
    have hc := c.utf8Size_pos
    rw [String.ofList_cons, String.utf8ByteSize_append, String.utf8ByteSize_singleton,
      List.length_cons]
    omega

theorem isAscii_iff (c : Char) : c.utf8Size = 1 ↔ c.toNat < 0x80 := by
  rw [Char.utf8Size_eq_one_iff, UInt32.le_iff_toNat_le]
  change c.val.toNat ≤ 127 ↔ c.val.toNat < 128
  omega

theorem byteSize_ofList_iff (cs : List Char) :
    (String.ofList cs).utf8ByteSize = cs.length ↔ ∀ c ∈ cs, c.toNat < 0x80 := by
  induction cs with
  | nil => simp
  | cons c cs ih =>
    have hc := c.utf8Size_pos
    have hcs := byteSize_ofList_ge cs
    rw [String.ofList_cons, String.utf8ByteSize_append, String.utf8ByteSize_singleton,
      List.length_cons, List.forall_mem_cons, ← ih, ← isAscii_iff]
    omega

theorem length_le_byteSize (s : String) : s.length ≤ s.utf8ByteSize := by
  have h := byteSize_ofList_ge s.toList
  rwa [String.ofList_toList, String.length_toList] at h

/-- A text has as many bytes as characters exactly if it is ASCII. -/
theorem byteSize_eq_length_iff (s : String) :
    s.utf8ByteSize = s.length ↔ ∀ c ∈ s.toList, c.toNat < 0x80 := by
  have h := byteSize_ofList_iff s.toList
  rwa [String.ofList_toList, String.length_toList] at h

theorem characterCount_le (entries : Dictionary Json) :
    characterCount entries ≤ byteSize entries := by
  induction entries with
  | nil => exact Nat.le_refl _
  | cons entry rest ih =>
    have hentry := length_le_byteSize entry.2.compact
    unfold byteSize characterCount at ih ⊢
    rw [List.map_cons, List.map_cons, List.sum_cons, List.sum_cons]
    omega

theorem byteSize_eq_characterCount_iff (entries : Dictionary Json) :
    byteSize entries = characterCount entries ↔
      ∀ entry ∈ entries, ∀ c ∈ entry.2.compact.toList, c.toNat < 0x80 := by
  induction entries with
  | nil => simp [byteSize, characterCount]
  | cons entry rest ih =>
    have hentry := length_le_byteSize entry.2.compact
    have hrest := characterCount_le rest
    rw [List.forall_mem_cons, ← ih, ← byteSize_eq_length_iff]
    unfold byteSize characterCount at hrest ⊢
    rw [List.map_cons, List.map_cons, List.sum_cons, List.sum_cons]
    omega

/-! ## A namespace with the entries of a memory -/

/-- An entry as a row of a namespace. -/
def written (space : String) (entry : String × Json) : String × String :=
  (Database.fullKey space entry.1, entry.2.compact)

/-- The rows of a namespace are the entries of a memory, written out. -/
structure Copied (space : String) (db : Database) (entries : Dictionary Json) : Prop where
  rows_ascending : Dictionary.Ascending db.rows
  rows : db.search space "" = entries.map (written space)
  plain : ∀ entry ∈ entries, '\x00' ∉ entry.1.toList

namespace Copied

variable {space : String} {db : Database} {entries : Dictionary Json}

theorem put (h : Copied space db entries) (hspace : '\x00' ∉ space.toList) {key : String}
    (hkey : '\x00' ∉ key.toList) (value : Json) :
    Copied space (db.write space key value.compact) (Dictionary.insert entries key value) where
  rows_ascending := Dictionary.ascending_insert _ h.rows_ascending
  rows := by
    have hfinds : Database.finds (Database.fullKey space "") (Database.fullKey space key) = true :=
      (Database.finds_fullKey hspace hkey "").trans (by simp [startsWith])
    have hrows := h.rows
    unfold Database.search at hrows ⊢
    rw [Database.write, Dictionary.filter_insert_of_pos h.rows_ascending hfinds, hrows]
    exact (Dictionary.map_insert (fun _ _ => Database.fullKey_lt_iff space)
      (fun _ _ => fullKey_injective) Json.compact entries key value).symm
  plain := by
    intro entry hentry
    rcases Dictionary.mem_insert hentry with rfl | hentry
    · exact hkey
    · exact h.plain entry hentry

/-- Rows that are removed by their keys, and the entries that are removed with them. -/
theorem filter (h : Copied space db entries) (keepRow keep : String → Bool)
    (hkeep : ∀ entry ∈ entries, keepRow (Database.fullKey space entry.1) = keep entry.1) :
    Copied space ⟨db.rows.filter fun row => keepRow row.1, db.version⟩
      (entries.filter fun entry => keep entry.1) where
  rows_ascending := Dictionary.ascending_filter _ h.rows_ascending
  rows := by
    have hrows := h.rows
    unfold Database.search at hrows ⊢
    dsimp only
    rw [List.filter_filter]
    simp only [Bool.and_comm]
    rw [← List.filter_filter, hrows, List.filter_map]
    congr 1
    exact List.filter_congr hkeep
  plain entry hentry := h.plain entry (List.mem_filter.1 hentry).1

theorem erase (h : Copied space db entries) (key : String) :
    Copied space (db.erase space key) (Dictionary.erase entries key) :=
  h.filter (fun k => k ≠ Database.fullKey space key) (fun k => k ≠ key)
    fun entry _ => by simp [Function.Injective.eq_iff fun _ _ => fullKey_injective]

theorem clear (h : Copied space db entries) (hspace : '\x00' ∉ space.toList) (start : String) :
    Copied space (db.clear space start)
      (entries.filter fun entry => !startsWith entry.1 start) :=
  h.filter (fun k => !Database.finds (Database.fullKey space start) k) (fun k => !startsWith k start)
    fun entry hentry => by rw [Database.finds_fullKey hspace (h.plain entry hentry)]

end Copied

/-- A cache in a namespace of a database, and a cache in memory with the same entries. -/
inductive Twins (space : String) : Store → Store → Prop where
  | intro {db : Database} {entries : Dictionary Json} (h : Copied space db entries) :
    Twins space (.database db space) (.memory entries)

namespace Twins

variable {space : String} {s t : Store}

/-- Every operation keeps the entries the same. -/
theorem perform (h : Twins space s t) (hspace : '\x00' ∉ space.toList) {op : Operation}
    (hop : op.Places) : Twins space (s.perform op).2 (t.perform op).2 := by
  obtain ⟨h⟩ := h
  cases op with
  | put path value =>
    obtain ⟨names, leaf, rfl⟩ := hop
    exact ⟨h.put hspace (Path.nul_not_mem_key names leaf) value⟩
  | erase path => exact ⟨h.erase path.key⟩
  | clear start => exact ⟨h.clear hspace start⟩
  | invalidate catalog =>
    cases catalog with
    | none => exact ⟨h.clear hspace ""⟩
    | some catalog => exact ⟨(h.clear hspace (Path.catalogRoot catalog)).erase Path.catalogs.key⟩
  | find path => exact ⟨h⟩
  | keys start => exact ⟨h⟩
  | stats => exact ⟨h⟩

theorem performAll (h : Twins space s t) (hspace : '\x00' ∉ space.toList) {ops : List Operation}
    (hops : ∀ op ∈ ops, op.Places) : Twins space (s.performAll ops).2 (t.performAll ops).2 := by
  induction ops generalizing s t with
  | nil => exact h
  | cons op ops ih =>
    exact ih (h.perform hspace (hops op List.mem_cons_self))
      fun op hop => hops op (List.mem_cons_of_mem _ hop)

end Twins

/-! ## Runs of a memory -/

namespace Store

theorem stats_memory (entries : Dictionary Json) :
    (memory entries).stats = ⟨entries.length, byteSize entries⟩ := by
  simp only [stats, byteSize, List.sum, List.foldr_map]

theorem stats_of_copied {space : String} {db : Database} {entries : Dictionary Json}
    (h : Copied space db entries) :
    (database db space).stats = ⟨entries.length, characterCount entries⟩ := by
  have hlength (j : Json) : (Database.beforeNul j.compact).length = j.compact.length := by
    rw [Database.beforeNul_eq (Json.nul_not_mem_compact j), String.length_toList]
  simp only [stats, h.rows, List.length_map, characterCount, List.sum, List.foldr_map, written,
    hlength]

theorem stats_of_nul_mem {space : String} (h : '\x00' ∈ space.toList) (db : Database) :
    (database db space).stats = ⟨0, 0⟩ := by
  have hstart : '\x00' ∈ (Database.fullKey space "").toList := by
    unfold Database.fullKey
    split
    · rename_i hempty
      simp [hempty] at h
    · simp [h]
  have hrows : db.search space "" = [] :=
    List.filter_eq_nil_iff.2 fun row _ => by simp [Database.finds_of_nul_mem hstart]
  simp only [stats, hrows, List.length_nil, List.foldr_nil]

/-- What an operation leaves of the entries of a memory. -/
theorem exists_perform_memory {entries : Dictionary Json} (h : Dictionary.Ascending entries)
    (op : Operation) : ∃ next, ((memory entries).perform op).2 = memory next ∧
      Dictionary.Ascending next ∧
      ∀ key, Dictionary.find? next key = op.leaves key (Dictionary.find? entries key) := by
  have hclear (start : String) (key : String) :
      Dictionary.find? (entries.filter fun entry => !startsWith entry.1 start) key =
        if startsWith key start then none else Dictionary.find? entries key := by
    rw [Dictionary.find?_filter _ fun key => !startsWith key start]
    by_cases hstart : startsWith key start = true <;> simp [hstart]
  cases op with
  | put path value =>
    exact ⟨_, rfl, Dictionary.ascending_insert value h, fun key => Dictionary.find?_insert ..⟩
  | erase path =>
    exact ⟨_, rfl, Dictionary.ascending_erase _ h, fun key => Dictionary.find?_erase ..⟩
  | clear start => exact ⟨_, rfl, Dictionary.ascending_filter _ h, hclear start⟩
  | invalidate catalog =>
    cases catalog with
    | none =>
      refine ⟨_, rfl, Dictionary.ascending_filter _ h, fun key => (hclear "" key).trans ?_⟩
      exact if_pos (by simp [startsWith])
    | some catalog =>
      refine ⟨_, rfl, Dictionary.ascending_erase _ (Dictionary.ascending_filter _ h), ?_⟩
      intro key
      rw [Dictionary.find?_erase, hclear, Operation.leaves]
      by_cases hkey : key = Path.catalogs.key <;> simp [hkey]
  | find path => exact ⟨entries, rfl, h, fun _ => rfl⟩
  | keys start => exact ⟨entries, rfl, h, fun _ => rfl⟩
  | stats => exact ⟨entries, rfl, h, fun _ => rfl⟩

theorem exists_performAll_memory {entries : Dictionary Json} (h : Dictionary.Ascending entries)
    (ops : List Operation) : ∃ last, ((memory entries).performAll ops).2 = memory last ∧
      Dictionary.Ascending last ∧
      ∀ key, Dictionary.find? last key =
        ops.foldl (Operation.leaves key) (Dictionary.find? entries key) := by
  induction ops generalizing entries with
  | nil => exact ⟨entries, rfl, h, fun _ => rfl⟩
  | cons op ops ih =>
    obtain ⟨next, hnext, hascending, hleaves⟩ := exists_perform_memory h op
    obtain ⟨last, hlast, hlasting, halive⟩ := ih hascending
    refine ⟨last, ?_, hlasting, ?_⟩
    · rw [← hlast, ← hnext]
      rfl
    · intro key
      rw [halive, hleaves]
      rfl

/-- A handle keeps its namespace. -/
theorem exists_performAll_database (db : Database) (space : String) (ops : List Operation) :
    ∃ last, ((database db space).performAll ops).2 = database last space := by
  induction ops generalizing db with
  | nil => exact ⟨db, rfl⟩
  | cons op ops ih =>
    have hspace := space?_perform (database db space) op
    cases hnext : ((database db space).perform op).2 with
    | memory entries =>
      rw [hnext] at hspace
      cases hspace
    | database next other =>
      rw [hnext] at hspace
      cases hspace
      obtain ⟨last, hlast⟩ := ih next
      refine ⟨last, ?_⟩
      rw [← hlast, ← hnext]
      rfl

/-! ## Sizes -/

/-- A memory and a namespace in which nothing was found are used alike, by operations that write at
places below names. The memory reports the number of the entries that are alive and the bytes of
their texts. The database reports their number and the characters of their texts, or nothing if the
namespace holds a NUL. So the two agree exactly if nothing is alive, or if the namespace holds no
NUL and all texts are ASCII. -/
theorem sizes_exact {db : Database} {space : String} (hrows : Dictionary.Ascending db.rows)
    (hnone : ∀ key ∈ Dictionary.keys db.rows,
      startsWith key (Database.fullKey space "") = false)
    {ops : List Operation} (hops : ∀ op ∈ ops, op.Places) :
    ∃ entries : Dictionary Json, Dictionary.Ascending entries ∧
      (∀ key, Dictionary.find? entries key = alive? ops key) ∧
      (empty.performAll ops).2.stats = ⟨entries.length, byteSize entries⟩ ∧
      ((database db space).performAll ops).2.stats =
        (if '\x00' ∈ space.toList then ⟨0, 0⟩ else ⟨entries.length, characterCount entries⟩) ∧
      (((database db space).performAll ops).2.stats = (empty.performAll ops).2.stats ↔
        entries = [] ∨ '\x00' ∉ space.toList ∧
          ∀ entry ∈ entries, ∀ c ∈ entry.2.compact.toList, c.toNat < 0x80) := by
  have hnil : Dictionary.Ascending ([] : Dictionary Json) := List.Pairwise.nil
  obtain ⟨entries, hmemory, hascending, halive⟩ := exists_performAll_memory hnil ops
  have hbytes : (empty.performAll ops).2.stats = ⟨entries.length, byteSize entries⟩ := by
    rw [empty, hmemory, stats_memory]
  refine ⟨entries, hascending, halive, hbytes, ?_⟩
  rw [hbytes]
  by_cases hnul : '\x00' ∈ space.toList
  · obtain ⟨last, hlast⟩ := exists_performAll_database db space ops
    rw [if_pos hnul, hlast, stats_of_nul_mem hnul]
    refine ⟨rfl, ?_⟩
    rw [Stats.mk.injEq, eq_comm, List.length_eq_zero_iff]
    constructor
    · exact fun h => .inl h.1
    · rintro (rfl | ⟨hspace, -⟩)
      · exact ⟨rfl, rfl⟩
      · exact absurd hnul hspace
  · have hcopied : Copied space db [] := by
      refine ⟨hrows, ?_, fun _ h => nomatch h⟩
      refine List.filter_eq_nil_iff.2 fun row hrow hfinds => ?_
      have hstart := hnone row.1 (List.mem_map_of_mem hrow)
      rw [Database.startsWith_of_finds hfinds] at hstart
      cases hstart
    have htwins := (Twins.intro hcopied).performAll hnul hops
    rw [hmemory] at htwins
    generalize ((database db space).performAll ops).2 = store at htwins ⊢
    obtain ⟨hlast⟩ := htwins
    rw [if_neg hnul, stats_of_copied hlast]
    refine ⟨rfl, ?_⟩
    rw [Stats.mk.injEq, eq_comm (a := characterCount entries), byteSize_eq_characterCount_iff]
    constructor
    · exact fun h => .inr ⟨hnul, h.2⟩
    · rintro (rfl | ⟨-, hascii⟩)
      · exact ⟨rfl, by simp⟩
      · exact ⟨rfl, hascii⟩

/-- The text beyond ASCII goes with its catalog; the rows of another namespace do not count. -/
theorem sizes_exact_invalidated :
    let db : Database := ⟨[("b:catalogs", "[]")], some "1"⟩
    let ops : List Operation :=
      [.put .catalogs (.strings ["hive"]), .put (.schemas "hive") (.strings ["é"]),
        .put (.schemas "web-data") (.strings ["s"]), .invalidate (some "hive")]
    Dictionary.Ascending db.rows ∧
      (∀ key ∈ Dictionary.keys db.rows, startsWith key (Database.fullKey "a" "") = false) ∧
      (∀ op ∈ ops, op.Places) ∧
      ∃ entries : Dictionary Json, (∀ key, Dictionary.find? entries key = alive? ops key) ∧
        ((database db "a").performAll ops).2.stats = ⟨entries.length, characterCount entries⟩ ∧
        ((database db "a").performAll ops).2.stats = ⟨1, 5⟩ ∧
        ∀ entry ∈ entries, ∀ c ∈ entry.2.compact.toList, c.toNat < 0x80 := by
  intro db ops
  have hrows : Dictionary.Ascending db.rows := List.pairwise_singleton _ _
  have hnone : ∀ key ∈ Dictionary.keys db.rows,
      startsWith key (Database.fullKey "a" "") = false := by decide
  have hops : ∀ op ∈ ops, op.Places := by
    simp only [ops, List.forall_mem_cons]
    exact ⟨⟨[], .catalogs, rfl⟩, ⟨["hive"], .schemas, rfl⟩, ⟨["web-data"], .schemas, rfl⟩, trivial,
      fun _ h => nomatch h⟩
  have hequal : ((database db "a").performAll ops).2.stats = (empty.performAll ops).2.stats := by
    decide +kernel
  obtain ⟨entries, -, halive, -, hsize, hagree⟩ := sizes_exact hrows hnone hops
  refine ⟨hrows, hnone, hops, entries, halive, hsize, by decide +kernel, ?_⟩
  rcases hagree.1 hequal with rfl | ⟨-, hascii⟩
  · exact fun _ h => nomatch h
  · exact hascii

/-- The text `["é"]` has six bytes and five characters, and in a namespace that holds a NUL nothing
is reported of it. -/
theorem sizes_differ :
    let ops : List Operation := [.put .catalogs (.strings ["é"])]
    (empty.performAll ops).2.stats = ⟨1, 6⟩ ∧
      ((database .blank "").performAll ops).2.stats = ⟨1, 5⟩ ∧
      ((database .blank "a\x00b").performAll ops).2.stats = ⟨0, 0⟩ := by
  decide +kernel

end Store

end CatalogGraph.Cache
