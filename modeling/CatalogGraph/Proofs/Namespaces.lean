import CatalogGraph.Cache.Namespace
import CatalogGraph.Cache.Operation
import CatalogGraph.Proofs.CacheKeys
import CatalogGraph.Proofs.Digits
import Mathlib.Data.List.TakeWhile

/-!
# Namespaces of one database

A namespace is written before its keys with a colon, so a search for the keys of one namespace finds
no row of another one, whatever beginning is asked for. Within a namespace the operations on the
rows do what the operations on a cache in memory do: `Alike` says that a namespace and a memory hold
the same entries, every operation keeps it (`Alike.perform`), and the two answers differ in the
sizes only.
-/

namespace CatalogGraph.Cache

/-- A namespace that can be told from others by the colon after it. -/
structure IsNamespace (space : String) : Prop where
  nonempty : space ≠ ""
  colon : ':' ∉ space.toList
  nul : '\x00' ∉ space.toList

theorem toList_digest (message : List UInt8) :
    ∃ state : Sha256.State, (Sha256.digest message).toList =
      state.toList.flatMap fun w => Text.hexDigits Text.hexSmall 8 w.toNat :=
  ⟨_, String.toList_ofList⟩

theorem length_digest (message : List UInt8) : (Sha256.digest message).toList.length = 64 := by
  obtain ⟨state, hstate⟩ := toList_digest message
  simp [hstate, Sha256.State.toList, Text.length_hexDigits]

theorem isHexDigit_of_mem_digest {message : List UInt8} {c : Char}
    (h : c ∈ (Sha256.digest message).toList) : Text.isHexDigit c = true := by
  obtain ⟨state, hstate⟩ := toList_digest message
  rw [hstate] at h
  obtain ⟨w, -, hc⟩ := List.mem_flatMap.1 h
  exact Text.isHexDigit_of_mem_hexDigits Text.hexValue?_hexSmall hc

/-- The namespaces of connections are told apart by the colon. -/
theorem isNamespace_connectionNamespace (driver connectionString : String) :
    IsNamespace (connectionNamespace driver connectionString) := by
  have hdigit {c : Char} (hc : c ∈ (connectionNamespace driver connectionString).toList) :
      Text.isHexDigit c = true := by
    rw [connectionNamespace, String.toList_ofList] at hc
    exact isHexDigit_of_mem_digest (List.mem_of_mem_take hc)
  have hlength : (connectionNamespace driver connectionString).toList.length = namespaceWidth := by
    rw [connectionNamespace, String.toList_ofList, List.length_take]
    unfold Json.hash Sha256.ofText
    rw [length_digest]
    decide
  refine ⟨?_, ?_, ?_⟩
  · intro hempty
    rw [hempty] at hlength
    exact absurd hlength (by decide)
  · intro hc
    exact absurd (hdigit hc) (by decide)
  · intro hc
    exact absurd (hdigit hc) (by decide)

theorem startsWith_iff {s start : String} :
    startsWith s start = true ↔ start.toList <+: s.toList := by
  unfold startsWith
  exact List.isPrefixOf_iff_prefix

theorem startsWith_self (s : String) : startsWith s s = true :=
  startsWith_iff.2 (List.prefix_refl _)

namespace Database

variable {db : Database} {space other key start value : String}

/-! ## Full keys -/

theorem toList_fullKey (hspace : IsNamespace space) (key : String) :
    (fullKey space key).toList = space.toList ++ ':' :: key.toList := by
  unfold fullKey
  rw [if_neg hspace.nonempty]
  simp

/-- What is written before the keys of a namespace does not depend on the key. -/
theorem toList_fullKey_append (space key : String) :
    (fullKey space key).toList = (fullKey space "").toList ++ key.toList := by
  unfold fullKey
  split <;> simp

theorem nul_not_mem_fullKey (hspace : '\x00' ∉ space.toList) (hkey : '\x00' ∉ key.toList) :
    '\x00' ∉ (fullKey space key).toList := by
  unfold fullKey
  split
  · exact hkey
  · simp [hspace, hkey]

theorem startsWith_fullKey (space key start : String) :
    startsWith (fullKey space key) (fullKey space start) = startsWith key start := by
  rw [Bool.eq_iff_iff, startsWith_iff, startsWith_iff, toList_fullKey_append space key,
    toList_fullKey_append space start, List.prefix_append_right_inj]

theorem fullKey_lt_iff (space : String) {a b : String} :
    fullKey space a < fullKey space b ↔ a < b := by
  rw [String.lt_iff, String.lt_iff, toList_fullKey_append space a, toList_fullKey_append space b]
  induction (fullKey space "").toList with
  | nil => simp
  | cons c cs ih => simpa [List.cons_lt_cons_iff] using ih

/-- A row belongs to one namespace at most. -/
theorem eq_of_startsWith_fullKey (hspace : IsNamespace space) (hother : IsNamespace other)
    {s start start' : String} (h : startsWith s (fullKey space start) = true)
    (h' : startsWith s (fullKey other start') = true) : other = space := by
  rw [startsWith_iff, toList_fullKey hspace] at h
  rw [startsWith_iff, toList_fullKey hother] at h'
  obtain ⟨rest, hrest⟩ := h
  obtain ⟨rest', hrest'⟩ := h'
  have heq : space.toList ++ ':' :: (start.toList ++ rest)
      = other.toList ++ ':' :: (start'.toList ++ rest') := by
    simpa using hrest.trans hrest'.symm
  exact (String.toList_injective
    (Path.append_separator_injective hspace.colon hother.colon heq).1).symm

theorem fullKey_ne (hspace : IsNamespace space) (hother : IsNamespace other) (h : other ≠ space)
    (key key' : String) : fullKey space key ≠ fullKey other key' := by
  intro heq
  have hstart : startsWith (fullKey space key) (fullKey other key') = true := by
    rw [heq]
    exact startsWith_self _
  exact h (eq_of_startsWith_fullKey hspace hother (startsWith_self _) hstart)

/-! ## Searching by a beginning -/

theorem startsWith_of_finds (h : finds start key = true) : startsWith key start = true := by
  unfold finds beforeNul at h
  rw [startsWith_iff, ← eq_of_beq h]
  exact (List.take_prefix _ _).trans (List.takeWhile_prefix _)

theorem beforeNul_eq (h : '\x00' ∉ key.toList) : beforeNul key = key.toList := by
  unfold beforeNul
  rw [List.takeWhile_eq_self_iff]
  intro c hc
  rw [decide_eq_true_eq]
  intro hnul
  exact h (hnul ▸ hc)

/-- Where the key has no NUL, the search is for its beginning. -/
theorem finds_eq (h : '\x00' ∉ key.toList) (start : String) :
    finds start key = startsWith key start := by
  rw [Bool.eq_iff_iff]
  constructor
  · exact startsWith_of_finds
  · intro hstart
    obtain ⟨rest, hrest⟩ := startsWith_iff.1 hstart
    have hnul : '\x00' ∉ start.toList := by
      intro hmem
      apply h
      rw [← hrest]
      exact List.mem_append_left _ hmem
    unfold finds
    rw [beforeNul_eq h, beforeNul_eq hnul, ← hrest]
    simp

theorem finds_fullKey (hspace : '\x00' ∉ space.toList) (hkey : '\x00' ∉ key.toList)
    (start : String) : finds (fullKey space start) (fullKey space key) = startsWith key start := by
  rw [finds_eq (nul_not_mem_fullKey hspace hkey), startsWith_fullKey]

/-- A search in one namespace does not find a key of another one. -/
theorem finds_of_ne (hspace : IsNamespace space) (hother : IsNamespace other) (h : other ≠ space)
    {s : String} (hs : startsWith s (fullKey other key) = true) (start : String) :
    finds (fullKey space start) s = false := by
  rw [Bool.eq_false_iff]
  intro hfinds
  exact h (eq_of_startsWith_fullKey hspace hother (startsWith_of_finds hfinds) hs)

/-- A colon in a namespace would let it be seen from its first part. -/
example : finds (fullKey "a" "") (fullKey "a:b" "catalogs") = true := by decide +kernel

/-! ## The keys of a namespace -/

/-- The key of a row within its namespace. -/
def ownKey (space : String) (row : String × String) : String :=
  String.ofList (row.1.toList.drop (fullKey space "").length)

theorem keys_eq (db : Database) (space start : String) :
    db.keys space start = (db.search space start).map (ownKey space) := rfl

theorem find?_clear (db : Database) (space start key : String) :
    (db.clear space start).find? space key =
      if finds (fullKey space start) (fullKey space key) then none else db.find? space key := by
  have hfilter := Dictionary.find?_filter db.rows (fun k => !finds (fullKey space start) k)
    (fullKey space key)
  unfold find? clear
  rw [hfilter]
  cases finds (fullKey space start) (fullKey space key) <;> simp

theorem fullKey_ownKey {row : String × String}
    (h : startsWith row.1 (fullKey space start) = true) :
    fullKey space (ownKey space row) = row.1 := by
  apply String.toList_injective
  rw [startsWith_iff, toList_fullKey_append] at h
  obtain ⟨rest, hrest⟩ := h
  rw [toList_fullKey_append]
  unfold ownKey
  rw [← String.length_toList, ← hrest]
  simp

theorem startsWith_of_mem_search {row : String × String} (h : row ∈ db.search space start) :
    startsWith row.1 (fullKey space start) = true := by
  unfold search at h
  exact startsWith_of_finds (List.mem_filter.1 h).2

theorem map_fullKey_keys (space : String) (db : Database) (start : String) :
    (db.keys space start).map (fullKey space) = Dictionary.keys (db.search space start) := by
  rw [keys_eq, List.map_map]
  apply List.map_congr_left
  intro row hrow
  exact fullKey_ownKey (startsWith_of_mem_search hrow)

theorem length_search (db : Database) (space start : String) :
    (db.search space start).length = (db.keys space start).length := by
  rw [keys_eq, List.length_map]

theorem pairwise_keys (space : String) (hdb : Dictionary.Ascending db.rows)
    (start : String) : (db.keys space start).Pairwise (· < ·) := by
  have hrows : Dictionary.Ascending (db.search space start) := Dictionary.ascending_filter _ hdb
  unfold Dictionary.Ascending at hrows
  rw [← map_fullKey_keys, List.pairwise_map] at hrows
  exact hrows.imp (fullKey_lt_iff space).1

/-- The keys that are listed for a namespace are the keys of its rows. -/
theorem mem_keys_iff (hspace : '\x00' ∉ space.toList) (hdb : Dictionary.Ascending db.rows)
    (hplain : ∀ key, (db.find? space key).isSome = true → '\x00' ∉ key.toList) :
    key ∈ db.keys space start ↔
      (db.find? space key).isSome = true ∧ startsWith key start = true := by
  constructor
  · intro hkey
    rw [keys_eq] at hkey
    obtain ⟨row, hrow, rfl⟩ := List.mem_map.1 hkey
    have hstart := startsWith_of_mem_search hrow
    have hfull := fullKey_ownKey hstart
    have hfind : db.find? space (ownKey space row) = some row.2 := by
      unfold find?
      rw [hfull]
      exact Dictionary.find?_of_mem hdb (List.mem_filter.1 hrow).1
    refine ⟨by rw [hfind]; rfl, ?_⟩
    rwa [← hfull, startsWith_fullKey] at hstart
  · rintro ⟨hsome, hstart⟩
    obtain ⟨value, hvalue⟩ := Option.isSome_iff_exists.1 hsome
    have hrow : (fullKey space key, value) ∈ db.search space start := by
      refine List.mem_filter.2 ⟨Dictionary.mem_of_find? hvalue, ?_⟩
      rw [finds_fullKey hspace (hplain key hsome), hstart]
    have hmem : fullKey space key ∈ (db.keys space start).map (fullKey space) := by
      rw [map_fullKey_keys]
      exact List.mem_map_of_mem hrow
    obtain ⟨other, hother, heq⟩ := List.mem_map.1 hmem
    rwa [← fullKey_injective heq]

end Database

/-! ## A namespace and a memory -/

/-- A namespace of a database holds the texts of the entries of a memory, under the same keys. -/
structure Mirrors (db : Database) (space : String) (entries : Dictionary Json) : Prop where
  rows_ascending : Dictionary.Ascending db.rows
  entries_ascending : Dictionary.Ascending entries
  texts : ∀ key, (db.find? space key).map Json.parse? = (Dictionary.find? entries key).map some
  plain : ∀ key, (db.find? space key).isSome = true → '\x00' ∉ key.toList

/-- A namespace without rows is a memory without entries. -/
theorem mirrors_nil {db : Database} {space : String} (hrows : Dictionary.Ascending db.rows)
    (h : ∀ key, db.find? space key = none) : Mirrors db space [] where
  rows_ascending := hrows
  entries_ascending := List.Pairwise.nil
  texts := by simp [h, Dictionary.find?]
  plain := by simp [h]

namespace Mirrors

variable {db : Database} {space : String} {entries : Dictionary Json} {key : String}

theorem isSome_eq (h : Mirrors db space entries) (key : String) :
    (db.find? space key).isSome = (Dictionary.find? entries key).isSome := by
  have htexts := congrArg Option.isSome (h.texts key)
  simpa using htexts

theorem parse (h : Mirrors db space entries) {s : String} (hs : db.find? space key = some s) :
    ∃ j, Json.parse? s = some j ∧ Dictionary.find? entries key = some j := by
  have htexts := h.texts key
  rw [hs] at htexts
  cases hj : Dictionary.find? entries key with
  | none => simp [hj] at htexts
  | some j =>
    rw [hj] at htexts
    exact ⟨j, by simpa using htexts, rfl⟩

theorem write (h : Mirrors db space entries) (hkey : '\x00' ∉ key.toList) {value : Json}
    (hvalue : Json.parse? value.compact = some value) :
    Mirrors (db.write space key value.compact) space (Dictionary.insert entries key value) where
  rows_ascending := Dictionary.ascending_insert _ h.rows_ascending
  entries_ascending := Dictionary.ascending_insert _ h.entries_ascending
  texts := by
    intro other
    simp only [Database.find?, Database.write, Dictionary.find?_insert]
    by_cases heq : other = key
    · simp [heq, hvalue]
    · have hfull : Database.fullKey space other ≠ Database.fullKey space key :=
        fun e => heq (fullKey_injective e)
      rw [if_neg heq, if_neg hfull]
      exact h.texts other
  plain := by
    intro other hsome
    by_cases heq : other = key
    · exact heq ▸ hkey
    · have hfull : Database.fullKey space other ≠ Database.fullKey space key :=
        fun e => heq (fullKey_injective e)
      simp only [Database.find?, Database.write, Dictionary.find?_insert, if_neg hfull] at hsome
      exact h.plain other hsome

theorem erase (h : Mirrors db space entries) (key : String) :
    Mirrors (db.erase space key) space (Dictionary.erase entries key) where
  rows_ascending := Dictionary.ascending_erase _ h.rows_ascending
  entries_ascending := Dictionary.ascending_erase _ h.entries_ascending
  texts := by
    intro other
    simp only [Database.find?, Database.erase, Dictionary.find?_erase]
    by_cases heq : other = key
    · simp [heq]
    · have hfull : Database.fullKey space other ≠ Database.fullKey space key :=
        fun e => heq (fullKey_injective e)
      rw [if_neg heq, if_neg hfull]
      exact h.texts other
  plain := by
    intro other hsome
    simp only [Database.find?, Database.erase, Dictionary.find?_erase] at hsome
    split at hsome
    · simp at hsome
    · exact h.plain other hsome

theorem clear (h : Mirrors db space entries) (hspace : '\x00' ∉ space.toList) (start : String) :
    Mirrors (db.clear space start) space
      (entries.filter fun entry => !startsWith entry.1 start) where
  rows_ascending := Dictionary.ascending_filter _ h.rows_ascending
  entries_ascending := Dictionary.ascending_filter _ h.entries_ascending
  texts := by
    intro other
    rw [Database.find?_clear, Dictionary.find?_filter _ fun key => !startsWith key start]
    have htexts := h.texts other
    cases hrow : db.find? space other with
    | none =>
      have hentry : Dictionary.find? entries other = none := by simpa [hrow] using htexts.symm
      simp [hentry]
    | some s =>
      have hplain := h.plain other (by simp [hrow])
      rw [Database.finds_fullKey hspace hplain]
      cases startsWith other start with
      | true => simp
      | false => simpa [hrow] using htexts
  plain := by
    intro other hsome
    rw [Database.find?_clear] at hsome
    split at hsome
    · simp at hsome
    · exact h.plain other hsome

theorem keys (h : Mirrors db space entries) (hspace : '\x00' ∉ space.toList) (start : String) :
    db.keys space start =
      (Dictionary.keys entries).filter fun key => startsWith key start := by
  apply Dictionary.eq_of_ascending (Database.pairwise_keys space h.rows_ascending start)
  · exact h.entries_ascending.filter _
  · intro key
    rw [Database.mem_keys_iff hspace h.rows_ascending h.plain, h.isSome_eq, List.mem_filter,
      Dictionary.mem_keys_iff, Option.isSome_iff_exists]

theorem length_search (h : Mirrors db space entries) (hspace : '\x00' ∉ space.toList)
    (start : String) :
    (db.search space start).length = entries.countP fun entry => startsWith entry.1 start := by
  rw [Database.length_search, h.keys hspace, ← List.countP_eq_length_filter, Dictionary.keys,
    List.countP_map]
  rfl

end Mirrors

/-! ## Operations -/

/-- The answer without the size of the texts. -/
def Answer.sizeless : Answer → Answer
  | .stats s => .stats ⟨s.entries, 0⟩
  | answer => answer

/-- What an operation writes has its place below names and can be read back from its text. -/
def Operation.Writes : Operation → Prop
  | .put path value =>
    (∃ names leaf, path = .below names leaf) ∧ Json.parse? value.compact = some value
  | _ => True

/-- A cache in a namespace of a database and a cache in memory with the same entries. -/
inductive Alike (space : String) : Store → Store → Prop where
  | intro {db : Database} {entries : Dictionary Json} (h : Mirrors db space entries) :
    Alike space (.database db space) (.memory entries)

namespace Alike

variable {space : String} {s t : Store}

theorem find_eq (h : Alike space s t) (path : Path) : s.find path = t.find path := by
  obtain ⟨h⟩ := h
  rename_i db entries
  simp only [Store.find]
  cases hs : db.find? space path.key with
  | none =>
    have hsome := h.isSome_eq path.key
    rw [hs] at hsome
    have hentry : Dictionary.find? entries path.key = none := by simpa using hsome.symm
    rw [hentry]
  | some text =>
    obtain ⟨j, hj, hentry⟩ := h.parse hs
    simp only [hj, hentry]

theorem has_eq (h : Alike space s t) (path : Path) : s.has path = t.has path := by
  obtain ⟨h⟩ := h
  exact h.isSome_eq path.key

theorem count_eq (h : Alike space s t) (hspace : '\x00' ∉ space.toList) (start : String) :
    s.count start = t.count start := by
  obtain ⟨h⟩ := h
  exact h.length_search hspace start

theorem keys_eq (h : Alike space s t) (hspace : '\x00' ∉ space.toList) (start : String) :
    s.keys start = t.keys start := by
  obtain ⟨h⟩ := h
  exact h.keys hspace start

theorem entries_eq (h : Alike space s t) (hspace : '\x00' ∉ space.toList) :
    s.stats.entries = t.stats.entries := by
  have hcount := h.count_eq hspace ""
  obtain ⟨h⟩ := h
  rename_i db entries
  have hall : (entries.countP fun entry => startsWith entry.1 "") = entries.length := by
    rw [List.countP_eq_length]
    intro entry _
    simp [startsWith]
  exact hcount.trans hall

theorem put (h : Alike space s t) {names : List String} {leaf : Leaf} {value : Json}
    (hvalue : Json.parse? value.compact = some value) :
    Alike space (s.put (.below names leaf) value) (t.put (.below names leaf) value) := by
  obtain ⟨h⟩ := h
  exact ⟨h.write (Path.nul_not_mem_key names leaf) hvalue⟩

theorem erase (h : Alike space s t) (path : Path) :
    Alike space (s.erase path) (t.erase path) := by
  obtain ⟨h⟩ := h
  exact ⟨h.erase path.key⟩

theorem clear (h : Alike space s t) (hspace : '\x00' ∉ space.toList) (start : String) :
    Alike space (s.clear start) (t.clear start) := by
  obtain ⟨h⟩ := h
  exact ⟨h.clear hspace start⟩

theorem invalidate (h : Alike space s t) (hspace : '\x00' ∉ space.toList)
    (catalog : Option String) :
    (s.invalidate catalog).1 = (t.invalidate catalog).1 ∧
      Alike space (s.invalidate catalog).2 (t.invalidate catalog).2 := by
  cases catalog with
  | none => exact ⟨h.count_eq hspace "", h.clear hspace ""⟩
  | some catalog =>
    have hrest := h.clear hspace (Path.catalogRoot catalog)
    simp only [Store.invalidate, h.count_eq hspace, hrest.has_eq]
    exact ⟨trivial, hrest.erase _⟩

/-- Every operation keeps the caches alike and is answered alike, but for the sizes. -/
theorem perform (h : Alike space s t) (hspace : '\x00' ∉ space.toList) {op : Operation}
    (hop : op.Writes) :
    (s.perform op).1.sizeless = (t.perform op).1.sizeless ∧
      Alike space (s.perform op).2 (t.perform op).2 := by
  cases op with
  | put path value =>
    obtain ⟨⟨names, leaf, rfl⟩, hvalue⟩ := hop
    exact ⟨rfl, h.put hvalue⟩
  | find path => exact ⟨congrArg (Answer.sizeless ∘ Answer.found) (h.find_eq path), h⟩
  | erase path => exact ⟨congrArg (Answer.sizeless ∘ Answer.erased) (h.has_eq path), h.erase path⟩
  | clear start =>
    exact ⟨congrArg (Answer.sizeless ∘ Answer.removed) (h.count_eq hspace start),
      h.clear hspace start⟩
  | invalidate catalog =>
    obtain ⟨hcount, hrest⟩ := h.invalidate hspace catalog
    exact ⟨congrArg (Answer.sizeless ∘ Answer.removed) hcount, hrest⟩
  | keys start => exact ⟨congrArg (Answer.sizeless ∘ Answer.keys) (h.keys_eq hspace start), h⟩
  | stats =>
    refine ⟨?_, h⟩
    simp only [Store.perform, Answer.sizeless, h.entries_eq hspace]

end Alike

end CatalogGraph.Cache
