import CatalogGraph.Cache.Store
import CatalogGraph.Proofs.Dictionary
import CatalogGraph.Proofs.NameCodec

/-!
# Keys of cache entries

A segment without a slash ends at the slash that is written after it, so the key of a path gives
its segments back. Rewritten names hold no slash; the places of two different paths below names are
therefore different, and writing at one of them leaves the other as it was.
-/

namespace CatalogGraph.Cache

/-! ## Keys -/

namespace Path

/-- No segment holds a slash. -/
def Plain (path : Path) : Prop := ∀ segment ∈ path.segments, '/' ∉ segment.toList

theorem isRest_of_mem_sanitize {name : String} {c : Char} (h : c ∈ (Name.sanitize name).toList) :
    Name.isRest c = true := by
  by_cases hname : name = ""
  · subst hname
    simp [Name.sanitize_empty] at h
  · have hvalid := Name.isValid_sanitize hname
    unfold Name.isValid at hvalid
    cases hcs : (Name.sanitize name).toList with
    | nil => simp [hcs] at h
    | cons d ds =>
      rw [hcs] at hvalid h
      simp only [Name.isValidChars, Bool.and_eq_true, List.all_eq_true] at hvalid
      rcases List.mem_cons.1 h with rfl | hmem
      · exact Name.isRest_of_isStart hvalid.1
      · exact hvalid.2 _ hmem

theorem slash_not_mem_sanitize (name : String) : '/' ∉ (Name.sanitize name).toList := by
  intro hmem
  exact absurd (isRest_of_mem_sanitize hmem) (by decide)

theorem plain_below (names : List String) (leaf : Leaf) : (below names leaf).Plain := by
  intro segment hsegment
  obtain ⟨name, -, rfl⟩ := List.mem_map.1 hsegment
  exact slash_not_mem_sanitize name

/-- The characters of a key. -/
def keyChars (segments : List String) (leaf : Leaf) : List Char :=
  segments.flatMap (fun segment => segment.toList ++ ['/']) ++ leaf.text.toList

theorem toList_key (path : Path) : path.key.toList = keyChars path.segments path.leaf := by
  unfold key keyChars
  rw [String.toList_append]
  congr 1
  induction path.segments with
  | nil => simp
  | cons segment rest ih => simp [String.join_cons, ih]

theorem nul_not_mem_key (names : List String) (leaf : Leaf) :
    '\x00' ∉ (below names leaf).key.toList := by
  rw [toList_key]
  intro hmem
  rcases List.mem_append.1 hmem with hmem | hmem
  · obtain ⟨segment, hsegment, hnul⟩ := List.mem_flatMap.1 hmem
    obtain ⟨name, -, rfl⟩ := List.mem_map.1 hsegment
    rcases List.mem_append.1 hnul with hnul | hnul
    · exact absurd (isRest_of_mem_sanitize hnul) (by decide)
    · exact absurd (List.mem_singleton.1 hnul) (by decide)
  · revert hmem
    change '\x00' ∉ leaf.text.toList
    cases leaf <;> decide

theorem slash_not_mem_leaf (leaf : Leaf) : '/' ∉ leaf.text.toList := by
  cases leaf <;> decide

theorem leaf_text_injective {leaf other : Leaf} (h : leaf.text = other.text) : leaf = other := by
  cases leaf <;> cases other <;> first | rfl | exact absurd h (by decide)

theorem append_separator_injective {c : Char} {xs ys as bs : List Char} (hx : c ∉ xs) (hy : c ∉ ys)
    (h : xs ++ c :: as = ys ++ c :: bs) : xs = ys ∧ as = bs := by
  induction xs generalizing ys with
  | nil =>
    cases ys with
    | nil => exact ⟨rfl, (List.cons.inj h).2⟩
    | cons y ys => exact absurd (List.mem_cons.2 (.inl (List.cons.inj h).1)) hy
  | cons x xs ih =>
    cases ys with
    | nil => exact absurd (List.mem_cons.2 (.inl (List.cons.inj h).1.symm)) hx
    | cons y ys =>
      obtain ⟨hhead, htail⟩ := List.cons.inj h
      obtain ⟨hxs, has⟩ := ih (fun e => hx (List.mem_cons_of_mem _ e))
        (fun e => hy (List.mem_cons_of_mem _ e)) htail
      exact ⟨by rw [hhead, hxs], has⟩

theorem keyChars_injective {xs ys : List String} {leaf other : Leaf}
    (hx : ∀ x ∈ xs, '/' ∉ x.toList) (hy : ∀ y ∈ ys, '/' ∉ y.toList)
    (h : keyChars xs leaf = keyChars ys other) : xs = ys ∧ leaf = other := by
  -- A key goes on with a segment where it holds a slash, and with its leaf where it does not.
  induction xs generalizing ys with
  | nil =>
    cases ys with
    | nil => exact ⟨rfl, leaf_text_injective (String.toList_injective h)⟩
    | cons y ys =>
      have hslash : '/' ∈ leaf.text.toList := by
        simp only [keyChars, List.flatMap_nil, List.nil_append] at h
        simp [h]
      exact absurd hslash (slash_not_mem_leaf leaf)
  | cons x xs ih =>
    cases ys with
    | nil =>
      have hslash : '/' ∈ other.text.toList := by
        simp only [keyChars, List.flatMap_nil, List.nil_append] at h
        simp [← h]
      exact absurd hslash (slash_not_mem_leaf other)
    | cons y ys =>
      have hsplit : x.toList ++ '/' :: keyChars xs leaf = y.toList ++ '/' :: keyChars ys other := by
        simpa [keyChars] using h
      obtain ⟨hhead, htail⟩ := append_separator_injective (hx x (by simp)) (hy y (by simp)) hsplit
      obtain ⟨hrest, hleaf⟩ := ih (fun z hz => hx z (List.mem_cons_of_mem _ hz))
        (fun z hz => hy z (List.mem_cons_of_mem _ hz)) htail
      rw [String.toList_injective hhead, hrest]
      exact ⟨rfl, hleaf⟩

/-- Paths without slashes in their segments have different keys. -/
theorem key_injective {path other : Path} (hpath : path.Plain) (hother : other.Plain)
    (h : path.key = other.key) : path = other := by
  have hchars := congrArg String.toList h
  rw [toList_key, toList_key] at hchars
  obtain ⟨hsegments, hleaf⟩ := keyChars_injective hpath hother hchars
  cases path
  cases other
  simp_all

/-! ## Places below names -/

/-- The path leads through the given names, in either spelling. -/
def Under (names : List String) (path : Path) : Prop :=
  names.map Name.sanitize <+: path.segments

theorem under_of_eq_below {names : List String} {leaf : Leaf} {path : Path}
    (h : path = below names leaf) : Under names path := by
  rw [h]
  exact List.prefix_refl _

theorem Under.of_append {names more : List String} {path : Path} (h : Under (names ++ more) path) :
    Under names path := by
  unfold Under at h ⊢
  rw [List.map_append] at h
  exact (List.prefix_append _ _).trans h

theorem Under.sanitize_eq {names : List String} {a b : String} {path : Path}
    (ha : Under (names ++ [a]) path) (hb : Under (names ++ [b]) path) :
    Name.sanitize a = Name.sanitize b := by
  unfold Under at ha hb
  have hprefix := List.prefix_of_prefix_length_le ha hb (by simp)
  have heq := hprefix.eq_of_length (by simp)
  simpa using heq

theorem not_under_below (names : List String) (a : String) (leaf : Leaf) :
    ¬ Under (names ++ [a]) (below names leaf) := by
  intro h
  have hlength := h.length_le
  simp only [below, List.length_map, List.length_append, List.length_singleton] at hlength
  omega

end Path

/-! ## Writing at one place -/

theorem fullKey_injective {space key other : String}
    (h : Database.fullKey space key = Database.fullKey space other) : key = other := by
  unfold Database.fullKey at h
  split at h
  · exact h
  · exact String.append_right_inj _ |>.1 h

namespace Store

/-- Nothing is found at any place. -/
def Vacant (store : Store) : Prop := ∀ path, store.find path = .ok none

theorem vacant_empty : Vacant empty := fun _ => rfl

theorem vacant_database (version : Option String) (space : String) :
    Vacant (.database ⟨[], version⟩ space) := fun _ => rfl

theorem find_put_of_ne (store : Store) {path other : Path} (value : Json)
    (h : other.key ≠ path.key) : (store.put path value).find other = store.find other := by
  cases store with
  | memory entries =>
    simp only [put, find, Dictionary.find?_insert_of_ne _ _ h]
  | database db space =>
    have hfull : Database.fullKey space other.key ≠ Database.fullKey space path.key :=
      fun e => h (fullKey_injective e)
    simp only [put, find, Database.find?, Database.write,
      Dictionary.find?_insert_of_ne _ _ hfull]

/-- Writing at one place leaves every other place as it was, in memory and in a database. -/
theorem find_save_of_ne {α : Type} (codec : Json.Codec α) (store : Store) {path other : Path}
    (value : α) (hpath : path.Plain) (hother : other.Plain) (h : other ≠ path) :
    (store.save codec path value).find other = store.find other :=
  store.find_put_of_ne _ fun e => h (Path.key_injective hother hpath e)

/-- It does not matter which of two places is written first. -/
theorem save_comm {α : Type} (codec : Json.Codec α) (store : Store) {path other : Path}
    (value value' : α) (h : path.key ≠ other.key) :
    (store.save codec path value).save codec other value' =
      (store.save codec other value').save codec path value := by
  cases store with
  | memory entries =>
    simp only [save, put, Dictionary.insert_comm h]
  | database db space =>
    have hfull : Database.fullKey space path.key ≠ Database.fullKey space other.key :=
      fun e => h (fullKey_injective e)
    simp only [save, put, Database.write, Dictionary.insert_comm hfull]

theorem load_of_find {α : Type} (codec : Json.Codec α) {store : Store} {path : Path}
    (h : store.find path = .ok none) : store.load codec path = .ok none := by
  simp only [load, h]

end Store

end CatalogGraph.Cache
