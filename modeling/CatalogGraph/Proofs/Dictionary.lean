import CatalogGraph.Dictionary
import CatalogGraph.Proofs.Sorted
import Mathlib.Data.List.Induction

/-!
# Lookups and order of dictionaries

What a dictionary holds after an insertion, a removal or a choice of keys. A lookup changes at the
inserted key only, the keys stay in ascending order, and a new key is put between the entries that
were there before. Insertions under different keys may change places.
-/

namespace CatalogGraph.Dictionary

variable {α β : Type} {d : Dictionary α} {key other : String} {v value : α}

/-! ## Lookups -/

theorem find?_insert_of_ne (d : Dictionary α) (value : α) (h : other ≠ key) :
    find? (insert d key value) other = find? d other := by
  induction d with
  | nil => simp [insert, find?, Ne.symm h]
  | cons entry rest ih =>
    obtain ⟨k, v⟩ := entry
    unfold insert
    split
    · rename_i heq
      simp [find?, ← heq, Ne.symm h]
    · split
      · simp [find?, Ne.symm h]
      · simp [find?, ih]

@[simp]
theorem find?_insert_self (d : Dictionary α) (key : String) (value : α) :
    find? (insert d key value) key = some value := by
  induction d with
  | nil => simp [insert, find?]
  | cons entry rest ih =>
    obtain ⟨k, v⟩ := entry
    unfold insert
    split
    · simp [find?]
    · rename_i hne
      split
      · simp [find?]
      · simp [find?, Ne.symm hne, ih]

theorem find?_insert (d : Dictionary α) (key : String) (value : α) (other : String) :
    find? (insert d key value) other = if other = key then some value else find? d other := by
  split
  · rename_i heq
    rw [heq, find?_insert_self]
  · rename_i hne
    exact find?_insert_of_ne d value hne

/-- Entries that are kept or removed by their keys. -/
theorem find?_filter (d : Dictionary α) (p : String → Bool) (key : String) :
    find? (d.filter fun entry => p entry.1) key = if p key then find? d key else none := by
  induction d with
  | nil => simp [find?]
  | cons entry rest ih =>
    obtain ⟨k, v⟩ := entry
    by_cases hk : p k = true
    · rw [List.filter_cons, if_pos hk]
      by_cases heq : k = key
      · simp [find?, ← heq, hk]
      · simp [find?, heq, ih]
    · rw [List.filter_cons, if_neg hk, ih]
      by_cases heq : k = key
      · simp [← heq, hk]
      · simp [find?, heq]

/-- What is chosen by the keys does not see an insertion under a key that is not chosen. -/
theorem filter_insert {p : String → Bool} (h : p key = false) (value : α) :
    (insert d key value).filter (fun entry => p entry.1) = d.filter fun entry => p entry.1 := by
  induction d with
  | nil => simp [insert, h]
  | cons entry rest ih =>
    obtain ⟨k, v⟩ := entry
    unfold insert
    split
    · rename_i heq
      simp [← heq, h]
    · split
      · simp [List.filter_cons, h]
      · simp [List.filter_cons, ih]

theorem filter_filter_of_imp {p q : String × α → Bool}
    (h : ∀ entry, p entry = true → q entry = true) : (d.filter q).filter p = d.filter p := by
  rw [List.filter_filter]
  apply List.filter_congr
  intro entry _
  rw [Bool.eq_iff_iff, Bool.and_eq_true]
  exact ⟨fun hpq => hpq.1, fun hp => ⟨hp, h entry hp⟩⟩

theorem find?_erase (d : Dictionary α) (key other : String) :
    find? (erase d key) other = if other = key then none else find? d other := by
  have hfilter := find?_filter d (fun k => decide (k ≠ key)) other
  unfold erase
  by_cases h : other = key
  · simpa [h] using hfilter
  · simpa [h] using hfilter

theorem mem_of_find? (h : find? d key = some v) : (key, v) ∈ d := by
  induction d with
  | nil => simp [find?] at h
  | cons entry rest ih =>
    obtain ⟨k, u⟩ := entry
    unfold find? at h
    split at h
    · rename_i heq
      obtain rfl := Option.some.inj h
      simp [heq]
    · exact List.mem_cons_of_mem _ (ih h)

theorem find?_eq_none_iff : find? d key = none ↔ key ∉ d.keys := by
  induction d with
  | nil => simp [find?, keys]
  | cons entry rest ih =>
    obtain ⟨k, v⟩ := entry
    unfold find?
    split
    · rename_i heq
      simp [keys, heq]
    · rename_i hne
      rw [ih]
      simp [keys, Ne.symm hne]

theorem mem_keys_iff : key ∈ d.keys ↔ ∃ v, find? d key = some v := by
  rw [← Option.isSome_iff_exists, Option.isSome_iff_ne_none, ne_eq, find?_eq_none_iff,
    Decidable.not_not]

/-! ## Order -/

/-- Keys in ascending order, each once. -/
def Ascending (d : Dictionary α) : Prop := d.keys.Pairwise (· < ·)

theorem lt_of_not_lt_of_ne {a b : String} (hlt : ¬ a < b) (hne : a ≠ b) : b < a := by
  have hle : b ≤ a := String.not_lt.1 hlt
  by_cases h : b < a
  · exact h
  · exact absurd (String.le_antisymm (String.not_lt.1 h) hle) hne

theorem perm_insert (value : α) (h : key ∉ d.keys) :
    (insert d key value).Perm ((key, value) :: d) := by
  induction d with
  | nil => exact List.Perm.refl _
  | cons entry rest ih =>
    obtain ⟨k, v⟩ := entry
    simp only [keys, List.map_cons, List.mem_cons, not_or] at h
    unfold insert
    rw [if_neg h.1]
    split
    · exact List.Perm.refl _
    · exact ((ih h.2).cons _).trans (List.Perm.swap _ _ _)

theorem mem_insert {entry : String × α} (h : entry ∈ insert d key value) :
    entry = (key, value) ∨ entry ∈ d := by
  induction d with
  | nil => exact .inl (List.mem_singleton.1 h)
  | cons first rest ih =>
    obtain ⟨k, v⟩ := first
    unfold insert at h
    split at h
    · exact (List.mem_cons.1 h).imp_right (List.mem_cons_of_mem _)
    · split at h
      · exact List.mem_cons.1 h
      · rcases List.mem_cons.1 h with rfl | h
        · exact .inr List.mem_cons_self
        · exact (ih h).imp_right (List.mem_cons_of_mem _)

theorem ascending_cons {rest : Dictionary α} :
    Ascending ((key, v) :: rest) ↔ (∀ k ∈ rest.keys, key < k) ∧ Ascending rest := by
  simp only [Ascending, keys, List.map_cons, List.pairwise_cons]

theorem ascending_insert (value : α) (hd : Ascending d) : Ascending (insert d key value) := by
  induction d with
  | nil => simp [Ascending, insert, keys]
  | cons entry rest ih =>
    obtain ⟨k, v⟩ := entry
    obtain ⟨hhead, hrest⟩ := ascending_cons.1 hd
    unfold insert
    split
    · rename_i heq
      exact ascending_cons.2 ⟨heq ▸ hhead, hrest⟩
    · rename_i hne
      split
      · rename_i hlt
        refine ascending_cons.2 ⟨?_, hd⟩
        intro b hb
        rcases List.mem_cons.1 hb with rfl | hb
        · exact hlt
        · exact String.lt_trans hlt (hhead b hb)
      · rename_i hnlt
        refine ascending_cons.2 ⟨?_, ih hrest⟩
        intro b hb
        obtain ⟨entry, hentry, rfl⟩ := List.mem_map.1 hb
        rcases mem_insert hentry with rfl | hentry
        · exact lt_of_not_lt_of_ne hnlt hne
        · exact hhead _ (List.mem_map_of_mem hentry)

theorem ascending_filter (p : String × α → Bool) (hd : Ascending d) : Ascending (d.filter p) := by
  unfold Ascending keys at hd ⊢
  exact hd.sublist (List.filter_sublist.map Prod.fst)

theorem ascending_erase (key : String) (hd : Ascending d) : Ascending (erase d key) :=
  ascending_filter _ hd

theorem find?_of_mem (hd : Ascending d) (h : (key, v) ∈ d) : find? d key = some v := by
  induction d with
  | nil => simp at h
  | cons entry rest ih =>
    obtain ⟨k, u⟩ := entry
    obtain ⟨hhead, hrest⟩ := ascending_cons.1 hd
    unfold find?
    rcases List.mem_cons.1 h with heq | hmem
    · obtain ⟨rfl, rfl⟩ := Prod.mk.inj heq
      simp
    · have hlt : k < key := hhead key (List.mem_map_of_mem hmem)
      have hne : k ≠ key := by
        rintro rfl
        exact String.lt_irrefl k hlt
      rw [if_neg hne]
      exact ih hrest hmem

theorem insert_eq_append (h : ∀ k ∈ d.keys, k < key) (value : α) :
    insert d key value = d ++ [(key, value)] := by
  induction d with
  | nil => rfl
  | cons entry rest ih =>
    obtain ⟨k, v⟩ := entry
    have hlt : k < key := h k List.mem_cons_self
    have hne : key ≠ k := by
      rintro rfl
      exact String.lt_irrefl key hlt
    have hnot : ¬ key < k := fun h => String.lt_irrefl k (String.lt_trans hlt h)
    unfold insert
    rw [if_neg hne, if_neg hnot, ih fun k' hk' => h k' (List.mem_cons_of_mem _ hk')]
    rfl

theorem insert_eq_cons (h : ∀ k ∈ d.keys, key < k) (value : α) :
    insert d key value = (key, value) :: d := by
  cases d with
  | nil => rfl
  | cons entry rest =>
    obtain ⟨k, v⟩ := entry
    have hlt : key < k := h k List.mem_cons_self
    have hne : key ≠ k := by
      rintro rfl
      exact String.lt_irrefl key hlt
    rw [insert, if_neg hne, if_pos hlt]

/-- What is chosen by the keys sees an insertion under a key that is chosen. -/
theorem filter_insert_of_pos {p : String → Bool} (hd : Ascending d) (h : p key = true)
    (value : α) : (insert d key value).filter (fun entry => p entry.1) =
      insert (d.filter fun entry => p entry.1) key value := by
  induction d with
  | nil => simp [insert, h]
  | cons entry rest ih =>
    obtain ⟨k, v⟩ := entry
    obtain ⟨hhead, hrest⟩ := ascending_cons.1 hd
    rw [insert]
    by_cases heq : key = k
    · subst heq
      simp [insert, h]
    by_cases hlt : key < k
    · have hbefore : ∀ k' ∈ keys (((k, v) :: rest).filter fun entry => p entry.1), key < k' := by
        intro k' hk'
        obtain ⟨entry, hentry, rfl⟩ := List.mem_map.1 hk'
        rcases List.mem_cons.1 (List.mem_filter.1 hentry).1 with rfl | hmem
        · exact hlt
        · exact String.lt_trans hlt (hhead _ (List.mem_map_of_mem hmem))
      rw [if_neg heq, if_pos hlt, List.filter_cons_of_pos (by simpa using h)]
      exact (insert_eq_cons hbefore value).symm
    · rw [if_neg heq, if_neg hlt]
      by_cases hk : p k = true
      · simp [hk, insert, heq, hlt, ih hrest]
      · simp [hk, ih hrest]

/-- New keys in the same order, and other values, may be given before or after an insertion. -/
theorem map_insert {f : String → String} (hf : ∀ a b, f a < f b ↔ a < b)
    (hinj : ∀ a b, f a = f b → a = b) (g : α → β) (d : Dictionary α) (key : String) (value : α) :
    (insert d key value).map (fun entry => (f entry.1, g entry.2)) =
      insert (d.map fun entry => (f entry.1, g entry.2)) (f key) (g value) := by
  induction d with
  | nil => rfl
  | cons entry rest ih =>
    obtain ⟨k, v⟩ := entry
    rw [insert]
    by_cases heq : key = k
    · simp [insert, heq]
    · have hne : f key ≠ f k := fun e => heq (hinj _ _ e)
      by_cases hlt : key < k
      · simp [insert, heq, hne, hlt, hf]
      · simp [insert, heq, hne, hlt, hf, ih]

theorem insert_comm_of_lt (h : key < other) (v value : α) (d : Dictionary α) :
    insert (insert d key v) other value = insert (insert d other value) key v := by
  have hne : other ≠ key := by
    rintro rfl
    exact String.lt_irrefl other h
  have hnot : ¬ other < key := fun hgt => String.lt_irrefl key (String.lt_trans h hgt)
  induction d with
  | nil => simp [insert, h, hne, hne.symm, hnot]
  | cons entry rest ih =>
    obtain ⟨k, u⟩ := entry
    by_cases heq : key = k
    · subst heq
      simp [insert, hne, hnot]
    by_cases hlt : key < k
    · -- The first key is put in front, whatever becomes of the second one.
      by_cases hotherEq : other = k
      · subst hotherEq
        simp [insert, h, hne, hne.symm, hnot]
      by_cases hotherLt : other < k
      · simp [insert, h, heq, hlt, hne, hne.symm, hnot, hotherEq, hotherLt]
      · simp [insert, heq, hlt, hne, hnot, hotherEq, hotherLt]
    · have hgt : k < other := String.lt_trans (lt_of_not_lt_of_ne hlt heq) h
      have hotherNe : other ≠ k := by
        rintro rfl
        exact String.lt_irrefl other hgt
      have hotherNot : ¬ other < k := fun hlt => String.lt_irrefl k (String.lt_trans hgt hlt)
      simp [insert, heq, hlt, hotherNe, hotherNot, ih]

/-- Insertions under different keys commute. -/
theorem insert_comm (h : key ≠ other) (v value : α) (d : Dictionary α) :
    insert (insert d key v) other value = insert (insert d other value) key v := by
  by_cases hlt : key < other
  · exact insert_comm_of_lt hlt v value d
  · exact (insert_comm_of_lt (lt_of_not_lt_of_ne hlt h) value v d).symm

theorem find?_foldl_insert (entries : List (String × α)) (d : Dictionary α) (key : String) :
    find? (entries.foldl (fun d entry => insert d entry.1 entry.2) d) key =
      ((entries.filter fun entry => entry.1 = key).getLast?.map Prod.snd).or (find? d key) := by
  induction entries generalizing d with
  | nil => simp
  | cons entry rest ih =>
    rw [List.foldl_cons, ih, find?_insert]
    by_cases h : entry.1 = key
    · rw [if_pos h.symm, List.filter_cons_of_pos (by simpa using h), List.getLast?_cons]
      cases (rest.filter fun entry => entry.1 = key).getLast? <;> rfl
    · rw [if_neg (Ne.symm h), List.filter_cons_of_neg (by simpa using h)]

/-- Each insertion replaces what was there, so of several entries with one key the last one counts.
-/
theorem find?_ofList (entries : List (String × α)) (key : String) :
    find? (ofList entries) key =
      (entries.filter fun entry => entry.1 = key).getLast?.map Prod.snd := by
  unfold ofList
  rw [find?_foldl_insert, find?, Option.or_none]

theorem ofList_append_singleton (entries : List (String × α)) (entry : String × α) :
    ofList (entries ++ [entry]) = insert (ofList entries) entry.1 entry.2 := by
  simp [ofList]

theorem ascending_ofList (entries : List (String × α)) : Ascending (ofList entries) := by
  induction entries using List.reverseRecOn with
  | nil => exact List.Pairwise.nil
  | append_singleton entries entry ih =>
    rw [ofList_append_singleton]
    exact ascending_insert entry.2 ih

theorem mem_of_mem_ofList {entries : List (String × α)} {entry : String × α}
    (h : entry ∈ ofList entries) : entry ∈ entries := by
  induction entries using List.reverseRecOn with
  | nil => exact nomatch h
  | append_singleton entries last ih =>
    rw [ofList_append_singleton] at h
    rcases mem_insert h with rfl | h
    · simp
    · exact List.mem_append_left _ (ih h)

/-- Where no key is repeated, no entry is replaced. -/
theorem perm_ofList {entries : List (String × α)} (h : (entries.map Prod.fst).Nodup) :
    (ofList entries).Perm entries := by
  induction entries using List.reverseRecOn with
  | nil => exact List.Perm.refl _
  | append_singleton entries entry ih =>
    rw [List.map_append, List.map_singleton, List.nodup_append] at h
    obtain ⟨hentries, -, hnew⟩ := h
    have hperm := ih hentries
    have hkey : entry.1 ∉ (ofList entries).keys := by
      intro hmem
      have hold : entry.1 ∈ entries.map Prod.fst := (hperm.map Prod.fst).mem_iff.1 hmem
      exact hnew _ hold _ (List.mem_singleton_self _) rfl
    rw [ofList_append_singleton]
    exact ((perm_insert entry.2 hkey).trans (hperm.cons entry)).trans
      (List.perm_append_singleton entry entries).symm

/-- Entries in key order make the dictionary that they are. -/
theorem ofList_eq_self (hd : Ascending d) : ofList d = d := by
  have hfold (front : Dictionary α) (hfront : Ascending (front ++ d)) :
      d.foldl (fun d entry => insert d entry.1 entry.2) front = front ++ d := by
    clear hd
    induction d generalizing front with
    | nil => simp
    | cons entry rest ih =>
      have hlt : ∀ k ∈ front.keys, k < entry.1 := by
        intro k hk
        have hpairs := hfront
        rw [Ascending, keys, List.map_append, List.pairwise_append] at hpairs
        exact hpairs.2.2 k hk entry.1 List.mem_cons_self
      rw [List.foldl_cons, insert_eq_append hlt, ih _ (by simpa using hfront)]
      simp
  exact hfold [] hd

/-- Lists in ascending order are equal where they have the same members. -/
theorem eq_of_ascending {ks ls : List String} (hk : ks.Pairwise (· < ·)) (hl : ls.Pairwise (· < ·))
    (h : ∀ key, key ∈ ks ↔ key ∈ ls) : ks = ls :=
  Sorted.eq_of_pairwise String.lt_irrefl (fun _ _ _ => String.lt_trans) hk hl h

end CatalogGraph.Dictionary
