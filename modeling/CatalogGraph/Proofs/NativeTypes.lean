import CatalogGraph.Proofs.SmallLetters
import CatalogGraph.Schema.NativeType

/-!
# Array types

The element type of an array type is the text between the opening and the last closing parenthesis,
and it means inside the array what it means alone: that it has been trimmed and lowercased with the
array does not matter (`outputOfChars_of_opens`). So the output type of a column has one list for
each level of arrays around a type that is no array (`output_exact`).

White space and the case of ASCII letters do not matter, and neither does anything behind the last
closing parenthesis. An array type that is not closed reaches to its end.
-/

namespace CatalogGraph.NativeType

open Text

variable {mark : Char} {cs ds rest : List Char} {native outer core x : String} {n : Nat}

/-! ## First and last marks -/

theorem afterFirst_append (h : mark ∉ cs) (rest : List Char) :
    afterFirst mark (cs ++ mark :: rest) = rest := by
  have hcs : ∀ c ∈ cs, decide (c ≠ mark) = true :=
    fun c hc => decide_eq_true fun e => h (e ▸ hc)
  rw [afterFirst, List.dropWhile_append_of_pos hcs, List.dropWhile_cons_of_neg (by simp)]
  rfl

theorem beforeLast_of_not_mem (h : mark ∉ cs) : beforeLast mark cs = cs := by
  rw [beforeLast, if_neg (by simpa using h)]

theorem beforeLast_append (cs : List Char) (h : mark ∉ rest) :
    beforeLast mark (cs ++ mark :: rest) = cs := by
  have hrest : ∀ c ∈ rest.reverse, decide (c ≠ mark) = true :=
    fun c hc => decide_eq_true fun e => h (e ▸ List.mem_reverse.1 hc)
  rw [beforeLast, if_pos (by simp), List.reverse_append, List.reverse_cons, List.append_assoc,
    List.dropWhile_append_of_pos hrest, List.singleton_append,
    List.dropWhile_cons_of_neg (by simp), List.drop_one, List.tail_cons, List.reverse_reverse]

theorem exists_last_of_mem (h : mark ∈ cs) :
    ∃ front rest, cs = front ++ mark :: rest ∧ mark ∉ rest := by
  obtain ⟨rest, front, hsplit, hrest⟩ := List.eq_append_cons_of_mem (List.mem_reverse.2 h)
  refine ⟨front.reverse, rest.reverse, ?_, fun hmem => hrest (List.mem_reverse.1 hmem)⟩
  rw [← List.reverse_reverse cs, hsplit]
  simp

/-! ## Normal forms -/

theorem isBoundary_open : isBoundary '(' = true := by decide

theorem isBoundary_close : isBoundary ')' = true := by decide

theorem normal_normal (cs : List Char) : normal (normal cs) = normal cs := by
  rw [normal, normal, trimChars_lowerFrom, trimChars_trimChars, lowerFrom_lowerFrom]

theorem trimStartChars_append_open (front rest : List Char) :
    trimStartChars (front ++ '(' :: rest) = trimStartChars front ++ '(' :: rest := by
  have hopen : trimStartChars ('(' :: rest) = '(' :: rest :=
    List.dropWhile_cons_of_neg (by decide)
  refine List.dropWhile_append.trans ?_
  split
  · rename_i hempty
    rw [trimStartChars, List.isEmpty_iff.1 hempty]
    exact hopen
  · rfl

/-- An opening parenthesis keeps the texts on its two sides apart. -/
theorem normal_append_open (front rest : List Char) :
    normal (front ++ '(' :: rest) =
      lowerFrom [] (trimStartChars front) ++ '(' :: lowerFrom [] (trimEndChars rest) := by
  rw [normal, trimChars, trimStartChars_append_open,
    trimEndChars_append_of_not_blank (by decide), lowerFrom_append_boundary isBoundary_open]

theorem beforeLast_lowerFrom (cs : List Char) :
    beforeLast ')' (lowerFrom [] cs) = lowerFrom [] (beforeLast ')' cs) := by
  have hkeeps {before ds : List Char} (h : ')' ∉ ds) : ')' ∉ lowerFrom before ds :=
    fun hmem => h (mem_of_mem_lowerFrom (by decide) (by decide) hmem)
  by_cases h : ')' ∈ cs
  · obtain ⟨front, rest, rfl, hrest⟩ := exists_last_of_mem h
    rw [lowerFrom_append_boundary isBoundary_close, beforeLast_append _ (hkeeps hrest),
      beforeLast_append _ hrest]
  · rw [beforeLast_of_not_mem (hkeeps h), beforeLast_of_not_mem h]

/-- White space behind the last closing parenthesis does not matter. -/
theorem trimChars_beforeLast_trimEndChars (cs : List Char) :
    trimChars (beforeLast ')' (trimEndChars cs)) = trimChars (beforeLast ')' cs) := by
  have hkeeps {ds : List Char} (h : ')' ∉ ds) : ')' ∉ trimEndChars ds :=
    fun hmem => h ((List.rdropWhile_prefix isBlank ds).subset hmem)
  by_cases h : ')' ∈ cs
  · obtain ⟨front, rest, rfl, hrest⟩ := exists_last_of_mem h
    rw [trimEndChars_append_of_not_blank (by decide), beforeLast_append _ (hkeeps hrest),
      beforeLast_append _ hrest]
  · rw [beforeLast_of_not_mem (hkeeps h), beforeLast_of_not_mem h, trimChars_trimEndChars]

/-- The parameters of a normal form are the normal form of what stands between the parentheses. -/
theorem parameters_normal (h : '(' ∉ cs) (rest : List Char) :
    parameters (normal (cs ++ '(' :: rest)) = normal (beforeLast ')' rest) := by
  have hfront : '(' ∉ lowerFrom [] (trimStartChars cs) := fun hmem =>
    h ((List.dropWhile_suffix isBlank).subset (mem_of_mem_lowerFrom (by decide) (by decide) hmem))
  calc parameters (normal (cs ++ '(' :: rest))
      = trimChars (beforeLast ')' (lowerFrom [] (trimEndChars rest))) := by
        rw [parameters, normal_append_open, afterFirst_append hfront]
    _ = lowerFrom [] (trimChars (beforeLast ')' (trimEndChars rest))) := by
        rw [beforeLast_lowerFrom, trimChars_lowerFrom]
    _ = normal (beforeLast ')' rest) := by
        rw [trimChars_beforeLast_trimEndChars, normal]

/-! ## Where an array type starts -/

/-- The text starts an array type: white space, the word in any ASCII case, an opening parenthesis,
and then the `rest`. -/
def Opens (cs rest : List Char) : Prop :=
  ∃ blanks word, cs = blanks ++ word ++ '(' :: rest ∧ (∀ c ∈ blanks, isBlank c = true) ∧
    word.map Char.toLower = ['a', 'r', 'r', 'a', 'y']

theorem not_open_mem {blanks word : List Char} (hblanks : ∀ c ∈ blanks, isBlank c = true)
    (hword : word.map Char.toLower = ['a', 'r', 'r', 'a', 'y']) : '(' ∉ blanks ++ word := by
  rw [List.mem_append]
  rintro (hmem | hmem)
  · exact absurd (hblanks '(' hmem) (by decide)
  · have hlower := List.mem_map_of_mem (f := Char.toLower) hmem
    rw [hword] at hlower
    exact absurd hlower (by decide)

theorem afterFirst_of_opens (h : Opens cs rest) : afterFirst '(' cs = rest := by
  obtain ⟨blanks, word, rfl, hblanks, hword⟩ := h
  exact afterFirst_append (not_open_mem hblanks hword) rest

theorem isPrefixOf_normal_of_opens (h : Opens cs rest) :
    arrayHead.isPrefixOf (normal cs) = true := by
  obtain ⟨blanks, word, rfl, hblanks, hword⟩ := h
  have hascii : ∀ c ∈ word, c.toNat < 0x80 := fun c hc => by
    have hlower := List.mem_map_of_mem (f := Char.toLower) hc
    have hall : (['a', 'r', 'r', 'a', 'y'].all fun c => c.toNat < 0x80) = true := by decide
    rw [hword] at hlower
    exact toNat_toLower_lt_iff.1 (of_decide_eq_true (List.all_eq_true.1 hall _ hlower))
  have hstart : trimStartChars (blanks ++ word) = word := by
    cases word with
    | nil => cases hword
    | cons a letters =>
      have ha : isBlank a = false := by
        rw [← isBlank_toLower (hascii a List.mem_cons_self), (List.cons.inj hword).1]
        decide
      rw [trimStartChars, List.dropWhile_append_of_pos hblanks,
        List.dropWhile_cons_of_neg (by simp [ha])]
  rw [normal_append_open, hstart, lowerFrom_of_ascii hascii, hword, List.isPrefixOf_iff_prefix]
  exact ⟨_, rfl⟩

theorem exists_opens_of_isPrefixOf_normal (h : arrayHead.isPrefixOf (normal cs) = true) :
    ∃ rest, Opens cs rest := by
  have hstarts : arrayHead <+: lowerFrom [] (trimChars cs) := List.isPrefixOf_iff_prefix.1 h
  have hplain : arrayHead.all isPlain = true := by decide
  obtain ⟨spelling, inner, htrimmed, hspelling⟩ :=
    exists_spelling_of_prefix_lowerFrom (List.all_eq_true.1 hplain) hstarts
  have hhead : arrayHead = ['a', 'r', 'r', 'a', 'y'] ++ ['('] := rfl
  rw [hhead, List.map_eq_append_iff] at hspelling
  obtain ⟨word, last, rfl, hword, hlast⟩ := hspelling
  obtain ⟨c, rfl, hopen⟩ := List.map_eq_singleton_iff.1 hlast
  obtain rfl := (toLower_eq_paren c).1 hopen
  -- The text is what has been trimmed with the white space on both sides.
  obtain ⟨junk, hend⟩ := List.rdropWhile_prefix isBlank (trimStartChars cs)
  have hsplit : cs = cs.takeWhile isBlank ++ (trimChars cs ++ junk) := by
    rw [trimChars]
    exact (List.takeWhile_append_dropWhile.symm).trans (congrArg _ hend.symm)
  refine ⟨inner ++ junk, cs.takeWhile isBlank, word, ?_, fun c => List.mem_takeWhile_imp, hword⟩
  rw [htrimmed] at hsplit
  simpa using hsplit

/-! ## One level -/

theorem outputOfChars_eq (cs : List Char) :
    outputOfChars cs =
      if arrayHead.isPrefixOf (normal cs) then .list (outputOfChars (parameters (normal cs)))
      else if mapHead.isPrefixOf (normal cs) then .list (.object keyValueName)
      else if decimalHead.isPrefixOf (normal cs) then .scalar .string
      else .scalar (scalar (String.ofList (normal cs))) := by
  rw [outputOfChars]
  rfl

theorem outputOfChars_normal (cs : List Char) : outputOfChars (normal cs) = outputOfChars cs := by
  rw [outputOfChars_eq, normal_normal, ← outputOfChars_eq]

/-- The output type of an array type is the list of that of the text between its parentheses. -/
theorem outputOfChars_of_opens (h : Opens cs rest) :
    outputOfChars cs = .list (outputOfChars (beforeLast ')' rest)) := by
  rw [outputOfChars_eq, if_pos (isPrefixOf_normal_of_opens h)]
  obtain ⟨blanks, word, rfl, hblanks, hword⟩ := h
  rw [parameters_normal (not_open_mem hblanks hword), outputOfChars_normal]

/-- The element type of an array type, which may have anything behind its closing parenthesis, or
no closing parenthesis. -/
inductive Element : String → String → Prop where
  | closed (before head x after : String) (hbefore : before.toList.all isBlank = true)
      (hhead : asciiLower head = "array(") (hafter : ')' ∉ after.toList) :
      Element (before ++ head ++ x ++ ")" ++ after) x
  | unclosed (before head x : String) (hbefore : before.toList.all isBlank = true)
      (hhead : asciiLower head = "array(") (hx : ')' ∉ x.toList) :
      Element (before ++ head ++ x) x

theorem opens_of_spelling {before head : String} (hbefore : before.toList.all isBlank = true)
    (hhead : asciiLower head = "array(") (rest : List Char) :
    Opens (before.toList ++ head.toList ++ rest) rest := by
  have hspelling : head.toList.map Char.toLower = ['a', 'r', 'r', 'a', 'y'] ++ ['('] := by
    rw [← String.toList_ofList (l := head.toList.map Char.toLower)]
    exact congrArg String.toList hhead
  obtain ⟨word, last, hsplit, hword, hlast⟩ := List.map_eq_append_iff.1 hspelling
  obtain ⟨c, rfl, hopen⟩ := List.map_eq_singleton_iff.1 hlast
  obtain rfl := (toLower_eq_paren c).1 hopen
  exact ⟨before.toList, word, by simp [hsplit], by simpa using hbefore, hword⟩

theorem element_iff :
    Element outer x ↔ ∃ rest, Opens outer.toList rest ∧ x.toList = beforeLast ')' rest := by
  constructor
  · rintro (⟨_, _, _, after, hbefore, hhead, hafter⟩ | ⟨_, _, _, hbefore, hhead, hx⟩)
    · refine ⟨x.toList ++ ')' :: after.toList, ?_, (beforeLast_append _ hafter).symm⟩
      simpa using opens_of_spelling hbefore hhead (x.toList ++ ')' :: after.toList)
    · refine ⟨x.toList, ?_, (beforeLast_of_not_mem hx).symm⟩
      simpa using opens_of_spelling hbefore hhead x.toList
  · rintro ⟨rest, ⟨blanks, word, houter, hblanks, hword⟩, hx⟩
    have hbefore : (String.ofList blanks).toList.all isBlank = true := by simpa using hblanks
    have hhead : asciiLower (String.ofList (word ++ ['('])) = "array(" := by
      rw [asciiLower, String.toList_ofList, List.map_append, hword]
      rfl
    by_cases h : ')' ∈ rest
    · obtain ⟨front, after, rfl, hafter⟩ := exists_last_of_mem h
      rw [beforeLast_append _ hafter] at hx
      have hsplit : outer = String.ofList blanks ++ String.ofList (word ++ ['(']) ++ x ++ ")" ++
          String.ofList after := String.toList_inj.1 (by simp [houter, hx])
      rw [hsplit]
      exact .closed _ _ _ _ hbefore hhead (by simpa using hafter)
    · rw [beforeLast_of_not_mem h] at hx
      have hsplit : outer = String.ofList blanks ++ String.ofList (word ++ ['(']) ++ x :=
        String.toList_inj.1 (by simp [houter, hx])
      rw [hsplit]
      exact .unclosed _ _ _ hbefore hhead (hx ▸ h)

theorem Element.output (h : Element outer x) : output outer = .list (output x) := by
  obtain ⟨rest, hopens, hx⟩ := element_iff.1 h
  rw [NativeType.output, NativeType.output, outputOfChars_of_opens hopens, hx]

theorem Element.unique {y : String} (hx : Element outer x) (hy : Element outer y) : x = y := by
  obtain ⟨rest, hopens, hx⟩ := element_iff.1 hx
  obtain ⟨others, hothers, hy⟩ := element_iff.1 hy
  rw [← afterFirst_of_opens hothers, afterFirst_of_opens hopens, ← hx] at hy
  exact (String.toList_inj.1 hy).symm

theorem Element.count_lt (h : Element outer x) :
    x.toList.count '(' < outer.toList.count '(' := by
  obtain ⟨rest, ⟨blanks, word, houter, -, -⟩, hx⟩ := element_iff.1 h
  have hle := (beforeLast_sublist ')' rest).count_le '('
  rw [hx, houter, List.count_append, List.count_cons_self]
  omega

theorem isPrefixOf_normal_iff :
    arrayHead.isPrefixOf (normal outer.toList) = true ↔ ∃ x, Element outer x := by
  constructor
  · intro h
    obtain ⟨rest, hopens⟩ := exists_opens_of_isPrefixOf_normal h
    exact ⟨String.ofList (beforeLast ')' rest), element_iff.2 ⟨rest, hopens, by simp⟩⟩
  · rintro ⟨x, h⟩
    obtain ⟨rest, hopens, -⟩ := element_iff.1 h
    exact isPrefixOf_normal_of_opens hopens

/-! ## All levels -/

/-- The type below a number of lists. -/
def lists : Nat → OutputType → OutputType
  | 0, type => type
  | n + 1, type => .list (lists n type)

theorem lists_list (n : Nat) (type : OutputType) : lists n (.list type) = lists (n + 1) type := by
  induction n with
  | zero => rfl
  | succ n ih =>
    rw [lists, ih]
    rfl

@[simp]
theorem objectName?_lists (n : Nat) (type : OutputType) :
    (lists n type).objectName? = type.objectName? := by
  induction n with
  | zero => rfl
  | succ n ih => exact ih

/-- The texts on both sides of the element type of an array type. -/
structure ArrayLevel where
  before : String
  head : String
  after : String
  before_blank : before.toList.all isBlank = true
  head_spelled : asciiLower head = "array("
  after_blank : after.toList.all isBlank = true

/-- The array type with the element type. -/
def ArrayLevel.around (level : ArrayLevel) (x : String) : String :=
  level.before ++ level.head ++ x ++ ")" ++ level.after

theorem ArrayLevel.element (level : ArrayLevel) (x : String) : Element (level.around x) x := by
  refine .closed _ _ _ _ level.before_blank level.head_spelled fun h => ?_
  exact absurd (List.all_eq_true.1 level.after_blank ')' h) (by decide)

theorem output_foldr_around (levels : List ArrayLevel) (x : String) :
    output (levels.foldr ArrayLevel.around x) = lists levels.length (output x) := by
  induction levels with
  | nil => rfl
  | cons level others ih =>
    rw [List.foldr_cons, (level.element _).output, ih, List.length_cons, lists]

/-- Below `n` array levels the type is `core`, which is no array type. -/
inductive Strips : String → Nat → String → Prop where
  | bare {core : String} (h : ∀ x, ¬ Element core x) : Strips core 0 core
  | level {outer x core : String} {n : Nat} (helement : Element outer x) (h : Strips x n core) :
      Strips outer (n + 1) core

theorem Strips.output (h : Strips native n core) : output native = lists n (output core) := by
  induction h with
  | bare h => rfl
  | level helement _ ih => rw [helement.output, ih, lists]

theorem Strips.unique {m : Nat} {other : String} (h : Strips native n core)
    (hother : Strips native m other) : m = n ∧ other = core := by
  induction h generalizing m with
  | bare h =>
    cases hother with
    | bare => exact ⟨rfl, rfl⟩
    | level helement => exact absurd helement (h _)
  | level helement _ ih =>
    cases hother with
    | bare h => exact absurd helement (h _)
    | level hothers hrest =>
      obtain rfl := helement.unique hothers
      obtain ⟨rfl, rfl⟩ := ih hrest
      exact ⟨rfl, rfl⟩

/-- Each level has an opening parenthesis, so the levels come to an end. -/
theorem exists_strips (native : String) : ∃ n core, Strips native n core := by
  induction hcount : native.toList.count '(' using Nat.strongRecOn generalizing native with
  | ind count ih =>
    by_cases h : ∃ x, Element native x
    · obtain ⟨x, helement⟩ := h
      obtain ⟨n, core, hstrips⟩ := ih _ (hcount ▸ helement.count_lt) x rfl
      exact ⟨n + 1, core, .level helement hstrips⟩
    · exact ⟨0, native, .bare fun x helement => h ⟨x, helement⟩⟩

theorem Strips.no_element (h : Strips native n core) (x : String) : ¬ Element core x := by
  induction h with
  | bare h => exact h x
  | level _ _ ih => exact ih

/-! ## Types that are no arrays -/

theorem toList_lower_trim (native : String) :
    (lower (trim native)).toList = normal native.toList := by
  rw [lower, trim, String.toList_ofList, String.toList_ofList, normal]

/-- A type that is no array is a map or a scalar. -/
theorem output_of_no_element (h : ∀ x, ¬ Element core x) :
    ("map(".toList <+: (lower (trim core)).toList ∧ output core = .list (.object keyValueName)) ∨
      (¬ "map(".toList <+: (lower (trim core)).toList ∧ ∃ kind, output core = .scalar kind) := by
  have harray : ¬ arrayHead.isPrefixOf (normal core.toList) = true :=
    fun hstarts => (isPrefixOf_normal_iff.1 hstarts).elim h
  have hmap : "map(".toList = mapHead := rfl
  rw [toList_lower_trim, hmap, ← List.isPrefixOf_iff_prefix, output, outputOfChars_eq,
    if_neg harray]
  by_cases hstarts : mapHead.isPrefixOf (normal core.toList) = true
  · exact .inl ⟨hstarts, if_pos hstarts⟩
  · rw [if_neg hstarts]
    refine .inr ⟨hstarts, ?_⟩
    split
    · exact ⟨_, rfl⟩
    · exact ⟨_, rfl⟩

theorem usesKeyValue_of_no_element (h : ∀ x, ¬ Element core x) :
    (output core).usesKeyValue = true ↔ "map(".toList <+: (lower (trim core)).toList := by
  rcases output_of_no_element h with ⟨hstarts, houtput⟩ | ⟨hstarts, kind, houtput⟩
  · rw [houtput]
    exact ⟨fun _ => hstarts, fun _ => by decide⟩
  · rw [houtput]
    exact ⟨fun huses => absurd huses (by simp [OutputType.usesKeyValue, OutputType.objectName?]),
      fun hmap => absurd hmap hstarts⟩

theorem exists_leaf (native : String) :
    ∃ n leaf, output native = lists n leaf ∧
      ((∃ kind, leaf = .scalar kind) ∨ leaf = .object keyValueName) := by
  obtain ⟨n, core, h⟩ := exists_strips native
  rcases output_of_no_element h.no_element with ⟨-, houtput⟩ | ⟨-, kind, houtput⟩
  · exact ⟨n + 1, .object keyValueName, by rw [h.output, houtput, lists_list], .inr rfl⟩
  · exact ⟨n, .scalar kind, by rw [h.output, houtput], .inl ⟨kind, rfl⟩⟩

/-- An array type around a text, spelled in any ASCII case and with white space around it, is the
list of what the text is, and so are any number of levels of them. Every output type is a chain of
lists that ends in a scalar or in the object type of map entries. Every column type has one number
of array levels and one type below them, and it uses the object type of map entries exactly when
that type, trimmed and lowercased, starts as a map. -/
theorem output_exact :
    (∀ (level : ArrayLevel) (x : String), output (level.around x) = .list (output x)) ∧
    (∀ (levels : List ArrayLevel) (x : String),
      output (levels.foldr ArrayLevel.around x) = lists levels.length (output x)) ∧
    (∀ native, ∃ n leaf, output native = lists n leaf ∧
      ((∃ kind, leaf = .scalar kind) ∨ leaf = .object keyValueName)) ∧
    (∀ native, ∃! stripped : Nat × String, Strips native stripped.1 stripped.2) ∧
    (∀ {native core : String} {n : Nat}, Strips native n core →
      output native = lists n (output core) ∧
      ((output native).usesKeyValue = true ↔
        "map(".toList <+: (lower (trim core)).toList)) := by
  refine ⟨fun level x => (level.element x).output, output_foldr_around, exists_leaf, ?_, ?_⟩
  · intro native
    obtain ⟨n, core, h⟩ := exists_strips native
    refine ⟨(n, core), h, fun other hother => ?_⟩
    obtain ⟨hn, hcore⟩ := h.unique hother
    exact Prod.ext hn hcore
  · intro native core n h
    refine ⟨h.output, ?_⟩
    rw [← usesKeyValue_of_no_element h.no_element, h.output, OutputType.usesKeyValue,
      objectName?_lists, OutputType.usesKeyValue]

/-- Two array levels around a map, the outer one with a word behind it. -/
theorem output_exact_nested_map :
    let inner := "\t" ++ "Array(" ++ " Map(varchar, ΟΔΟΣ)" ++ ")" ++ " "
    let native := " " ++ "ARRAY(" ++ inner ++ ")" ++ " x"
    Strips native 2 " Map(varchar, ΟΔΟΣ)" ∧
      output native = lists 2 (output " Map(varchar, ΟΔΟΣ)") ∧
      (output native).usesKeyValue = true := by
  intro inner native
  have hinner : Element inner " Map(varchar, ΟΔΟΣ)" :=
    .closed "\t" "Array(" _ " " (by decide) (by decide) (by decide)
  have hnative : Element native inner :=
    .closed " " "ARRAY(" _ " x" (by decide) (by decide) (by decide)
  have hmap : ∀ x, ¬ Element " Map(varchar, ΟΔΟΣ)" x := fun x helement =>
    absurd (isPrefixOf_normal_iff.2 ⟨x, helement⟩) (by decide +kernel)
  have hstrips : Strips native 2 " Map(varchar, ΟΔΟΣ)" :=
    .level hnative (.level hinner (.bare hmap))
  obtain ⟨houtput, huses⟩ := output_exact.2.2.2.2 hstrips
  exact ⟨hstrips, houtput, huses.2 (by decide +kernel)⟩

end CatalogGraph.NativeType
