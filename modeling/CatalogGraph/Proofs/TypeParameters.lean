import CatalogGraph.Joins.Names
import CatalogGraph.Proofs.NativeTypes

/-!
# Parameters of types that are joined

A type may have parameters between its name and a suffix, as in `timestamp(3) with time zone`. They
reach from the first opening to the last closing parenthesis, so whatever they hold, parentheses
included, they do not matter for joins (`isJoinableType_parameters`).

The name ends at a parenthesis, at a space or with the text. All of these end a word, so the name is
lowercased to the same letters with and without the parameters, and no forbidden word reaches beyond
it.
-/

namespace CatalogGraph.Joins

open NativeType Text

/-! ## Parameters cut out -/

/-- A text and what is left of it when its parameters are cut out: they begin at the first opening
parenthesis, and end at the last closing one or, where none follows, with the text. -/
inductive CutsTo : List Char → List Char → Prop where
  | plain {cs : List Char} : '(' ∉ cs → CutsTo cs cs
  | closed {base params suffix : List Char} : '(' ∉ base → ')' ∉ suffix →
      CutsTo (base ++ '(' :: (params ++ ')' :: suffix)) (trimEndChars base ++ suffix)
  | unclosed {base params : List Char} : '(' ∉ base → ')' ∉ params →
      CutsTo (base ++ '(' :: params) (trimEndChars base)

variable {c : Char} {cs word base suffix rest : List Char}

theorem withoutParameters_of_not_mem (h : '(' ∉ cs) : withoutParameters cs = cs := by
  have hcs : ∀ c ∈ cs, decide (c ≠ '(') = true :=
    fun c hc => decide_eq_true fun e => h (e ▸ hc)
  unfold withoutParameters
  rw [List.dropWhile_eq_nil_iff.2 hcs]

theorem afterLastClosing_of_not_mem (h : ')' ∉ cs) : afterLastClosing cs = [] :=
  if_neg (by simpa using h)

theorem afterLastClosing_append (cs : List Char) (h : ')' ∉ rest) :
    afterLastClosing (cs ++ ')' :: rest) = rest := by
  have hrest : ∀ c ∈ rest.reverse, decide (c ≠ ')') = true :=
    fun c hc => decide_eq_true fun e => h (e ▸ List.mem_reverse.1 hc)
  rw [afterLastClosing, if_pos (by simp), List.reverse_append, List.reverse_cons,
    List.append_assoc, List.takeWhile_append_of_pos hrest, List.singleton_append,
    List.takeWhile_cons_of_neg (by simp), List.append_nil, List.reverse_reverse]

theorem withoutParameters_open (hbase : '(' ∉ base) (rest : List Char) :
    withoutParameters (base ++ '(' :: rest) = trimEndChars base ++ afterLastClosing rest := by
  have hopen : ∀ c ∈ base, decide (c ≠ '(') = true :=
    fun c hc => decide_eq_true fun e => hbase (e ▸ hc)
  unfold withoutParameters
  rw [List.dropWhile_append_of_pos hopen, List.dropWhile_cons_of_neg (by simp),
    List.takeWhile_append_of_pos hopen, List.takeWhile_cons_of_neg (by simp), List.append_nil]

theorem withoutParameters_append (hbase : '(' ∉ base) (params : List Char)
    (hsuffix : ')' ∉ suffix) :
    withoutParameters (base ++ '(' :: (params ++ ')' :: suffix)) =
      trimEndChars base ++ suffix := by
  rw [withoutParameters_open hbase, afterLastClosing_append params hsuffix]

theorem exists_cutsTo (cs : List Char) : ∃ left, CutsTo cs left := by
  by_cases hopen : '(' ∈ cs
  · obtain ⟨base, rest, rfl, hbase⟩ := List.eq_append_cons_of_mem hopen
    by_cases hclose : ')' ∈ rest
    · -- The last closing parenthesis is the first one from the end.
      obtain ⟨before, after, hreverse, hbefore⟩ :=
        List.eq_append_cons_of_mem (List.mem_reverse.2 hclose)
      have hrest : rest = after.reverse ++ ')' :: before.reverse := by
        rw [← List.reverse_reverse rest, hreverse]
        simp
      rw [hrest]
      exact ⟨_, .closed hbase (mt List.mem_reverse.1 hbefore)⟩
    · exact ⟨_, .unclosed hbase hclose⟩
  · exact ⟨_, .plain hopen⟩

theorem CutsTo.withoutParameters {left : List Char} (h : CutsTo cs left) :
    withoutParameters cs = left := by
  cases h with
  | plain hopen => exact withoutParameters_of_not_mem hopen
  | closed hbase hsuffix => exact withoutParameters_append hbase _ hsuffix
  | unclosed hbase hparams =>
    rw [withoutParameters_open hbase, afterLastClosing_of_not_mem hparams, List.append_nil]

theorem cutsTo_withoutParameters (cs : List Char) : CutsTo cs (withoutParameters cs) := by
  obtain ⟨left, h⟩ := exists_cutsTo cs
  rwa [h.withoutParameters]

/-! ## Words at the start -/

/-- A word without the character does not reach up to it. -/
theorem isPrefixOf_append_cons (h : c ∉ word) (cs rest : List Char) :
    word.isPrefixOf (cs ++ c :: rest) = word.isPrefixOf cs := by
  rw [Bool.eq_iff_iff, List.isPrefixOf_iff_prefix, List.isPrefixOf_iff_prefix]
  refine ⟨fun hword => ?_, fun hword => hword.trans (List.prefix_append _ _)⟩
  rcases List.prefix_or_prefix_of_prefix hword (List.prefix_append cs (c :: rest)) with
    hshort | ⟨more, rfl⟩
  · exact hshort
  · rw [List.prefix_append_right_inj] at hword
    cases more with
    | nil => simp
    | cons d more =>
      obtain ⟨rfl, -⟩ := List.cons_prefix_cons.1 hword
      exact absurd (by simp) h

/-! ## Suffixes -/

/-- The text is empty or starts with a space. -/
def SetOff (suffix : List Char) : Prop := suffix = [] ∨ ∃ rest, suffix = ' ' :: rest

theorem SetOff.trimEndChars (h : SetOff suffix) : SetOff (trimEndChars suffix) := by
  rcases h with rfl | ⟨rest, rfl⟩
  · exact .inl rfl
  · have hstart : Text.trimEndChars (' ' :: rest) <+: ' ' :: rest :=
      List.rdropWhile_prefix isBlank _
    cases htrimmed : Text.trimEndChars (' ' :: rest) with
    | nil => exact .inl rfl
    | cons d more =>
      rw [htrimmed] at hstart
      obtain ⟨rfl, -⟩ := List.cons_prefix_cons.1 hstart
      exact .inr ⟨more, rfl⟩

theorem SetOff.isPrefixOf_append (h : SetOff suffix) (hword : ' ' ∉ word) (cs : List Char) :
    word.isPrefixOf (cs ++ suffix) = word.isPrefixOf cs := by
  rcases h with rfl | ⟨rest, rfl⟩
  · rw [List.append_nil]
  · exact isPrefixOf_append_cons hword cs rest

theorem SetOff.lowerFrom_append (h : SetOff suffix) (cs : List Char) :
    lowerFrom [] (cs ++ suffix) = lowerFrom [] cs ++ lowerFrom [] suffix := by
  rcases h with rfl | ⟨rest, rfl⟩
  · rw [List.append_nil, lowerFrom, List.append_nil]
  · have hspace : isBoundary ' ' = true := by decide
    rw [lowerFrom_append_boundary hspace, lowerFrom_boundary hspace]

theorem SetOff.lowerFrom (h : SetOff suffix) : SetOff (lowerFrom [] suffix) := by
  rcases h with rfl | ⟨rest, rfl⟩
  · exact .inl rfl
  · exact .inr ⟨_, lowerFrom_boundary (by decide) [] rest⟩

/-! ## Names without white space around them -/

theorem trimStartChars_of_trimmed (h : trimChars cs = cs) : trimStartChars cs = cs := by
  conv_lhs => rw [← h]
  rw [trimChars, trimStartChars_trimEndChars, trimStartChars, trimStartChars,
    List.dropWhile_idempotent]
  exact h

theorem trimEndChars_of_trimmed (h : trimChars cs = cs) : trimEndChars cs = cs := by
  conv_lhs => rw [← h]
  exact (List.rdropWhile_idempotent isBlank _).trans h

theorem trimStartChars_append_of_trimmed (h : trimChars cs = cs) (hne : cs ≠ [])
    (rest : List Char) : trimStartChars (cs ++ rest) = cs ++ rest := by
  have hstart : cs.dropWhile isBlank = cs := trimStartChars_of_trimmed h
  rw [trimStartChars, List.dropWhile_append, hstart, if_neg (by simpa using hne)]

theorem trimEndChars_append_of_trimmed (h : trimChars cs = cs) (rest : List Char) :
    trimEndChars (cs ++ rest) = cs ++ trimEndChars rest := by
  have hend : (cs.reverse.dropWhile isBlank).reverse = cs := trimEndChars_of_trimmed h
  unfold trimEndChars
  rw [List.reverse_append, List.dropWhile_append]
  split
  · rename_i hempty
    rw [hend, List.isEmpty_iff.1 hempty, List.reverse_nil, List.append_nil]
  · rw [List.reverse_append, List.reverse_reverse]

/-- No letter has a parenthesis in its small letters. -/
theorem paren_not_mem_lowerFrom (hc : c = '(' ∨ c = ')') (h : c ∉ cs) : c ∉ lowerFrom [] cs := by
  intro hmem
  rcases hc with rfl | rfl
  · exact h (mem_of_mem_lowerFrom (by decide) (by decide) hmem)
  · exact h (mem_of_mem_lowerFrom (by decide) (by decide) hmem)

theorem normal_append_suffix (hbase : trimChars base = base) (hne : base ≠ [])
    (hsuffix : SetOff suffix) :
    normal (base ++ suffix) = lowerFrom [] base ++ lowerFrom [] (trimEndChars suffix) := by
  rw [normal, trimChars, trimStartChars_append_of_trimmed hbase hne,
    trimEndChars_append_of_trimmed hbase, hsuffix.trimEndChars.lowerFrom_append]

theorem normal_append_parameters (hbase : trimChars base = base) (params suffix : List Char) :
    normal (base ++ '(' :: (params ++ ')' :: suffix)) =
      lowerFrom [] base ++
        '(' :: (lowerFrom [] params ++ ')' :: lowerFrom [] (trimEndChars suffix)) := by
  rw [normal_append_open, trimStartChars_of_trimmed hbase,
    trimEndChars_append_of_not_blank (by decide), lowerFrom_append_boundary isBoundary_close]

/-! ## Types -/

/-- Whether a column of a type in small letters can take part in a join. -/
def joinsSmall (small : List Char) : Bool :=
  !("varchar".toList.isPrefixOf small || "interval".toList.isPrefixOf small) &&
    !unjoinableTypes.contains (String.ofList (trimChars (withoutParameters small)))

theorem isJoinableType_eq (native : String) :
    isJoinableType native = joinsSmall (normal native.toList) := by
  unfold isJoinableType joinsSmall
  rw [toList_lower_trim]
  dsimp only
  split
  · rename_i h
    rw [h]
    rfl
  · rename_i h
    rw [Bool.eq_false_iff.2 h, Bool.not_false, Bool.true_and]

theorem joinsSmall_parameters (hbase : '(' ∉ base) (htrimmed : trimEndChars base = base)
    (params : List Char) (hopen : '(' ∉ suffix) (hclose : ')' ∉ suffix) (hsuffix : SetOff suffix) :
    joinsSmall (base ++ '(' :: (params ++ ')' :: suffix)) = joinsSmall (base ++ suffix) := by
  have hstart {word : List Char} (hparen : '(' ∉ word) (hspace : ' ' ∉ word) (rest : List Char) :
      word.isPrefixOf (base ++ '(' :: rest) = word.isPrefixOf (base ++ suffix) := by
    rw [isPrefixOf_append_cons hparen, hsuffix.isPrefixOf_append hspace]
  have hplain : '(' ∉ base ++ suffix := by simp [hbase, hopen]
  unfold joinsSmall
  rw [hstart (by decide) (by decide), hstart (by decide) (by decide),
    withoutParameters_append hbase params hclose, htrimmed, withoutParameters_of_not_mem hplain]

/-- The parameters of a type do not matter for joins, whatever they hold: the type is treated as
its name with the suffix alone. -/
theorem isJoinableType_parameters {base params suffix : String} (hne : base ≠ "")
    (htrimmed : trim base = base) (hbase : '(' ∉ base.toList) (hopen : '(' ∉ suffix.toList)
    (hclose : ')' ∉ suffix.toList) (hsuffix : suffix = "" ∨ ∃ rest, suffix = " " ++ rest) :
    isJoinableType (base ++ "(" ++ params ++ ")" ++ suffix) =
      isJoinableType (base ++ suffix) := by
  have htrimmedChars : trimChars base.toList = base.toList := by
    rw [← String.toList_ofList (l := trimChars base.toList)]
    exact congrArg String.toList htrimmed
  have hneChars : base.toList ≠ [] := by simpa using hne
  have hsetOff : SetOff suffix.toList := by
    rcases hsuffix with rfl | ⟨rest, rfl⟩
    · exact .inl rfl
    · exact .inr ⟨rest.toList, by simp⟩
  have hsplit : (base ++ "(" ++ params ++ ")" ++ suffix).toList =
      base.toList ++ '(' :: (params.toList ++ ')' :: suffix.toList) := by simp
  have hend {d : Char} (h : d ∉ suffix.toList) : d ∉ trimEndChars suffix.toList :=
    fun hmem => h ((List.rdropWhile_prefix isBlank _).subset hmem)
  have hbaseEnd : trimEndChars (lowerFrom [] base.toList) = lowerFrom [] base.toList := by
    rw [trimEndChars_lowerFrom, trimEndChars_of_trimmed htrimmedChars]
  rw [isJoinableType_eq, isJoinableType_eq, hsplit, String.toList_append,
    normal_append_parameters htrimmedChars, normal_append_suffix htrimmedChars hneChars hsetOff]
  exact joinsSmall_parameters (paren_not_mem_lowerFrom (.inl rfl) hbase) hbaseEnd _
    (paren_not_mem_lowerFrom (.inl rfl) (hend hopen))
    (paren_not_mem_lowerFrom (.inr rfl) (hend hclose)) hsetOff.trimEndChars.lowerFrom

/-- Parameters that hold a type with parameters of its own and a word that is forbidden at the start
of a type, and a name that ends with a capital sigma. -/
theorem isJoinableType_parameters_nested :
    let zone := isJoinableType
      ("TimeStamp" ++ "(" ++ "3) row(a varchar(2" ++ ")" ++ " with time zone ")
    let key := isJoinableType ("ΟΔΟΣ" ++ "(" ++ ")interval(Σ" ++ ")" ++ "")
    zone = isJoinableType ("TimeStamp" ++ " with time zone ") ∧ zone = false ∧
      key = isJoinableType ("ΟΔΟΣ" ++ "") ∧ key = true := by
  intro zone key
  have hzone : zone = isJoinableType ("TimeStamp" ++ " with time zone ") :=
    isJoinableType_parameters (by decide) (by decide +kernel) (by decide) (by decide) (by decide)
      (.inr ⟨"with time zone ", rfl⟩)
  have hkey : key = isJoinableType ("ΟΔΟΣ" ++ "") :=
    isJoinableType_parameters (by decide) (by decide +kernel) (by decide) (by decide) (by decide)
      (.inl rfl)
  exact ⟨hzone, by decide +kernel, hkey, by decide +kernel⟩

end CatalogGraph.Joins
