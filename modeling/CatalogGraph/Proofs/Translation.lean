import CatalogGraph.Proofs.Outcomes
import CatalogGraph.Proofs.SqlLexer
import CatalogGraph.Query.Translation

/-!
# Translation is exact

Filters are translated into a statement and the values of its placeholders. This module says which
filters can be translated, and what a reader of SQL sees in the statement: names that come from
outside stand between quotes, whatever they hold, and values do not stand in it at all.

* `exists_condition_iff`: a filter becomes a condition exactly when it gives one value that is no
  list and names one of the four operators that the engine can be asked for.
* `legible_statement`: neighbouring tokens of a statement are read as two.
* `translate_exact`: when translation succeeds, how its text is read, and which values are bound.
-/

namespace CatalogGraph.Query

open Sql Text

/-! ## What a filter asks -/

namespace Filter

/-- The filter that gives just one value. -/
def giving (field operator : String) : FilterValue → Filter
  | .string s => ⟨field, operator, some s, none, none, none, none, none⟩
  | .int n => ⟨field, operator, none, some n, none, none, none, none⟩
  | .float x => ⟨field, operator, none, none, some x, none, none, none⟩
  | .bool b => ⟨field, operator, none, none, none, some b, none, none⟩
  | .date s => ⟨field, operator, none, none, none, none, some s, none⟩
  | .list items => ⟨field, operator, none, none, none, none, none, some items⟩

/-- How many values a filter gives. -/
def valueCount (f : Filter) : Nat :=
  [f.stringValue.isSome, f.intValue.isSome, f.floatValue.isSome, f.booleanValue.isSome,
    f.dateValue.isSome, f.values.isSome].count true

/-- The name of the operator, without white space around it and in small letters. -/
def operatorName (f : Filter) : String := asciiLower (trim f.operator)

/-- The names of the operators that the engine can be asked for. -/
def askedNames : List String := ["eq", "lt", "gt", "like"]

/-- A filter that can be translated: it gives one value, no list, and names an operator that the
engine can be asked for. -/
def Translatable (f : Filter) : Prop :=
  f.valueCount = 1 ∧ f.values = none ∧ f.operatorName ∈ askedNames

instance (f : Filter) : Decidable f.Translatable := inferInstanceAs (Decidable (_ ∧ _ ∧ _))

/-! ## How a condition is to be read -/

/-- How the operator of that name is read. -/
def comparisonLexeme (name : String) : Lexeme :=
  if name = "eq" then .punctuation '='
  else if name = "lt" then .punctuation '<'
  else if name = "gt" then .punctuation '>'
  else .word "LIKE"

/-- How the place of the value is read: dates are compared as dates, but matched as texts. -/
def slotLexemes (f : Filter) : List Lexeme :=
  if f.dateValue.isSome ∧ f.operatorName ≠ "like" then
    [.word "CAST", .punctuation '(', .placeholder, .word "AS", .word "DATE", .punctuation ')']
  else [.placeholder]

/-- How the condition of a filter is read. -/
def conditionLexemes (f : Filter) : List Lexeme :=
  .quoted (Name.restore f.field) :: comparisonLexeme f.operatorName :: f.slotLexemes

/-- The value that is bound for a filter, for each kind of value that it may give: the value itself,
where a date is bound as a text, or the text of the value between percent signs where it is to be
matched. -/
structure Binds (f : Filter) (p : Param) : Prop where
  string : ∀ s, f.stringValue = some s →
    p = if f.operatorName = "like" then .string ("%" ++ s ++ "%") else .string s
  int : ∀ n, f.intValue = some n →
    p = if f.operatorName = "like" then .string ("%" ++ signedDecimal n ++ "%") else .int n
  float : ∀ x, f.floatValue = some x →
    p = if f.operatorName = "like" then .string ("%" ++ x.plain ++ "%") else .float x
  boolean : ∀ b, f.booleanValue = some b →
    p = if f.operatorName = "like" then .string ("%" ++ (if b then "true" else "false") ++ "%")
      else .bool b
  date : ∀ s, f.dateValue = some s →
    p = if f.operatorName = "like" then .string ("%" ++ s ++ "%") else .string s

/-! ## The one value -/

theorem given_giving (field operator : String) (v : FilterValue) :
    (giving field operator v).given = [v] := by
  cases v <;> rfl

theorem given_eq_singleton_iff (f : Filter) (v : FilterValue) :
    f.given = [v] ↔ f = giving f.field f.operator v := by
  refine ⟨fun h => ?_, fun h => h ▸ given_giving f.field f.operator v⟩
  obtain ⟨field, operator, s, n, x, b, d, l⟩ := f
  cases s <;> cases n <;> cases x <;> cases b <;> cases d <;> cases l <;> cases h <;> rfl

theorem length_given (f : Filter) : f.given.length = f.valueCount := by
  obtain ⟨field, operator, s, n, x, b, d, l⟩ := f
  cases s <;> cases n <;> cases x <;> cases b <;> cases d <;> cases l <;> rfl

end Filter

/-! ## The operator -/

theorem parse?_eq_some_iff (text : String) (op : Operator) :
    Operator.parse? text = some op ↔ asciiLower (trim text) = op.name := by
  constructor
  · intro h
    have hname := List.find?_some h
    exact (eq_of_beq hname).symm
  · intro h
    have hfind : Operator.parse? text =
        Operator.all.find? fun op => op.name == asciiLower (trim text) := rfl
    rw [hfind, h]
    cases op <;> decide

theorem mem_askedNames_iff (op : Operator) :
    op.name ∈ Filter.askedNames ↔ op.isSupported = true := by
  cases op <;> decide

theorem exists_name_of_mem {name : String} (h : name ∈ Filter.askedNames) :
    ∃ op : Operator, name = op.name := by
  simp only [Filter.askedNames, List.mem_cons, List.not_mem_nil, or_false] at h
  rcases h with rfl | rfl | rfl | rfl
  · exact ⟨.eq, rfl⟩
  · exact ⟨.lt, rfl⟩
  · exact ⟨.gt, rfl⟩
  · exact ⟨.like, rfl⟩

/-! ## The condition of a filter -/

/-- A predicate says what a filter asks, and the engine can be asked for it. -/
structure Filter.Asks (f : Filter) (p : Predicate) : Prop where
  field : p.field = f.field
  value : f = Filter.giving f.field f.operator p.value
  name : f.operatorName = p.operator.name
  supported : p.operator.isSupported = true
  single : ∀ items, p.value ≠ .list items

/-- The tokens of the condition of a predicate that compares by a token. -/
def Predicate.tokens (p : Predicate) (comparison : Token) : List Token :=
  [.name (Name.restore p.field), .space, comparison, .space] ++ p.slot

theorem value_eq_ok_iff (f : Filter) (v : FilterValue) : f.value = .ok v ↔ f.given = [v] := by
  unfold Filter.value
  split
  · rename_i w hgiven
    simp [hgiven]
  · rename_i hgiven
    simp [hgiven]
  · rename_i many hone _
    exact ⟨nofun, fun h => absurd h (hone v)⟩

theorem of_eq_ok_iff (f : Filter) (p : Predicate) :
    Predicate.of f = .ok p ↔ p.field = f.field ∧ f.given = [p.value] ∧
      f.operatorName = p.operator.name := by
  rw [Filter.operatorName, ← parse?_eq_some_iff, ← value_eq_ok_iff, Predicate.of]
  cases hvalue : f.value with
  | error e => simp
  | ok v =>
    cases hparse : Operator.parse? f.operator with
    | none => simp
    | some op =>
      constructor
      · intro h
        cases h
        exact ⟨rfl, rfl, rfl⟩
      · rintro ⟨hfield, hv, hop⟩
        cases hv
        cases hop
        rw [← hfield]

theorem condition_eq_ok_iff (p : Predicate) (condition : List Token × Param) :
    p.condition = .ok condition ↔ (∀ items, p.value ≠ .list items) ∧
      ∃ comparison, p.operator.token? = some comparison ∧
        condition = (p.tokens comparison, p.param) := by
  unfold Predicate.condition
  cases p.operator.token? with
  | none => simp
  | some comparison =>
    cases hvalue : p.value <;> simp [Predicate.tokens, eq_comm]

theorem isSome_token? (op : Operator) : op.token?.isSome = op.isSupported := by
  cases op <;> rfl

/-- A filter becomes a condition exactly where a predicate says what it asks. -/
theorem exists_condition_iff (f : Filter) (condition : List Token × Param) :
    (∃ p, Predicate.of f = .ok p ∧ p.condition = .ok condition) ↔
      ∃ p comparison, f.Asks p ∧ p.operator.token? = some comparison ∧
        condition = (p.tokens comparison, p.param) := by
  simp only [of_eq_ok_iff, condition_eq_ok_iff, Filter.given_eq_singleton_iff]
  constructor
  · rintro ⟨p, ⟨hfield, hvalue, hname⟩, hsingle, comparison, htoken, rfl⟩
    have hsupported : p.operator.isSupported = true := by rw [← isSome_token?, htoken]; rfl
    exact ⟨p, comparison, ⟨hfield, hvalue, hname, hsupported, hsingle⟩, htoken, rfl⟩
  · rintro ⟨p, comparison, hasks, htoken, rfl⟩
    exact ⟨p, ⟨hasks.field, hasks.value, hasks.name⟩, hasks.single, comparison, htoken, rfl⟩

theorem values_giving (field operator : String) {v : FilterValue} :
    (Filter.giving field operator v).values = none ↔ ∀ items, v ≠ .list items := by
  cases v <;> simp [Filter.giving]

theorem translatable_iff (f : Filter) : f.Translatable ↔ ∃ p, f.Asks p := by
  constructor
  · rintro ⟨hcount, hvalues, hname⟩
    obtain ⟨v, hgiven⟩ := List.length_eq_one_iff.1 ((Filter.length_given f).trans hcount)
    obtain ⟨op, hop⟩ := exists_name_of_mem hname
    have hvalue := (Filter.given_eq_singleton_iff f v).1 hgiven
    refine ⟨⟨f.field, op, v⟩, rfl, hvalue, hop, ?_, ?_⟩
    · rwa [hop, mem_askedNames_iff] at hname
    · rwa [hvalue, values_giving] at hvalues
  · rintro ⟨p, hasks⟩
    refine ⟨?_, ?_, ?_⟩
    · rw [← Filter.length_given, (Filter.given_eq_singleton_iff f p.value).2 hasks.value]
      rfl
    · rw [hasks.value, values_giving]
      exact hasks.single
    · rw [hasks.name, mem_askedNames_iff]
      exact hasks.supported

/-! ## The statement is readable -/

/-- Tokens that are read one by one. -/
structure Legible (tokens : List Token) : Prop where
  readable : ∀ t ∈ tokens, t.Readable
  apart : tokens.IsChain Apart

theorem apart_space (t : Token) : Apart .space t ∧ Apart t .space := by
  simp [Apart, Token.space, Token.isWordlike, Token.isQuoted]

theorem isChain_space_cons {tokens : List Token} (h : tokens.IsChain Apart) :
    (Token.space :: tokens).IsChain Apart := by
  cases tokens with
  | nil => exact List.IsChain.singleton _
  | cons t rest => exact List.isChain_cons_cons.2 ⟨(apart_space t).1, h⟩

/-- Tokens on either side of a space do not meet. -/
theorem Legible.append_space {before after : List Token} (hbefore : Legible before)
    (hafter : Legible after) : Legible (before ++ .space :: after) := by
  constructor
  · intro t ht
    rcases List.mem_append.1 ht with ht | ht
    · exact hbefore.readable t ht
    · rcases List.mem_cons.1 ht with rfl | ht
      · trivial
      · exact hafter.readable t ht
  · refine List.isChain_append.2 ⟨hbefore.apart, isChain_space_cons hafter.apart, ?_⟩
    intro t _ u hu
    cases hu
    exact (apart_space t).2

theorem legible_singleton {t : Token} (ht : t.Readable) : Legible [t] :=
  ⟨fun _ hu => List.mem_singleton.1 hu ▸ ht, List.IsChain.singleton t⟩

theorem legible_castToDate : Legible castToDate := by
  constructor
  · intro t ht
    simp only [castToDate, List.mem_cons, List.not_mem_nil, or_false] at ht
    rcases ht with rfl | rfl | rfl | rfl | rfl | rfl | rfl | rfl <;> trivial
  · simp [castToDate, Apart, Token.space, Token.isWordlike, Token.isQuoted]

theorem legible_slot (p : Predicate) : Legible p.slot := by
  unfold Predicate.slot
  split
  · exact legible_singleton trivial
  · exact legible_castToDate
  · exact legible_singleton trivial

theorem legible_tokens {p : Predicate} {comparison : Token}
    (h : p.operator.token? = some comparison) : Legible (p.tokens comparison) := by
  have hcomparison : comparison.Readable := by
    cases hop : p.operator <;> rw [hop] at h <;> cases h <;> trivial
  exact (legible_singleton (t := .name (Name.restore p.field)) trivial).append_space
    ((legible_singleton hcomparison).append_space (legible_slot p))

theorem legible_joinConditions {conditions : List (List Token)}
    (hconditions : ∀ condition ∈ conditions, Legible condition) (word : Keyword)
    {before after : List Token} (hbefore : Legible before) (hafter : Legible after) :
    Legible (before ++ joinConditions word conditions ++ .space :: after) := by
  induction conditions generalizing word before with
  | nil => 
    simpa [joinConditions] using hbefore.append_space hafter
  | cons condition rest ih =>
    have hfront : Legible (before ++ .space :: ([.keyword word] ++ .space :: condition)) :=
      hbefore.append_space ((legible_singleton (t := .keyword word) trivial).append_space
        (hconditions condition List.mem_cons_self))
    have hall := ih (fun c hc => hconditions c (List.mem_cons_of_mem condition hc)) .AND hfront
    simpa [joinConditions] using hall

theorem legible_statement (catalog schema table : String) {limit : Int} (hlimit : 0 ≤ limit)
    {conditions : List (List Token)} (hconditions : ∀ condition ∈ conditions, Legible condition) :
    Legible (statement catalog schema table limit conditions) := by
  have hlabel : (Token.label tableAlias).Readable := by
    rw [Token.Readable]
    decide
  have hselect : Legible [.keyword .SELECT] := legible_singleton trivial
  have hstar : Legible [.label tableAlias, .mark .dot, .mark .star] := by
    constructor
    · intro t ht
      simp only [List.mem_cons, List.not_mem_nil, or_false] at ht
      rcases ht with rfl | rfl | rfl
      · exact hlabel
      · trivial
      · trivial
    · simp [Apart, Token.isWordlike, Token.isQuoted]
  have hfrom : Legible [.keyword .FROM] := legible_singleton trivial
  have hpath : Legible [.path [Name.restore catalog, Name.restore schema, Name.restore table]] :=
    legible_singleton (List.cons_ne_nil _ _)
  have hhead : Legible (statementHead catalog schema table) :=
    hselect.append_space (hstar.append_space (hfrom.append_space (hpath.append_space
      (legible_singleton hlabel))))
  have hword : Legible [.keyword .LIMIT] := legible_singleton trivial
  have htail : Legible ([.keyword .LIMIT] ++ .space :: [.integer limit]) :=
    hword.append_space (legible_singleton hlimit)
  exact legible_joinConditions hconditions .WHERE hhead htail

/-! ## How the statement is read -/

/-- How conditions are read, each after the word that joins it to what stands before. -/
def joinedLexemes : List (List Lexeme) → List Lexeme
  | [] => []
  | first :: rest => .word "WHERE" :: first ++ rest.flatMap (.word "AND" :: ·)

/-- How the whole statement is read. -/
def statementLexemes (catalog schema table : String) (limit : Int) (filters : List Filter) :
    List Lexeme :=
  [.word "SELECT", .word "t1", .punctuation '.', .punctuation '*', .word "FROM",
    .quoted (Name.restore catalog), .punctuation '.', .quoted (Name.restore schema),
    .punctuation '.', .quoted (Name.restore table), .word "t1"] ++
    joinedLexemes (filters.map Filter.conditionLexemes) ++ [.word "LIMIT", .integer limit.toNat]

theorem lexemes_joinConditions (conditions : List (List Token)) :
    (joinConditions .WHERE conditions).flatMap Token.lexemes =
      joinedLexemes (conditions.map fun condition => condition.flatMap Token.lexemes) := by
  have hrest (rest : List (List Token)) :
      (joinConditions .AND rest).flatMap Token.lexemes =
        (rest.map fun condition => condition.flatMap Token.lexemes).flatMap
          (.word "AND" :: ·) := by
    induction rest with
    | nil => rfl
    | cons condition rest ih =>
      simp [joinConditions, Token.lexemes, Token.markLexemes, Token.space, Keyword.text, ih]
  cases conditions with
  | nil => rfl
  | cons condition rest =>
    simp [joinConditions, joinedLexemes, Token.lexemes, Token.markLexemes, Token.space,
      Keyword.text, hrest]

theorem operatorName_eq_like_iff {f : Filter} {p : Predicate} (h : f.Asks p) :
    f.operatorName = "like" ↔ p.operator = .like := by
  rw [h.name]
  cases p.operator <;> decide

theorem lexemes_comparison {f : Filter} {p : Predicate} {comparison : Token} (h : f.Asks p)
    (hcomparison : p.operator.token? = some comparison) :
    comparison.lexemes = [Filter.comparisonLexeme f.operatorName] := by
  rw [h.name]
  cases hop : p.operator <;> rw [hop] at hcomparison <;> cases hcomparison <;> rfl

theorem lexemes_slot {f : Filter} {p : Predicate} (h : f.Asks p) :
    p.slot.flatMap Token.lexemes = f.slotLexemes := by
  have hdate : f.dateValue.isSome = true ↔ ∃ s, p.value = .date s := by
    rw [h.value]
    cases p.value <;> simp [Filter.giving]
  have hlike := operatorName_eq_like_iff h
  unfold Predicate.slot Filter.slotLexemes
  split
  · rename_i hop
    rw [if_neg fun hboth => hboth.2 (hlike.2 hop)]
    rfl
  · rename_i s hvalue hne
    rw [if_pos ⟨hdate.2 ⟨s, hvalue⟩, fun heq => hne (hlike.1 heq)⟩]
    rfl
  · rename_i hne hvalue
    rw [if_neg]
    · rfl
    · rintro ⟨hsome, _⟩
      obtain ⟨s, hs⟩ := hdate.1 hsome
      exact hvalue s hs

/-- The condition of a filter is read as the filter wants it. -/
theorem lexemes_tokens {f : Filter} {p : Predicate} {comparison : Token} (h : f.Asks p)
    (hcomparison : p.operator.token? = some comparison) :
    (p.tokens comparison).flatMap Token.lexemes = f.conditionLexemes := by
  rw [Predicate.tokens, List.flatMap_append, lexemes_slot h, Filter.conditionLexemes, ← h.field]
  simp only [List.flatMap_cons, List.flatMap_nil, List.append_nil,
    lexemes_comparison h hcomparison]
  rfl

theorem param_eq {f : Filter} {p : Predicate} (h : f.Asks p) :
    p.param = if f.operatorName = "like" then .string ("%" ++ p.value.matchText ++ "%")
      else p.value.param := by
  unfold Predicate.param
  split
  · rename_i hop
    rw [if_pos ((operatorName_eq_like_iff h).2 hop)]
  · rename_i hne
    rw [if_neg fun heq => hne ((operatorName_eq_like_iff h).1 heq)]

/-- What is bound for a predicate is decided by any value that its filter gives. -/
theorem param_of_mem_given {f : Filter} {p : Predicate} {v : FilterValue} (h : f.Asks p)
    (hv : v ∈ f.given) : p.param =
      if f.operatorName = "like" then .string ("%" ++ v.matchText ++ "%") else v.param := by
  rw [(Filter.given_eq_singleton_iff f p.value).2 h.value] at hv
  rw [param_eq h, List.mem_singleton.1 hv]

/-- The value that is bound for a predicate is the one that its filter wants to be bound. -/
theorem binds_param {f : Filter} {p : Predicate} (h : f.Asks p) : f.Binds p.param where
  string s hs := param_of_mem_given (v := .string s) h (by simp [Filter.given, hs])
  int n hn := param_of_mem_given (v := .int n) h (by simp [Filter.given, hn])
  float x hx := param_of_mem_given (v := .float x) h (by simp [Filter.given, hx])
  boolean b hb := param_of_mem_given (v := .bool b) h (by simp [Filter.given, hb])
  date s hs := param_of_mem_given (v := .date s) h (by simp [Filter.given, hs])

/-! ## Translation -/

/-- The conditions of filters: those of their predicates. -/
def Conditions (filters : List Filter) (conditions : List (List Token × Param)) : Prop :=
  List.Forall₂ (fun f condition => ∃ p comparison, f.Asks p ∧
    p.operator.token? = some comparison ∧ condition = (p.tokens comparison, p.param))
    filters conditions

theorem exists_conditions_iff (filters : List Filter) (conditions : List (List Token × Param)) :
    (∃ predicates, filters.mapM Predicate.of = .ok predicates ∧
      predicates.mapM Predicate.condition = .ok conditions) ↔ Conditions filters conditions := by
  rw [exists_mapM_mapM_iff, Conditions]
  simp only [exists_condition_iff]

theorem translate_eq_ok_iff (catalog schema table : String) (limit : Int) (filters : List Filter)
    (q : Bound) :
    translate catalog schema table limit filters = .ok q ↔
      0 ≤ limit ∧ ∃ conditions, Conditions filters conditions ∧
        q = ⟨render (statement catalog schema table limit (conditions.map Prod.fst)),
          conditions.map Prod.snd⟩ := by
  unfold translate
  split
  · rename_i hlimit
    exact ⟨nofun, fun h => absurd h.1 (Int.not_le.2 hlimit)⟩
  · rename_i hlimit
    simp only [ok_bind_iff, ← exists_conditions_iff]
    constructor
    · rintro ⟨predicates, hpredicates, conditions, hconditions, hq⟩
      exact ⟨Int.not_lt.1 hlimit, conditions, ⟨predicates, hpredicates, hconditions⟩,
        (Except.ok.inj hq).symm⟩
    · rintro ⟨_, conditions, ⟨predicates, hpredicates, hconditions⟩, rfl⟩
      exact ⟨predicates, hpredicates, conditions, hconditions, rfl⟩

theorem exists_conditions_iff_translatable (filters : List Filter) :
    (∃ conditions, Conditions filters conditions) ↔ ∀ f ∈ filters, f.Translatable := by
  constructor
  · rintro ⟨conditions, h⟩
    induction h with
    | nil => exact fun f hf => nomatch hf
    | cons hcondition _ ih =>
      obtain ⟨p, _, hasks, _⟩ := hcondition
      intro f hf
      rcases List.mem_cons.1 hf with rfl | hf
      · exact (translatable_iff f).2 ⟨p, hasks⟩
      · exact ih f hf
  · intro h
    induction filters with
    | nil => exact ⟨[], .nil⟩
    | cons f rest ih =>
      obtain ⟨p, hasks⟩ := (translatable_iff f).1 (h f List.mem_cons_self)
      have hsome : p.operator.token?.isSome = true := by rw [isSome_token?, hasks.supported]
      obtain ⟨comparison, hcomparison⟩ := Option.isSome_iff_exists.1 hsome
      obtain ⟨conditions, hconditions⟩ := ih fun g hg => h g (List.mem_cons_of_mem f hg)
      exact ⟨_ :: conditions, .cons ⟨p, comparison, hasks, hcomparison, rfl⟩ hconditions⟩

theorem legible_of_conditions {filters : List Filter} {conditions : List (List Token × Param)}
    (h : Conditions filters conditions) :
    ∀ condition ∈ conditions.map Prod.fst, Legible condition := by
  induction h with
  | nil => exact fun condition hc => nomatch hc
  | cons hcondition _ ih =>
    obtain ⟨p, comparison, _, hcomparison, rfl⟩ := hcondition
    intro condition hc
    rcases List.mem_cons.1 hc with rfl | hc
    · exact legible_tokens hcomparison
    · exact ih condition hc

theorem lexemes_of_conditions {filters : List Filter} {conditions : List (List Token × Param)}
    (h : Conditions filters conditions) :
    (conditions.map fun condition => condition.1.flatMap Token.lexemes) =
      filters.map Filter.conditionLexemes := by
  induction h with
  | nil => rfl
  | cons hcondition _ ih =>
    obtain ⟨p, comparison, hasks, hcomparison, rfl⟩ := hcondition
    rw [List.map_cons, List.map_cons, ih, lexemes_tokens hasks hcomparison]

theorem binds_of_conditions {filters : List Filter} {conditions : List (List Token × Param)}
    (h : Conditions filters conditions) :
    List.Forall₂ Filter.Binds filters (conditions.map Prod.snd) := by
  rw [List.forall₂_map_right_iff]
  refine h.imp ?_
  rintro f _ ⟨p, comparison, hasks, _, rfl⟩
  exact binds_param hasks

/-- The statement of conditions is read as the statement of their filters. -/
theorem lex_statement (catalog schema table : String) {limit : Int} (hlimit : 0 ≤ limit)
    {filters : List Filter} {conditions : List (List Token × Param)}
    (h : Conditions filters conditions) :
    lex (render (statement catalog schema table limit (conditions.map Prod.fst))) =
      some (statementLexemes catalog schema table limit filters) := by
  have hlegible := legible_statement catalog schema table hlimit (legible_of_conditions h)
  rw [lex_render hlegible.readable hlegible.apart, statement, List.flatMap_append,
    List.flatMap_append, lexemes_joinConditions, List.map_map]
  have hconditions := lexemes_of_conditions h
  rw [statementLexemes, ← hconditions]
  rfl

theorem count_placeholder_cons_word (word : String) (rest : List Lexeme) :
    (.word word :: rest : List Lexeme).count .placeholder = rest.count .placeholder :=
  List.count_cons_of_ne (by simp)

theorem count_placeholder_cons_quoted (name : String) (rest : List Lexeme) :
    (.quoted name :: rest : List Lexeme).count .placeholder = rest.count .placeholder :=
  List.count_cons_of_ne (by simp)

theorem count_placeholder_conditionLexemes (f : Filter) :
    f.conditionLexemes.count .placeholder = 1 := by
  have hcomparison : Filter.comparisonLexeme f.operatorName ≠ .placeholder := by
    unfold Filter.comparisonLexeme
    split_ifs <;> exact nofun
  have hslot : f.slotLexemes.count .placeholder = 1 := by
    unfold Filter.slotLexemes
    split_ifs <;> decide
  rw [Filter.conditionLexemes, count_placeholder_cons_quoted, List.count_cons_of_ne hcomparison,
    hslot]

theorem count_placeholder_joinedLexemes {conditions : List (List Lexeme)}
    (h : ∀ condition ∈ conditions, condition.count .placeholder = 1) :
    (joinedLexemes conditions).count .placeholder = conditions.length := by
  have hrest {rest : List (List Lexeme)}
      (h : ∀ condition ∈ rest, condition.count .placeholder = 1) :
      (rest.flatMap (.word "AND" :: ·)).count .placeholder = rest.length := by
    induction rest with
    | nil => rfl
    | cons condition rest ih =>
      rw [List.flatMap_cons, List.count_append, count_placeholder_cons_word,
        h condition List.mem_cons_self, ih fun c hc => h c (List.mem_cons_of_mem condition hc),
        List.length_cons, Nat.add_comm]
  cases conditions with
  | nil => rfl
  | cons condition rest =>
    rw [joinedLexemes, List.cons_append, count_placeholder_cons_word, List.count_append,
      h condition List.mem_cons_self, hrest fun c hc => h c (List.mem_cons_of_mem condition hc),
      List.length_cons, Nat.add_comm]

/-- As many placeholders stand in a statement as it has filters. -/
theorem count_placeholder_statementLexemes (catalog schema table : String) (limit : Int)
    (filters : List Filter) :
    (statementLexemes catalog schema table limit filters).count .placeholder = filters.length := by
  have hjoined : (joinedLexemes (filters.map Filter.conditionLexemes)).count .placeholder =
      filters.length := by
    rw [count_placeholder_joinedLexemes, List.length_map]
    intro condition hc
    obtain ⟨f, _, rfl⟩ := List.mem_map.1 hc
    exact count_placeholder_conditionLexemes f
  rw [statementLexemes, List.count_append, List.count_append, hjoined]
  simp

/-- Translation succeeds exactly where the limit is not negative and every filter can be
translated. The statement is then read as the wanted one, name by name and condition by condition,
and the bound values are those of the filters in their order, one for each placeholder. -/
theorem translate_exact (catalog schema table : String) (limit : Int) (filters : List Filter) :
    ((∃ q, translate catalog schema table limit filters = .ok q) ↔
      0 ≤ limit ∧ ∀ f ∈ filters, f.Translatable) ∧
    ∀ q, translate catalog schema table limit filters = .ok q →
      lex q.sql = some (statementLexemes catalog schema table limit filters) ∧
      List.Forall₂ Filter.Binds filters q.params ∧
      (statementLexemes catalog schema table limit filters).count .placeholder =
        q.params.length := by
  simp only [translate_eq_ok_iff]
  constructor
  · rw [← exists_conditions_iff_translatable]
    constructor
    · rintro ⟨q, hlimit, conditions, hconditions, _⟩
      exact ⟨hlimit, conditions, hconditions⟩
    · rintro ⟨hlimit, conditions, hconditions⟩
      exact ⟨_, hlimit, conditions, hconditions, rfl⟩
  · rintro q ⟨hlimit, conditions, hconditions, rfl⟩
    have hlex := lex_statement catalog schema table hlimit hconditions
    have hbinds := binds_of_conditions hconditions
    have hcount := (count_placeholder_statementLexemes catalog schema table limit filters).trans
      hbinds.length_eq
    dsimp only
    exact ⟨hlex, hbinds, hcount⟩

/-- Quotes, placeholders and line ends in names and values change nothing in how a statement is
read. Values of all kinds are bound as they are, or as texts between percent signs. -/
theorem translate_exact_quotes :
    ∃ q, translate "hive" "s_U0022_; DROP" "t?" 5
        [Filter.giving "day\n" " GT " (.date "2024-01-31"), Filter.giving "\"?" "Like" (.int (-7)),
          Filter.giving "b" "eq" (.string "' OR ?\n"), Filter.giving "x" "lt" (.float .nan),
          Filter.giving "x" "like" (.float (.finite ⟨false, 3, -1⟩)),
          Filter.giving "c" "EQ" (.bool true)] = .ok q ∧
      lex q.sql = some
        [.word "SELECT", .word "t1", .punctuation '.', .punctuation '*', .word "FROM",
          .quoted "hive", .punctuation '.', .quoted "s\"; DROP", .punctuation '.', .quoted "t?",
          .word "t1", .word "WHERE", .quoted "day\n", .punctuation '>', .word "CAST",
          .punctuation '(', .placeholder, .word "AS", .word "DATE", .punctuation ')', .word "AND",
          .quoted "\"?", .word "LIKE", .placeholder, .word "AND", .quoted "b", .punctuation '=',
          .placeholder, .word "AND", .quoted "x", .punctuation '<', .placeholder, .word "AND",
          .quoted "x", .word "LIKE", .placeholder, .word "AND", .quoted "c", .punctuation '=',
          .placeholder, .word "LIMIT", .integer 5] ∧
      q.params = [.string "2024-01-31", .string "%-7%", .string "' OR ?\n", .float .nan,
        .string "%1.5%", .bool true] := by
  have h := translate_exact "hive" "s_U0022_; DROP" "t?" 5
    [Filter.giving "day\n" " GT " (.date "2024-01-31"), Filter.giving "\"?" "Like" (.int (-7)),
      Filter.giving "b" "eq" (.string "' OR ?\n"), Filter.giving "x" "lt" (.float .nan),
      Filter.giving "x" "like" (.float (.finite ⟨false, 3, -1⟩)),
      Filter.giving "c" "EQ" (.bool true)]
  obtain ⟨q, hq⟩ := h.1.2 ⟨by decide, by decide +kernel⟩
  obtain ⟨hlex, hbinds, -⟩ := h.2 q hq
  refine ⟨q, hq, ?_, ?_⟩
  · rw [hlex]
    decide +kernel
  · simp only [List.forall₂_cons_left_iff, List.forall₂_nil_left_iff] at hbinds
    obtain ⟨_, _, hdate, ⟨_, _, hint, ⟨_, _, hstring, ⟨_, _, hnan, ⟨_, _, hfloat, ⟨_, _, hbool, rfl,
      rfl⟩, rfl⟩, rfl⟩, rfl⟩, rfl⟩, hparams⟩ := hbinds
    rw [hparams, hdate.date _ rfl, hint.int _ rfl, hstring.string _ rfl, hnan.float _ rfl,
      hfloat.float _ rfl, hbool.boolean _ rfl]
    decide +kernel

end CatalogGraph.Query
