import CatalogGraph.Name
import CatalogGraph.Query.Filter
import CatalogGraph.Sql.Token

/-!
# From filters to SQL

A query asks for the rows of one table that satisfy every filter, up to a limit. Its text has a
placeholder for the value of every filter, and the values are bound in the order of the filters.
Names are restored before they are quoted.

`translate` looks at the limit first, then makes a predicate of every filter, and only then writes
the conditions; so a filter that is no predicate is reported before an operator that the engine
cannot be asked for.
-/

namespace CatalogGraph.Query

open Sql

/-- A value bound to a placeholder. -/
inductive Param where
  | bool (b : Bool)
  | int (n : Int)
  | float (x : FloatValue)
  | string (s : String)
deriving DecidableEq, Repr

/-- The value as JSON. -/
def Param.toJson : Param → Json
  | .bool b => .bool b
  | .int n => .int n
  | .float x => .ofFloat x
  | .string s => .string s

/-- A query: its text and the values of its placeholders in their order. -/
structure Bound where
  sql : String
  params : List Param
deriving DecidableEq, Repr

/-- The values of the placeholders as JSON values. -/
def Bound.args (query : Bound) : List Json := query.params.map Param.toJson

/-! ## Conditions -/

/-- The token that compares, for the operators that the engine can be asked for. -/
def Operator.token? : Operator → Option Token
  | .eq => some (.mark .equal)
  | .lt => some (.mark .less)
  | .gt => some (.mark .greater)
  | .like => some (.keyword .LIKE)
  | _ => none

/-- A value as a text to be matched. -/
def FilterValue.matchText : FilterValue → String
  | .string s => s
  | .date s => s
  | .int n => Text.signedDecimal n
  | .float x => x.plain
  | .bool b => if b then "true" else "false"
  | .list items => String.intercalate "," items

/-- The bound value of a filter value. -/
def FilterValue.param : FilterValue → Param
  | .string s => .string s
  | .date s => .string s
  | .int n => .int n
  | .float x => .float x
  | .bool b => .bool b
  | .list items => .string (String.intercalate "," items)

/-- A placeholder read as a date. -/
def castToDate : List Token :=
  [.keyword .CAST, .mark .opening, .placeholder, .space, .keyword .AS, .space, .type "DATE",
   .mark .closing]

/-- The placeholder of a value under an operator. Dates are compared as dates but matched as
texts. -/
def Predicate.slot (p : Predicate) : List Token :=
  match p.operator, p.value with
  | .like, _ => [.placeholder]
  | _, .date _ => castToDate
  | _, _ => [.placeholder]

/-- The value that is bound: a matched text may stand anywhere in the field. -/
def Predicate.param (p : Predicate) : Param :=
  match p.operator with
  | .like => .string ("%" ++ p.value.matchText ++ "%")
  | _ => p.value.param

/-- The condition of a predicate: its tokens and the value of its placeholder. -/
def Predicate.condition (p : Predicate) : Except Fault (List Token × Param) :=
  match p.operator.token? with
  | none => .error (.operator p.operator.name)
  | some comparison =>
    match p.value with
    | .list _ => .error (.filter p.field (.listGiven p.operator))
    | _ =>
      .ok ([.name (Name.restore p.field), .space, comparison, .space] ++ p.slot, p.param)

/-! ## Statements -/

/-- The name by which the statement calls its table. -/
def tableAlias : String := "t1"

/-- The statement up to its conditions. -/
def statementHead (catalog schema table : String) : List Token :=
  [.keyword .SELECT, .space, .label tableAlias, .mark .dot, .mark .star, .space, .keyword .FROM,
   .space, .path [Name.restore catalog, Name.restore schema, Name.restore table], .space,
   .label tableAlias]

/-- The conditions, each after the word that joins it to what stands before. -/
def joinConditions (word : Keyword) : List (List Token) → List Token
  | [] => []
  | condition :: rest =>
    [.space, .keyword word, .space] ++ condition ++ joinConditions .AND rest

/-- The statement from its conditions on. -/
def statement (catalog schema table : String) (limit : Int) (conditions : List (List Token)) :
    List Token :=
  statementHead catalog schema table ++ joinConditions .WHERE conditions ++
    [.space, .keyword .LIMIT, .space, .integer limit]

/-- The query for the rows of a table that satisfy all filters. -/
def translate (catalog schema table : String) (limit : Int) (filters : List Filter) :
    Except Fault Bound :=
  if limit < 0 then .error (.limit limit)
  else do
    let predicates ← filters.mapM Predicate.of
    let conditions ← predicates.mapM Predicate.condition
    return ⟨render (statement catalog schema table limit (conditions.map Prod.fst)),
      conditions.map Prod.snd⟩

end CatalogGraph.Query
