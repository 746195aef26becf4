import CatalogGraph.Json.Decode
import CatalogGraph.Query.Operator

/-!
# Filters

A filter names a field and an operator and gives a value in one of six fields, one for each kind of
value. A predicate is a filter of which the value and the operator have been made out. The value is
looked at first, so a filter with a wrong number of values and an unknown operator is refused for
its values.
-/

namespace CatalogGraph.Query

open Json

/-- A filter as a request gives it. -/
structure Filter where
  field : String
  operator : String
  stringValue : Option String
  intValue : Option Int
  floatValue : Option FloatValue
  booleanValue : Option Bool
  dateValue : Option String
  values : Option (List String)
deriving Repr

/-- The value of a filter. -/
inductive FilterValue where
  | string (s : String)
  | int (n : Int)
  | float (x : FloatValue)
  | bool (b : Bool)
  | date (s : String)
  | list (items : List String)
deriving DecidableEq, Repr

/-- The name of the kind of a value. -/
def FilterValue.kind : FilterValue → String
  | .string _ => "string"
  | .int _ => "int"
  | .float _ => "float"
  | .bool _ => "boolean"
  | .date _ => "date"
  | .list _ => "list"

/-- Why a filter does not fit its operator. -/
inductive Misfit where
  | noValue
  | manyValues (count : Nat)
  | listGiven (operator : Operator)
deriving DecidableEq, Repr

/-- The text of a misfit. -/
def Misfit.message : Misfit → String
  | .noValue => "no value provided"
  | .manyValues count => Text.decimal count ++ " values provided, expected exactly one"
  | .listGiven operator => "operator '" ++ operator.name ++ "' takes a single value"

/-- Why a query cannot be made. -/
inductive Fault where
  | filter (field : String) (misfit : Misfit)
  | operator (name : String)
  | limit (n : Int)
deriving DecidableEq, Repr

/-- The text of a fault. -/
def Fault.message : Fault → String
  | .filter field misfit => "invalid filter on '" ++ field ++ "': " ++ misfit.message
  | .operator name => "unsupported operator: " ++ name
  | .limit n => "invalid limit: " ++ Text.signedDecimal n ++ " (must not be negative)"

namespace Filter

/-! ## Reading and writing -/

/-- A filter as a JSON record. -/
def recordType : RecordType Filter where
  title := "struct FilterInput"
  slots :=
    [.of "field" true Decoder.string fun v f => { f with field := v },
     .of "operator" true Decoder.string fun v f => { f with operator := v },
     .of "stringValue" false (Decoder.optional Decoder.string) fun v f =>
       { f with stringValue := v },
     .of "intValue" false (Decoder.optional Decoder.int64) fun v f => { f with intValue := v },
     .of "floatValue" false (Decoder.optional Decoder.double) fun v f =>
       { f with floatValue := v.map .finite },
     .of "booleanValue" false (Decoder.optional Decoder.bool) fun v f =>
       { f with booleanValue := v },
     .of "dateValue" false (Decoder.optional Decoder.string) fun v f => { f with dateValue := v },
     .of "values" false (Decoder.optional (Decoder.list Decoder.string)) fun v f =>
       { f with values := v }]
  blank := ⟨"", "", none, none, none, none, none, none⟩

/-- The filter as a JSON record; missing values are left out. -/
def toJson (f : Filter) : Json :=
  let given (key : String) (value : Option Json) : List (String × Json) :=
    match value with
    | some j => [(key, j)]
    | none => []
  .object ([("field", .string f.field), ("operator", .string f.operator)] ++
    given "stringValue" (f.stringValue.map .string) ++
    given "intValue" (f.intValue.map .int) ++
    given "floatValue" (f.floatValue.map Json.ofFloat) ++
    given "booleanValue" (f.booleanValue.map .bool) ++
    given "dateValue" (f.dateValue.map .string) ++
    given "values" (f.values.map Json.strings))

/-! ## The one value -/

/-- The values that are given, in the order of their fields. -/
def given (f : Filter) : List FilterValue :=
  (f.stringValue.map FilterValue.string).toList ++ (f.intValue.map FilterValue.int).toList ++
    (f.floatValue.map FilterValue.float).toList ++ (f.booleanValue.map FilterValue.bool).toList ++
    (f.dateValue.map FilterValue.date).toList ++ (f.values.map FilterValue.list).toList

/-- The value of a filter that gives exactly one. -/
def value (f : Filter) : Except Fault FilterValue :=
  match f.given with
  | [v] => .ok v
  | [] => .error (.filter f.field .noValue)
  | many => .error (.filter f.field (.manyValues many.length))

end Filter

/-- A field, an operator and a value to compare with. -/
structure Predicate where
  field : String
  operator : Operator
  value : FilterValue
deriving DecidableEq, Repr

/-- The predicate of a filter. -/
def Predicate.of (f : Filter) : Except Fault Predicate :=
  match f.value with
  | .error e => .error e
  | .ok v =>
    match Operator.parse? f.operator with
    | none => .error (.operator f.operator)
    | some op => .ok ⟨f.field, op, v⟩

end CatalogGraph.Query
