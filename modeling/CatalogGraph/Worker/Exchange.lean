import CatalogGraph.Discovery.Column
import CatalogGraph.Worker.Error

/-!
# What the worker is asked

A request names a method of the worker and gives its parameters; those of every method begin with
the connection to the engine. An exchange is a request together with the type of the result that is
expected.
-/

namespace CatalogGraph.Worker

open Json

/-- The methods of the worker. -/
inductive Method where
  | listCatalogs
  | listSchemas
  | listTables
  | describeColumns
  | executeQuery
deriving DecidableEq, Repr

namespace Method

/-- The name by which a method is called. -/
def name : Method → String
  | .listCatalogs => "metadata.list_catalogs"
  | .listSchemas => "metadata.list_schemas"
  | .listTables => "metadata.list_tables"
  | .describeColumns => "metadata.describe_columns"
  | .executeQuery => "query.execute"

/-- All methods. -/
def all : List Method :=
  [listCatalogs, listSchemas, listTables, describeColumns, executeQuery]

end Method

/-- A request without the id that it is sent under. -/
structure Request where
  method : String
  params : Json

namespace Request

/-- The request under an id. -/
def toJson (r : Request) (id : String) : Json :=
  .object [("id", .string id), ("method", .string r.method), ("params", r.params)]

/-- The line that is written for a request. -/
def line (r : Request) (id : String) : String := (r.toJson id).compact ++ "\n"

end Request

/-- How the worker reaches the engine: by a driver, and by the text that the driver connects by. -/
structure Connection where
  driver : String
  connectionString : String
deriving DecidableEq, Repr

namespace Connection

/-- The connection as members of the parameters. -/
def members (c : Connection) : List (String × Json) :=
  [("driver", .string c.driver), ("connection_string", .string c.connectionString)]

/-- A request of a method over the connection, with further parameters. -/
def request (c : Connection) (method : Method) (params : List (String × Json)) : Request :=
  ⟨method.name, .object (Dictionary.ofList (c.members ++ params))⟩

end Connection

/-! ## Results -/

/-- A result that is a record with a list in its only field. -/
def listResult {α : Type} (title field : String) (item : Decoder α) : RecordType (List α) where
  title := title
  slots := [.of field true (Decoder.list item) fun v _ => v]
  blank := []

/-- A description of a column, as the worker gives it. -/
def columnResult : RecordType ColumnDescription where
  title := "struct ColumnInfo"
  slots :=
    [.of "name" true Decoder.string fun v c => { c with name := v },
     .of "type" true Decoder.string fun v c => { c with nativeType := v }]
  blank := ⟨"", ""⟩

/-- A column of a query result, as the worker gives it. -/
def queryColumnResult : RecordType ColumnDescription where
  title := "struct QueryResultColumn"
  slots :=
    [.of "name" true Decoder.string fun v c => { c with name := v },
     .of "data_type" true Decoder.string fun v c => { c with nativeType := v }]
  blank := ⟨"", ""⟩

/-- The result of a query: its columns, and its rows with a value for every column. -/
structure ResultTable where
  columns : List ColumnDescription
  rows : List (List Json)
  rowCount : Int

namespace ResultTable

/-- A result table as a record. -/
def recordType : RecordType ResultTable where
  title := "struct ExecuteQueryResponse"
  slots :=
    [.of "columns" true (Decoder.list queryColumnResult.decode) fun v t => { t with columns := v },
     .of "rows" true (Decoder.list (Decoder.list Decoder.any)) fun v t => { t with rows := v },
     .of "row_count" true Decoder.int64 fun v t => { t with rowCount := v }]
  blank := ⟨[], [], 0⟩

/-- The rows with their values by column name. -/
def toRows (t : ResultTable) : List Row :=
  let names := t.columns.map fun column => column.name
  t.rows.map fun values => Dictionary.ofList (names.zip values)

end ResultTable

/-! ## Exchanges -/

/-- What comes of a request: the value that the worker gives back, or a fault. -/
abbrev Outcome := Except Error Json

/-- A request and the type of its result. -/
structure Exchange (α : Type) where
  request : Request
  decode : Decoder α

namespace Exchange

variable {α : Type}

/-- The result of the expected type. -/
def read (e : Exchange α) (outcome : Outcome) : Except Error α :=
  match outcome with
  | .error fault => .error fault
  | .ok j => (e.decode j).mapError .deserializeFailed

/-- Asks for the catalogs. -/
def listCatalogs (c : Connection) : Exchange (List String) :=
  ⟨c.request .listCatalogs [],
    (listResult "struct ListCatalogsResponse" "catalogs" Decoder.string).decode⟩

/-- Asks for the schemas of a catalog. -/
def listSchemas (c : Connection) (catalog : String) : Exchange (List String) :=
  ⟨c.request .listSchemas [("catalog", .string catalog)],
    (listResult "struct ListSchemasResponse" "schemas" Decoder.string).decode⟩

/-- Asks for the tables of a schema. -/
def listTables (c : Connection) (catalog schema : String) : Exchange (List String) :=
  ⟨c.request .listTables [("catalog", .string catalog), ("schema", .string schema)],
    (listResult "struct ListTablesResponse" "tables" Decoder.string).decode⟩

/-- Asks for the columns of a table. -/
def describeColumns (c : Connection) (catalog schema table : String) :
    Exchange (List ColumnDescription) :=
  ⟨c.request .describeColumns
      [("catalog", .string catalog), ("schema", .string schema), ("table", .string table)],
    (listResult "struct DescribeColumnsResponse" "columns" columnResult.decode).decode⟩

/-- Asks for the result of a query. Arguments are only mentioned if there are some. -/
def executeQuery (c : Connection) (sql : String) (args : List Json) : Exchange ResultTable :=
  ⟨c.request .executeQuery
      (("sql", .string sql) :: if args.isEmpty then [] else [("args", .array args)]),
    ResultTable.recordType.decode⟩

end Exchange

end CatalogGraph.Worker
