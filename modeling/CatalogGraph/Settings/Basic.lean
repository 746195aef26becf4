import CatalogGraph.Discovery.Settings
import CatalogGraph.Discovery.Walker
import CatalogGraph.Joins.Detection
import CatalogGraph.Query.Service

/-!
# Settings

The settings are sections for the engine connections, the worker, discovery, the cache, queries and
joins. Every section and every field of one may be missing; only a connection must have both of its
fields.
-/

namespace CatalogGraph

open Json

namespace Settings

/-! ## Connections -/

/-- A connection to an engine: the driver of the worker, and the text that the driver connects by,
in which variables are not yet replaced. -/
structure Connection where
  driver : String
  connectionString : String
deriving DecidableEq, Repr

namespace Connection

/-- The connection as a JSON record. -/
def toJson (c : Connection) : Json :=
  .object [("driver", .string c.driver), ("connection_string", .string c.connectionString)]

/-- A connection as a record. -/
def recordType : RecordType Connection where
  title := "struct ConnectionSettings"
  slots :=
    [.of "driver" true Decoder.string fun v c => { c with driver := v },
     .of "connection_string" true Decoder.string fun v c => { c with connectionString := v }]
  blank := ⟨"", ""⟩

end Connection

/-! ## The worker -/

/-- The connection pools of the worker. -/
structure Pool where
  maxIdle : Nat
  maxOpen : Nat
  maxLifetime : String
  maxIdleTime : String
deriving DecidableEq, Repr

namespace Pool

/-- Few connections that are closed after minutes. -/
def standard : Pool := ⟨5, 10, "5m", "1m"⟩

/-- The pools as a JSON record. -/
def toJson (p : Pool) : Json :=
  .object [("max_idle_conns", .int p.maxIdle), ("max_open_conns", .int p.maxOpen),
    ("conn_max_lifetime", .string p.maxLifetime), ("conn_max_idle_time", .string p.maxIdleTime)]

/-- Pools as a record. -/
def recordType : RecordType Pool where
  title := "struct PoolSettings"
  slots :=
    [.of "max_idle_conns" false Decoder.nat32 fun v p => { p with maxIdle := v },
     .of "max_open_conns" false Decoder.nat32 fun v p => { p with maxOpen := v },
     .of "conn_max_lifetime" false Decoder.string fun v p => { p with maxLifetime := v },
     .of "conn_max_idle_time" false Decoder.string fun v p => { p with maxIdleTime := v }]
  blank := standard

/-- The arguments by which the worker is told about its pools. -/
def arguments (p : Pool) : List String :=
  ["-pool", "-pool-max-idle=" ++ Text.decimal p.maxIdle,
   "-pool-max-open=" ++ Text.decimal p.maxOpen, "-pool-conn-lifetime=" ++ p.maxLifetime,
   "-pool-conn-idle=" ++ p.maxIdleTime]

end Pool

/-- The worker: where its program is, how long a request may take, and its pools. -/
structure Worker where
  path : Option String
  timeoutSeconds : Nat
  pool : Pool
deriving DecidableEq, Repr

namespace Worker

/-- How long a request may take, in seconds. -/
def standardTimeout : Nat := 30

/-- A worker whose program is looked for. -/
def standard : Worker := ⟨none, standardTimeout, Pool.standard⟩

/-- The worker as a JSON record. -/
def toJson (w : Worker) : Json :=
  .object [("path", Json.orNull (w.path.map .string)), ("timeout_seconds", .int w.timeoutSeconds),
    ("pool", w.pool.toJson)]

/-- A worker as a record. -/
def recordType : RecordType Worker where
  title := "struct WorkerSettings"
  slots :=
    [.of "path" false (Decoder.optional Decoder.string) fun v w => { w with path := v },
     .of "timeout_seconds" false Decoder.nat64 fun v w => { w with timeoutSeconds := v },
     (Slot.of "pool" false Pool.recordType.decode fun v w => { w with pool := v }).shaped
       Pool.recordType.shape]
  blank := standard

end Worker

/-! ## Cache, queries and joins -/

/-- The cache: whether it is read, and where its database is. -/
structure Cache where
  enabled : Bool
  path : Option String
deriving DecidableEq, Repr

namespace Cache

/-- A cache that is read, at the place that the user has for caches. -/
def standard : Cache := ⟨true, none⟩

/-- The cache as a JSON record. -/
def toJson (c : Cache) : Json :=
  .object [("enabled", .bool c.enabled), ("path", Json.orNull (c.path.map .string))]

/-- A cache as a record. -/
def recordType : RecordType Cache where
  title := "struct CacheSettings"
  slots :=
    [.of "enabled" false Decoder.bool fun v c => { c with enabled := v },
     .of "path" false (Decoder.optional Decoder.string) fun v c => { c with path := v }]
  blank := standard

end Cache

/-- The limit of queries that name none, as a record. -/
def queryRecord : RecordType Int where
  title := "struct QuerySettings"
  slots := [.of "default_limit" false Decoder.int64 fun v _ => v]
  blank := Query.standardLimit

/-- The strategies by their names. -/
def strategies : List (String × Joins.Strategy) :=
  [Joins.Strategy.sameSchema, Joins.Strategy.global].map fun s => (s.name, s)

/-- A strategy: its name, or an empty table or array under its name. -/
def strategyDecoder : Decoder Joins.Strategy
  | .string s => Decoder.named strategies s
  | .object [(name, .object [])] => Decoder.named strategies name
  | .object [(name, .array [])] => Decoder.named strategies name
  | j => .error (.kind j.describe "string or map")

/-- The strategy of join detection, as a record. -/
def joinsRecord : RecordType Joins.Strategy where
  title := "struct JoinSettings"
  slots := [.of "strategy" false strategyDecoder fun v _ => v]
  blank := .sameSchema

end Settings

/-! ## All settings -/

/-- The settings. -/
structure Settings where
  connections : Dictionary Settings.Connection
  worker : Settings.Worker
  discovery : Discovery.Settings
  cache : Settings.Cache
  /-- The limit of queries that name none. -/
  defaultLimit : Int
  strategy : Joins.Strategy

namespace Settings

/-- The settings where nothing is set. -/
def standard : Settings :=
  ⟨[], Worker.standard, .standard, Cache.standard, Query.standardLimit, .sameSchema⟩

/-- The settings as a JSON record. -/
def toJson (s : Settings) : Json :=
  .object [("connections", .object (s.connections.map fun (name, c) => (name, c.toJson))),
    ("worker", s.worker.toJson), ("discovery", s.discovery.toJson), ("cache", s.cache.toJson),
    ("query", .object [("default_limit", .int s.defaultLimit)]),
    ("joins", .object [("strategy", .string s.strategy.name)])]

/-- Settings as a record. -/
def recordType : RecordType Settings where
  title := "struct Settings"
  slots :=
    [(Slot.of "connections" false (Decoder.dictionary Connection.recordType.decode) fun v s =>
       { s with connections := v }).shaped (.dictionary Connection.recordType.shape),
     (Slot.of "worker" false Worker.recordType.decode fun v s => { s with worker := v }).shaped
       Worker.recordType.shape,
     (Slot.of "discovery" false Discovery.Settings.recordType.decode fun v s =>
       { s with discovery := v }).shaped Discovery.Settings.recordType.shape,
     (Slot.of "cache" false Cache.recordType.decode fun v s => { s with cache := v }).shaped
       Cache.recordType.shape,
     (Slot.of "query" false queryRecord.decode fun v s => { s with defaultLimit := v }).shaped
       queryRecord.shape,
     (Slot.of "joins" false joinsRecord.decode fun v s => { s with strategy := v }).shaped
       joinsRecord.shape]
  blank := standard

/-- How a walker works under the settings. -/
def walkerOptions (s : Settings) : Discovery.Options :=
  ⟨s.discovery.replaceInvalid, s.cache.enabled⟩

/-- The connection named `default`, or the first one in the order of their names. -/
def defaultConnection? (s : Settings) : Option (String × Connection) :=
  match Dictionary.find? s.connections "default" with
  | some c => some ("default", c)
  | none => s.connections.head?

end Settings

end CatalogGraph
