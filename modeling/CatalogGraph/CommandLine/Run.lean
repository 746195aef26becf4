import CatalogGraph.CommandLine.Invocation
import CatalogGraph.CommandLine.Work
import CatalogGraph.Joins.Detection
import CatalogGraph.Schema.Assembly
import CatalogGraph.Schema.Document

/-!
# Running commands

A command prints its result. If it fails it prints nothing but the failure, as an error.
-/

namespace CatalogGraph.CommandLine

open Discovery Text

/-- The name and version of the program. -/
def versionLine : String := "catalogql 0.1.0\n"

/-- How the program is used. -/
def usage : String :=
  "Usage: catalogql [-c FILE] [--connection NAME] [-v] COMMAND\n\n" ++
  "  schema [--fixture FILE] [-f sdl|json] [--refresh]\n" ++
  "  query CATALOG SCHEMA TABLE [-l N] [-f JSON]... [--fixture FILE] [--dry-run]\n" ++
  "  joins CATALOG [-s same-schema|global] [--fixture FILE] [--json] [--refresh]\n" ++
  "  cache stats\n" ++
  "  cache clear [--catalog NAME]\n" ++
  "  sanitize NAME...\n" ++
  "  restore NAME...\n"

/-! ## Commands -/

/-- How a walker works for a command, which may ask that the cache is not read. -/
def Context.options (ctx : Context) (refresh : Bool) : Options :=
  let options := ctx.settings.walkerOptions
  ⟨options.replaceInvalid, options.useCache && !refresh⟩

/-- The schema of everything that is exposed. -/
def runSchema (ctx : Context) (fixture : Option String) (format : Format) (refresh : Bool) :
    Work String := do
  let backend ← ctx.backend fixture
  let result ← backend.run fun _ source =>
    Schema.assemble ⟨source, ctx.options refresh⟩ ctx.settings.discovery
  let schema ← Work.ofExcept .collision result
  match format with
  | .sdl => return Schema.document schema
  | .json => return schema.toJson.pretty ++ "\n"

/-- The filters of JSON texts. -/
def readFilters (texts : List String) : Except Failure (List Query.Filter) :=
  texts.mapM fun text =>
    match Query.Filter.recordType.ofText? text with
    | some f => .ok f
    | none => .error (.filter text)

/-- A query as it is shown: its text, and its parameters if there are some. -/
def showQuery (query : Query.Bound) : String :=
  query.sql ++ "\n" ++
    if query.params.isEmpty then ""
    else "-- params: " ++ (Json.array (query.params.map Query.Param.toJson)).compact ++ "\n"

/-- The rows of a table, or the query for them. A query that is only shown for no fixture leaves the
engine alone. -/
def runQuery (ctx : Context) (request : Query.TableRequest) (fixture : Option String)
    (dryRun : Bool) : Work String := do
  let limit := ctx.settings.defaultLimit
  let backend ← if dryRun && fixture.isNone then pure (.fixture .empty) else ctx.backend fixture
  if dryRun then
    let service : Query.Service Fixture := ⟨Fixture.source, limit⟩
    return showQuery (← Work.ofExcept (fun e => .query (.fault e)) (service.prepare request))
  else
    let result ← backend.run fun _ source => Query.Service.query ⟨source, limit⟩ request
    let rows ← Work.ofExcept .query result
    return (Json.array (rows.map Json.object)).pretty ++ "\n"

/-- The join candidates of a catalog. -/
def runJoins (ctx : Context) (catalog : String) (strategy : Option Joins.Strategy)
    (fixture : Option String) (json refresh : Bool) : Work String := do
  let backend ← ctx.backend fixture
  let candidates ← backend.run fun _ source =>
    Joins.detectCatalog ⟨source, ctx.options refresh⟩ (strategy.getD ctx.settings.strategy) catalog
  if json then return (Json.array (candidates.map Joins.Candidate.toJson)).pretty ++ "\n"
  else if candidates.isEmpty then return "No join candidates found in '" ++ catalog ++ "'.\n"
  else return String.join (candidates.map fun c => c.text ++ "\n")

/-- How much is in the cache of the connection. -/
def runCacheStats (ctx : Context) : Work String := do
  let (opened, space) ← ctx.openCache
  let stats := (Cache.Store.database opened.db space).stats
  return "Namespace: " ++ space ++ "\nEntries:   " ++ decimal stats.entries ++
    "\nSize:      " ++ decimal stats.size ++ " bytes\n"

/-- Forgets what is in the cache of the connection. -/
def runCacheClear (ctx : Context) (catalog : Option String) : Work String := do
  let (opened, space) ← ctx.openCache
  let (n, store) := (Cache.Store.database opened.db space).invalidate catalog
  modify fun world =>
    { world with tree := world.tree.keep ⟨opened.place, store.database?.getD opened.db⟩ }
  return "Removed " ++ decimal n ++ " cache entries.\n"

/-- Names, each on a line of its own. -/
def showNames (names : List String) : String := String.join (names.map (· ++ "\n"))

/-- Runs a command, and gives back what it prints. -/
def Command.run (ctx : Context) : Command → Work String
  | .schema fixture format refresh => runSchema ctx fixture format refresh
  | .query catalog inSchema table limit texts fixture dryRun => do
    let filters ← Work.ofExcept id (readFilters texts)
    runQuery ctx ⟨catalog, inSchema, table, limit, filters⟩ fixture dryRun
  | .joins catalog strategy fixture json refresh =>
    runJoins ctx catalog strategy fixture json refresh
  | .cacheStats => runCacheStats ctx
  | .cacheClear catalog => runCacheClear ctx catalog
  | .sanitize names => return showNames (names.map Name.sanitize)
  | .restore names => return showNames (names.map Name.restore)

/-! ## Runs -/

/-- What a run leaves: its exit code and what it prints as its result and as errors. -/
structure Report where
  code : Nat
  out : String
  err : String
deriving DecidableEq, Repr

/-- The exit code of a command line that makes no sense. -/
def misusedCode : Nat := 2

/-- A run that succeeds. -/
def Report.success (out : String) : Report := ⟨0, out, ""⟩

/-- A run that fails. -/
def Report.failure (context message : String) : Report := ⟨1, "", context ++ message ++ "\n"⟩

/-- The settings of an invocation. -/
def Invocation.settings (i : Invocation) (world : World) : Except Settings.Fault Settings :=
  match i.config with
  | some path => Settings.ofFile world.tree path
  | none => Settings.load world.tree world.env

/-- Runs the program for an invocation. -/
def Invocation.run (i : Invocation) (world : World) : Report × World :=
  match i.settings world with
  | .error fault => (.failure "Error loading config: " fault.message, world)
  | .ok settings =>
    match i.command.run ⟨settings, i.connection⟩ world with
    | (.ok out, world) => (.success out, world)
    | (.error e, world) => (.failure "Error: " e.message, world)

/-- Runs the program with arguments. -/
def run (args : List String) (world : World) : Report × World :=
  match demand args with
  | .run i => i.run world
  | .version => (.success versionLine, world)
  | .help => (.success usage, world)
  | .misused => (⟨misusedCode, "", usage⟩, world)

end CatalogGraph.CommandLine
