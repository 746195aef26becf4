import CatalogGraph.Cache.Namespace
import CatalogGraph.Discovery.Fixture
import CatalogGraph.Query.Service
import CatalogGraph.Schema.Registry
import CatalogGraph.Worker.Conversation
import CatalogGraph.Worker.Program

/-!
# What commands work with

A command works in a world: the files, the environment, and what the program of the worker does when
it is started. It asks a source that is either a fixture or the engine behind a worker, with a cache
before it. A command can fail; what it did before stays done.
-/

namespace CatalogGraph.CommandLine

open Discovery

/-! ## Failures -/

/-- Why a command fails. -/
inductive Failure where
  | settings (fault : Settings.Fault)
  | noConnection
  | source (e : SourceError)
  | cache (fault : Files.OpenFault)
  | collision (c : Schema.Collision)
  /-- A filter is no JSON text of a filter. -/
  | filter (text : String)
  | query (e : Query.Failure)

/-- The text of a failure. -/
def Failure.message : Failure → String
  | .settings fault => fault.message
  | .noConnection =>
    "no connections configured; add a [connections.<name>] section or pass --fixture"
  | .source e => e.message
  | .cache fault => fault.message
  | .collision c => c.message
  | .filter text => "invalid filter '" ++ text ++ "': "
  | .query e => e.message

/-! ## The world -/

/-- The files, the environment, what the program of the worker does, the worker that was started,
and the events that were told. -/
structure World where
  tree : Files.Tree
  env : Environment
  script : List Worker.Reaction
  worker : Option Worker.Process
  events : List Event

/-- Something done in a world, which may fail. -/
abbrev Work := ExceptT Failure (StateM World)

/-- Work that gives back a result without doing anything, or fails. -/
def Work.ofExcept {ε α : Type} (wrap : ε → Failure) (result : Except ε α) : Work α :=
  match result with
  | .ok a => return a
  | .error e => throw (wrap e)

/-- The settings, and the name of the connection that is to be used. -/
structure Context where
  settings : Settings
  connection : Option String

/-! ## Sources -/

/-- What a command asks: a fixture, or the engine over a connection through a worker, with a
namespace of an open database before it. -/
inductive Backend where
  | fixture (f : Fixture)
  | engine (c : Worker.Connection) (talk : Worker.Conversation) (opened : Files.OpenDatabase)
      (space : String)

namespace Context

/-- The connection that is to be used. -/
def chosen (ctx : Context) : Work Worker.Connection := do
  let c ← match ctx.connection with
    | some name => Work.ofExcept .settings (ctx.settings.connection name)
    | none =>
      match ctx.settings.defaultConnection? with
      | some (_, c) => pure c
      | none => throw .noConnection
  let text ← Work.ofExcept .settings (c.resolved (← get).env)
  return ⟨c.driver, text⟩

/-- Opens the database of the cache, and gives it back with the namespace of the connection. -/
def openCache (ctx : Context) : Work (Files.OpenDatabase × String) := do
  let c ← ctx.chosen
  let env := (← get).env
  let path ← Work.ofExcept .settings (ctx.settings.cachePath env)
  let (opened, tree) ← Work.ofExcept .cache ((← get).tree.openDatabase path)
  modify fun world => { world with tree := tree }
  return (opened, Cache.connectionNamespace c.driver c.connectionString)

/-- Starts the worker. -/
def startWorker (ctx : Context) : Work Worker.Conversation := do
  let world ← get
  Work.ofExcept (fun e => .source (.worker e))
    (Worker.checkProgram ctx.settings.worker world.tree world.env)
  return .start ctx.settings.worker.pool.arguments world.script ctx.settings.worker.timeoutSeconds

end Context

/-- The fixture in a file. -/
def readFixture (tree : Files.Tree) (path : String) : Except SourceError Fixture :=
  match tree.find path with
  | .file (.text s) =>
    match Fixture.ofText? s with
    | some f => .ok f
    | none => .error (.unavailable "invalid fixture: ")
  | _ => .error (.unavailable ("cannot read " ++ path))

/-- The fixture that is named, or else the engine. -/
def Context.backend (ctx : Context) (fixture : Option String) : Work Backend := do
  match fixture with
  | some path => return .fixture (← Work.ofExcept .source (readFixture (← get).tree path))
  | none =>
    let c ← ctx.chosen
    let talk ← ctx.startWorker
    let (opened, space) ← ctx.openCache
    return .engine c talk opened space

namespace Backend

/-- Keeps the cache and what the worker did, and tells the events. -/
def keep (session : Session Worker.Conversation) (opened : Files.OpenDatabase) : Work Unit :=
  modify fun world =>
    { world with
      tree := world.tree.keep ⟨opened.place, session.store.database?.getD opened.db⟩
      worker := some session.source.process
      events := world.events ++ session.events }

/-- Does something with the source and the cache. -/
def run {α : Type} (b : Backend) (act : (σ : Type) → Source σ → Act σ α) : Work α :=
  match b with
  | .fixture f => do
    let (a, session) := act Fixture Fixture.source (.start f .empty)
    modify fun world => { world with events := world.events ++ session.events }
    return a
  | .engine c talk opened space => do
    let source := Worker.Conversation.link.source c
    let (a, session) :=
      act Worker.Conversation source (.start talk (.database opened.db space))
    keep session opened
    return a

end Backend

end CatalogGraph.CommandLine
