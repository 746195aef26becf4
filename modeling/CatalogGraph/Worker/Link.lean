import CatalogGraph.Discovery.Source
import CatalogGraph.Worker.Exchange

/-!
# The worker as a source

A link carries requests to a worker and gives back what comes of them. Discovery asks through a link
patiently: a request that fails in a way that may pass is sent once more. A query is sent once.

Calls that are made at once are planned first: a plan is a call and what is made of its outcome.
-/

namespace CatalogGraph.Worker

/-- A request, and whether it may be sent a second time. -/
inductive Call where
  | once (request : Request)
  | patient (request : Request)

namespace Call

/-- The request that is sent first. -/
def request : Call → Request
  | .once r => r
  | .patient r => r

/-- The call that follows an outcome, if one does. -/
def after : Call → Outcome → Option Call
  | .patient r, .error e => if e.isRetriable then some (.once r) else none
  | _, _ => none

/-- Sends a call, and the call that follows it; the last outcome counts. -/
def perform {σ : Type} (send : Request → σ → Outcome × σ) (call : Call) (s : σ) : Outcome × σ :=
  let (first, s) := send call.request s
  match call.after first with
  | some next => send next.request s
  | none => (first, s)

end Call

/-- A call that is to be made, and what is made of its outcome. -/
structure Plan (ε α : Type) where
  call : Call
  answer : Outcome → Except ε α

namespace Plan

variable {ε α : Type}

/-- The answers of plans, which take the outcomes in their order. What could not be planned is
answered by its fault and takes none. -/
def answers : List (Except ε (Plan ε α)) → List Outcome → List (Except ε α)
  | [], _ => []
  | .error e :: plans, outcomes => .error e :: answers plans outcomes
  | .ok plan :: plans, outcome :: outcomes => plan.answer outcome :: answers plans outcomes
  | .ok _ :: _, [] => []

/-- The calls of plans. -/
def calls (plans : List (Except ε (Plan ε α))) : List Call :=
  plans.filterMap fun plan => plan.toOption.map Plan.call

end Plan

/-- A way to a worker, which has a state: one request at a time, or several calls at once, whose
outcomes are in the order of the calls. -/
structure Link (σ : Type) where
  send : Request → σ → Outcome × σ
  sendAll : List Call → σ → List Outcome × σ

namespace Link

variable {σ ε α : Type}

/-- Carries out plans at once. -/
def carryOut (link : Link σ) (plans : List (Except ε (Plan ε α))) (s : σ) :
    List (Except ε α) × σ :=
  let (outcomes, s) := link.sendAll (Plan.calls plans) s
  (Plan.answers plans outcomes, s)

/-- Asks by a call, and reads the outcome. -/
def ask (link : Link σ) (call : Request → Call) (e : Exchange α) (s : σ) :
    Discovery.Answer α × σ :=
  let (outcome, s) := (call e.request).perform link.send s
  ((e.read outcome).mapError .worker, s)

/-- Asks patiently for several results at once. -/
def askAll (link : Link σ) (es : List (Exchange α)) (s : σ) : List (Discovery.Answer α) × σ :=
  let (outcomes, s) := link.sendAll (es.map fun e => .patient e.request) s
  (es.zipWith (fun e outcome => (e.read outcome).mapError .worker) outcomes, s)

/-- The worker as a source, over a connection to the engine. -/
def source (link : Link σ) (c : Connection) : Discovery.Source σ where
  catalogs := link.ask .patient (.listCatalogs c)
  schemas catalog := link.ask .patient (.listSchemas c catalog)
  tables catalog schema := link.ask .patient (.listTables c catalog schema)
  columns catalog schema table := link.ask .patient (.describeColumns c catalog schema table)
  together := some fun catalog schema tables =>
    link.askAll (tables.map fun table => .describeColumns c catalog schema table)
  rows query s :=
    let (answer, s) := link.ask .once (.executeQuery c query.sql query.args) s
    (answer.map ResultTable.toRows, s)

end Link

end CatalogGraph.Worker
