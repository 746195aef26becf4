import CatalogGraph.Worker.Reply

/-!
# The client of the worker

Many requests can be under way at once, and one reader handles what the worker writes. They share a
register of the ids that wait for a reply. The reader takes the id of a reply out of the register
and puts the reply into the slot of the request, where the request finds it; a reply whose id is not
registered is dropped.

Whatever the requests and the reader do is one of a few actions, and each visit to the register is
an action of its own. Between the actions of one request anything may happen to the others. `act?`
says which actions are possible and what they lead to.

* A request begins by looking whether the reader is still there. It is then registered, and then its
  line is written. From then on it waits for its slot to be filled or for its time to run out.
* A request whose line cannot be written, or whose time runs out, leaves the register before it
  ends.
* At the end of what the worker writes, the reader drains the register: every registered request
  gets a reply that says so. After that the reader is gone.
-/

namespace CatalogGraph.Worker

/-- How a request ends. -/
inductive Ending where
  | replied (reply : Reply)
  /-- The reader was gone before the request was registered. -/
  | refused
  /-- The line could not be written. -/
  | unwritten (cause : String)
  | overdue

/-- How far a request has come. -/
inductive Stage where
  /-- The reader was there when the request looked. -/
  | checked
  | registered
  /-- The line is written. -/
  | waiting
  /-- The request ends as soon as it has left the register. -/
  | leaving (ending : Ending)
  | ended (ending : Ending)

/-- How far the reader has come. -/
inductive Reader where
  | reading
  /-- The register has been drained. -/
  | drained
  | gone
deriving DecidableEq, Repr

/-- The reader, the register, the slots that were filled, and the requests by id. -/
structure Client where
  reader : Reader
  pending : List String
  slots : List (String × Reply)
  stages : List (String × Stage)

/-- What a request or the reader does. -/
inductive Action where
  /-- A new request looks whether the reader is there. -/
  | begin (id : String)
  | register (id : String)
  | write (id : String)
  | failWrite (id cause : String)
  /-- A request takes the reply out of its slot. -/
  | receive (id : String)
  /-- The time of a request runs out. -/
  | expire (id : String)
  /-- A request leaves the register. -/
  | leave (id : String)
  /-- The reader handles a line. -/
  | hear (line : String)
  /-- The reader meets the end and drains the register. -/
  | drain
  /-- The reader is gone. -/
  | finish

namespace Client

/-- A client without requests. -/
def start : Client := ⟨.reading, [], [], []⟩

/-- How far the request of an id has come. -/
def stage? (c : Client) (id : String) : Option Stage := c.stages.lookup id

/-- The reply in the slot of a request. -/
def slot? (c : Client) (id : String) : Option Reply := c.slots.lookup id

/-- The client with a request at a stage. -/
def enter (c : Client) (id : String) (stage : Stage) : Client :=
  { c with stages := (id, stage) :: c.stages.filter fun entry => entry.1 != id }

/-- The client after a reply was handled. -/
def deliver (c : Client) (reply : Reply) : Client :=
  if c.pending.contains reply.id then
    { c with pending := c.pending.filter (· != reply.id), slots := (reply.id, reply) :: c.slots }
  else c

/-- What an action leads to, if it is possible. -/
def act? (c : Client) : Action → Option Client
  | .begin id =>
    if (c.stage? id).isSome then none
    else some (c.enter id (if c.reader = .gone then .ended .refused else .checked))
  | .register id =>
    match c.stage? id with
    | some .checked => some { c.enter id .registered with pending := id :: c.pending }
    | _ => none
  | .write id =>
    match c.stage? id with
    | some .registered => some (c.enter id .waiting)
    | _ => none
  | .failWrite id cause =>
    match c.stage? id with
    | some .registered => some (c.enter id (.leaving (.unwritten cause)))
    | _ => none
  | .receive id =>
    match c.stage? id, c.slot? id with
    | some .waiting, some reply => some (c.enter id (.ended (.replied reply)))
    | _, _ => none
  | .expire id =>
    match c.stage? id, c.slot? id with
    | some .waiting, none => some (c.enter id (.leaving .overdue))
    | _, _ => none
  | .leave id =>
    match c.stage? id with
    | some (.leaving ending) =>
      some { c.enter id (.ended ending) with pending := c.pending.filter (· != id) }
    | _ => none
  | .hear line =>
    if c.reader = .reading then
      match Reply.ofLine? line with
      | some reply => some (c.deliver reply)
      | none => some c
    else none
  | .drain =>
    if c.reader = .reading then
      some ⟨.drained, [], (c.pending.map fun id => (id, Reply.ofExit id)) ++ c.slots, c.stages⟩
    else none
  | .finish => if c.reader = .drained then some { c with reader := .gone } else none

/-- The client after an action; an action that is not possible changes nothing. -/
def act (c : Client) (action : Action) : Client := (c.act? action).getD c

/-- The client after actions. -/
def actAll (c : Client) (actions : List Action) : Client := actions.foldl act c

/-- How the request of an id ended. -/
def ending? (c : Client) (id : String) : Option Ending :=
  match c.stage? id with
  | some (.ended ending) => some ending
  | _ => none

end Client

/-- What comes of a request that ends so, where a request may take `seconds`. -/
def Ending.outcome (seconds : Nat) : Ending → Outcome
  | .replied reply => reply.outcome
  | .refused => .error .exited
  | .unwritten cause => .error (.writeFailed cause)
  | .overdue => .error (.timeout seconds)

end CatalogGraph.Worker
