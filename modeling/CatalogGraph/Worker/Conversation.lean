import CatalogGraph.Worker.Client
import CatalogGraph.Worker.Link
import CatalogGraph.Worker.Process

/-!
# Conversations with a worker

A conversation is a client and the worker process that it talks to. All calls that are made at once
are sent in their order before the worker reads the first of them. Then the worker reads one request
after the other; the client hears the lines that are written for it, and the calls whose requests
have been answered end or are sent again. When the worker reads nothing more, time passes until the
requests that are still under way are overdue, in the order of the calls.

Everything that the client does in a conversation is done by actions of the client.
-/

namespace CatalogGraph.Worker

/-- A client and its worker, how many seconds a request may take, and how many requests there have
been. -/
structure Conversation where
  client : Client
  process : Process
  seconds : Nat
  count : Nat

/-- A call whose request is under way, or what came of it. -/
inductive Task where
  | waiting (call : Call) (id : String)
  | done (outcome : Outcome)

/-- What came of a task; one that is still under way has no reply. -/
def Task.outcome : Task → Outcome
  | .waiting _ _ => .error .channelClosed
  | .done outcome => outcome

/-- How many requests a task may still have answered. -/
def Task.weight : Task → Nat
  | .waiting (.once _) _ => 1
  | .waiting (.patient _) _ => 2
  | .done _ => 0

namespace Conversation

/-- A conversation with a worker that has just been started. The client of a worker that has ended
at once has met the end of its output. -/
def start (arguments : List String) (script : List Reaction) (seconds : Nat) : Conversation :=
  let process := Process.start arguments script
  let client := if process.runs then .start else Client.start.actAll [.drain, .finish]
  ⟨client, process, seconds, 0⟩

/-- The id of the `n`-th request: thirty-six characters in five groups. -/
def idText (n : Nat) : String :=
  let digits := Text.decimal n
  "00000000-0000-4000-8000-" ++ String.ofList (List.replicate (12 - digits.length) '0') ++ digits

/-- The fault of a line that is written to a closed input. -/
def brokenPipe : String := "Broken pipe (os error 32)"

/-! ## Tasks -/

/-- Sends the request of a call under a new id. -/
def send (c : Conversation) (call : Call) : Task × Conversation :=
  let id := idText c.count
  let client := c.client.act (.begin id)
  let c := { c with client := client, count := c.count + 1 }
  match client.ending? id with
  | some ending => (.done (ending.outcome c.seconds), c)
  | none =>
    let client := client.act (.register id)
    if c.process.accepts then
      (.waiting call id,
        { c with client := client.act (.write id), process := c.process.post id call.request })
    else
      let ending := Ending.unwritten brokenPipe
      (.done (ending.outcome c.seconds),
        { c with client := client.actAll [.failWrite id brokenPipe, .leave id] })

/-- Sends the requests of calls, in their order. -/
def sendAll (c : Conversation) : List Call → List Task × Conversation
  | [] => ([], c)
  | call :: rest =>
    let (task, c) := c.send call
    let (tasks, c) := c.sendAll rest
    (task :: tasks, c)

/-- Ends a call by an outcome, or sends the call that follows it. -/
def conclude (c : Conversation) (call : Call) (outcome : Outcome) : Task × Conversation :=
  match call.after outcome with
  | some next => c.send next
  | none => (.done outcome, c)

/-- Does one thing for every task, in their order. -/
def forTasks (step : Conversation → Task → Task × Conversation) (c : Conversation) :
    List Task → List Task × Conversation
  | [] => ([], c)
  | task :: rest =>
    let (task, c) := step c task
    let (rest, c) := c.forTasks step rest
    (task :: rest, c)

/-- Lets a task take its reply, if there is one. -/
def resume (c : Conversation) : Task → Task × Conversation
  | .done outcome => (.done outcome, c)
  | .waiting call id =>
    match (c.client.act (.receive id)).ending? id with
    | none => (.waiting call id, c)
    | some ending =>
      { c with client := c.client.act (.receive id) }.conclude call (ending.outcome c.seconds)

/-- Lets the time of a task run out. -/
def expire (c : Conversation) : Task → Task × Conversation
  | .done outcome => (.done outcome, c)
  | .waiting call id =>
    { c with client := c.client.actAll [.expire id, .leave id] }.conclude call
      (Ending.overdue.outcome c.seconds)

/-! ## The course of a conversation -/

/-- The client hears the lines, and the end of the output if the worker has ended. -/
def hear (c : Conversation) (lines : List String) (process : Process) : Conversation :=
  let client := c.client.actAll (lines.map .hear)
  { c with
    client := if process.runs then client else client.actAll [.drain, .finish]
    process := process }

/-- Goes on until no task is under way, at most so many steps. -/
def proceed (c : Conversation) (tasks : List Task) : Nat → List Task × Conversation
  | 0 => (tasks, c)
  | steps + 1 =>
    if tasks.all fun task => task.weight = 0 then (tasks, c)
    else
      let (tasks, c) := match c.process.read? with
        | some (lines, process) => (c.hear lines process).forTasks resume tasks
        | none => c.forTasks expire tasks
      c.proceed tasks steps

/-- How many steps a conversation takes at most: every step reads a request from the input or uses
up a request of a task, and a request that is used up can put one into the input. -/
def bound (c : Conversation) (tasks : List Task) : Nat :=
  c.process.inbox.length + 2 * tasks.foldr (fun task sum => task.weight + sum) 0

/-- Makes calls at once, and waits for what comes of them. -/
def callAll (calls : List Call) (c : Conversation) : List Outcome × Conversation :=
  let (tasks, c) := c.sendAll calls
  let (tasks, c) := c.proceed tasks (c.bound tasks)
  (tasks.map Task.outcome, c)

/-- Makes one call, and waits for what comes of it. -/
def request (r : Request) (c : Conversation) : Outcome × Conversation :=
  match c.callAll [.once r] with
  | (outcome :: _, c) => (outcome, c)
  | ([], c) => (.error .channelClosed, c)

/-- The conversation as a link. -/
def link : Link Conversation := ⟨request, fun calls c => c.callAll calls⟩

end Conversation

end CatalogGraph.Worker
