import CatalogGraph.Worker.Exchange

/-!
# Scripted workers

A scripted worker stands in for a worker process. It reads its requests one after the other, and for
each of them has a reaction in store: the lines that it writes, and how it goes on. It ends when no
reaction is left. What it reads and does is kept.
-/

namespace CatalogGraph.Worker

/-- How a worker goes on after it has written the lines of a reaction. -/
inductive Sequel where
  /-- It reads the next request. -/
  | goesOn
  /-- It reads the next request, and will not answer this one. -/
  | keepsSilent
  /-- It ends. -/
  | ends
  /-- It has closed its input before it wrote the lines, and reads no more. -/
  | closesInput
  /-- It ends before it reads anything. -/
  | neverStarts
deriving DecidableEq, Repr

/-- The lines that are written for a request, and what follows. In the lines `$ID` stands for the id
of the request and `$PREV` for the id of the request before it. -/
structure Reaction where
  lines : List String
  sequel : Sequel
deriving DecidableEq, Repr

/-- Something that a worker read or did. -/
inductive Sight where
  | request (r : Request)
  | silence
  | exit

/-- A worker process: what it was started with, the reactions that it still has, the requests in its
input, the id of the request that it read last, whether it reads its input, whether it runs, and
what happened. -/
structure Process where
  arguments : List String
  script : List Reaction
  inbox : List (String × Request)
  previous : String
  listens : Bool
  runs : Bool
  seen : List Sight

namespace Process

/-- A worker with a script. -/
def start (arguments : List String) (script : List Reaction) : Process :=
  let runs := match script with
    | r :: _ => r.sequel != .neverStarts
    | [] => true
  ⟨arguments, script, [], "", true, runs, []⟩

/-- Whether a line can be written to the worker. -/
def accepts (p : Process) : Bool := p.runs && p.listens

/-- The worker with a request in its input. -/
def post (p : Process) (id : String) (r : Request) : Process :=
  { p with inbox := p.inbox ++ [(id, r)] }

/-- The lines of a text with the ids put in. -/
def fill (id previous text : String) : List String :=
  ((text.replace "$ID" id).replace "$PREV" previous).splitOn "\n"

/-- Reads the next request, and gives back the lines that are written for it. -/
def read? (p : Process) : Option (List String × Process) :=
  if p.accepts then
    match p.inbox with
    | [] => none
    | (id, r) :: inbox =>
      match p.script with
      | [] =>
        some ([], { p with
          inbox := inbox
          previous := id
          runs := false
          seen := p.seen ++ [.request r, .exit] })
      | reaction :: script =>
        let sight := match reaction.sequel with
          | .keepsSilent => [Sight.silence]
          | .ends => [Sight.exit]
          | _ => []
        some (reaction.lines.flatMap (fill id p.previous),
          { p with
            script := script
            inbox := inbox
            previous := id
            listens := reaction.sequel != .closesInput
            runs := reaction.sequel != .ends
            seen := p.seen ++ .request r :: sight })
  else none

end Process

end CatalogGraph.Worker
