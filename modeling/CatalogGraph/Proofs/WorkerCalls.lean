import CatalogGraph.Proofs.ClientRuns
import CatalogGraph.Proofs.Digits
import CatalogGraph.Worker.Conversation
import Mathlib.Algebra.GroupWithZero.Nat
import Mathlib.Algebra.Order.Group.Multiset
import Mathlib.Data.List.Forall2

/-!
# Calls to the worker

What comes of calls that are made at once: each call has a course, the outcomes of its requests in
their order. A request that is sent once has one outcome. A patient call has a second request
exactly if the outcome of the first may pass, and never a third one. The last outcome is what the
call gives back. The worker is written the request of each call once for every outcome, unless the
last outcome is that it could not be written, and it is written nothing else (`runs_callAll`).

All tasks move on in steps. A step keeps that every task has gone the first part of a course, that
the conversation has counted the requests of all courses, and that the worker was written those of
them that could be written; and it brings the conversation closer to its end, so that no task is
under way after `bound` steps.
-/

namespace CatalogGraph.Worker

/-! ## Courses -/

theorem Error.isRetriable_iff (e : Error) : e.isRetriable = true ↔
    (∃ seconds, e = .timeout seconds) ∨ ∃ message, e = .connectionFailed message := by
  cases e <;> simp [isRetriable]

/-- The outcome is one after which a second request is worthwhile: the time ran out, or the engine
was not reached. -/
def Passing (outcome : Outcome) : Prop :=
  (∃ seconds, outcome = .error (.timeout seconds)) ∨
    ∃ message, outcome = .error (.connectionFailed message)

theorem passing_error_iff (e : Error) : Passing (.error e) ↔ e.isRetriable = true := by
  simp [Passing, Error.isRetriable_iff]

/-- The outcome of a request that was not written: the worker had ended, or could not be written
to. -/
def Unwritten (outcome : Outcome) : Prop :=
  outcome = .error .exited ∨ ∃ cause, outcome = .error (.writeFailed cause)

/-- What came of a call: the outcomes of its requests in their order, and the requests that were
written to the worker. -/
structure Run where
  outcomes : List Outcome
  written : List Request

namespace Call

/-- The outcomes of the requests that are sent for a call. -/
def Course : Call → List Outcome → Prop
  | .once _, outcomes => outcomes.length = 1
  | .patient _, [only] => ¬ Passing only
  | .patient _, [first, _] => Passing first
  | .patient _, _ => False

variable {call next : Call} {outcome : Outcome} {outcomes : List Outcome}

/-- A call is followed by another one only if it is patient and the outcome may pass. -/
theorem after_eq_some_iff : call.after outcome = some next ↔
    ∃ r, call = .patient r ∧ next = .once r ∧ Passing outcome := by
  cases call with
  | once r => simp [after]
  | patient r =>
    cases outcome with
    | ok j => simp [after, Passing]
    | error e =>
      rw [passing_error_iff]
      by_cases h : e.isRetriable = true
      · simp [after, h, eq_comm]
      · simp [after, h]

theorem course_single (h : call.after outcome = none) : call.Course [outcome] := by
  cases call with
  | once r => rfl
  | patient r =>
    intro hpassing
    have hsome := after_eq_some_iff.2 ⟨r, rfl, rfl, hpassing⟩
    rw [h] at hsome
    cases hsome

theorem course_cons (h : call.after outcome = some next) (hrest : next.Course outcomes) :
    call.Course (outcome :: outcomes) := by
  obtain ⟨r, rfl, rfl, hpassing⟩ := after_eq_some_iff.1 h
  obtain ⟨last, rfl⟩ := List.length_eq_one_iff.1 hrest
  exact hpassing

/-- The call that follows has the same request. -/
theorem request_after (h : call.after outcome = some next) : next.request = call.request := by
  obtain ⟨r, rfl, rfl, -⟩ := after_eq_some_iff.1 h
  rfl

/-- A run of the call: the outcomes are a course of it, and its request was written once for each of
them, but for a last one that says that it was not written. -/
structure Runs (call : Call) (run : Run) : Prop where
  course : call.Course run.outcomes
  written : run.written = List.replicate run.outcomes.length call.request ∨
    ∃ before last, run.outcomes = before ++ [last] ∧ Unwritten last ∧
      run.written = List.replicate before.length call.request

theorem Runs.cons {run : Run} (h : call.after outcome = some next) (hrun : next.Runs run) :
    call.Runs ⟨outcome :: run.outcomes, call.request :: run.written⟩ where
  course := course_cons h hrun.course
  written := by
    have hrequest := request_after h
    rcases hrun.written with hall | ⟨before, last, houtcomes, hunwritten, hbefore⟩
    · left
      rw [hall, hrequest, List.length_cons, List.replicate_succ]
    · right
      refine ⟨outcome :: before, last, ?_, hunwritten, ?_⟩
      · rw [houtcomes, List.cons_append]
      · rw [hbefore, hrequest, List.length_cons, List.replicate_succ]

end Call

/-! ## What the worker is written -/

/-- The request that was read. -/
def Sight.request? : Sight → Option Request
  | .request r => some r
  | .silence => none
  | .exit => none

namespace Process

variable {p next : Process} {lines : List String}

/-- The requests that were written to the worker: those that it has read, and those in its input. -/
def written (p : Process) : List Request :=
  p.seen.filterMap Sight.request? ++ p.inbox.map Prod.snd

theorem written_post (p : Process) (id : String) (r : Request) :
    (p.post id r).written = p.written ++ [r] := by
  unfold written post
  rw [List.map_append, ← List.append_assoc]
  rfl

/-- What the worker reads leaves its input, and is seen. -/
theorem read?_spec (h : p.read? = some (lines, next)) :
    next.inbox.length + 1 = p.inbox.length ∧ next.written = p.written := by
  unfold read? at h
  split at h
  · split at h
    · cases h
    · rename_i id r inbox hinbox
      unfold written
      rw [hinbox]
      split at h
      · cases h
        exact ⟨rfl, by simp [Sight.request?]⟩
      · rename_i reaction script _
        cases h
        refine ⟨rfl, ?_⟩
        cases reaction.sequel <;> simp [Sight.request?]
  · cases h

end Process

/-! ## Tasks on their course -/

/-- Whether the request of a task is under way, as a number of requests. -/
def Task.underway : Task → Nat
  | .waiting _ _ => 1
  | .done _ => 0

@[simp]
theorem underway_waiting (call : Call) (id : String) : (Task.waiting call id).underway = 1 := rfl

@[simp]
theorem underway_done (outcome : Outcome) : (Task.done outcome).underway = 0 := rfl

/-- The request of a task that is under way. -/
def Task.requests : Task → List Request
  | .waiting call _ => [call.request]
  | .done _ => []

/-- The task has come so far on the course of a call, with outcomes so far and the requests that
were written for them. -/
inductive Progress : Call → List Outcome → List Request → Task → Prop where
  | waiting (call : Call) (id : String) : Progress call [] [] (.waiting call id)
  | done {call : Call} {outcome : Outcome} : call.after outcome = none →
      Progress call [outcome] [call.request] (.done outcome)
  | unwritten {call : Call} {outcome : Outcome} : call.after outcome = none → Unwritten outcome →
      Progress call [outcome] [] (.done outcome)
  | again {call next : Call} {outcome : Outcome} {outcomes : List Outcome} {written : List Request}
      {task : Task} : call.after outcome = some next → Progress next outcomes written task →
      Progress call (outcome :: outcomes) (call.request :: written) task

namespace Progress

variable {call next : Call} {outcome : Outcome} {outcomes more : List Outcome}
  {written rest : List Request} {task : Task} {id : String}

theorem runs (h : Progress call outcomes written (.done outcome)) :
    call.Runs ⟨outcomes, written⟩ ∧ outcomes.getLast? = some outcome := by
  generalize htask : Task.done outcome = task at h
  induction h with
  | waiting call id => cases htask
  | done hafter =>
    cases htask
    exact ⟨⟨Call.course_single hafter, .inl rfl⟩, rfl⟩
  | unwritten hafter hunwritten =>
    cases htask
    exact ⟨⟨Call.course_single hafter, .inr ⟨[], outcome, rfl, hunwritten, rfl⟩⟩, rfl⟩
  | again hafter _ ih =>
    obtain ⟨hruns, hlast⟩ := ih htask
    refine ⟨hruns.cons hafter, ?_⟩
    rw [List.getLast?_cons, hlast]
    rfl

/-- The course goes on where the task waits. -/
theorem trans (h : Progress call outcomes written (.waiting next id))
    (hmore : Progress next more rest task) :
    Progress call (outcomes ++ more) (written ++ rest) task := by
  generalize hwaiting : Task.waiting next id = waiting at h
  induction h with
  | waiting call id =>
    cases hwaiting
    exact hmore
  | done hafter => cases hwaiting
  | unwritten hafter hunwritten => cases hwaiting
  | again hafter _ ih => exact .again hafter (ih hwaiting)

end Progress

/-! ## New ids -/

theorem readDecimal_zeros (n : Nat) (digits : List Char) :
    Text.readDecimal (List.replicate n '0' ++ digits) = Text.readDecimal digits := by
  induction n with
  | zero => rfl
  | succ n ih =>
    rw [List.replicate_succ, List.cons_append, ← ih]
    rfl

namespace Conversation

/-- Requests have different ids. -/
theorem idText_injective {m n : Nat} (h : idText m = idText n) : m = n := by
  have hchars := congrArg String.toList h
  unfold idText at hchars
  simp only [String.toList_append, List.append_assoc] at hchars
  have hread := congrArg Text.readDecimal (List.append_cancel_left hchars)
  simpa only [String.toList_ofList, Text.decimal, readDecimal_zeros, Text.readDecimal_toDigits]
    using hread

/-- The ids of the requests to come have not been used. -/
def Fresh (c : Conversation) : Prop := ∀ n, c.count ≤ n → c.client.stage? (idText n) = none

end Conversation

namespace Client

variable {c : Client} {id : String} {action : Action}

/-- Only its beginning makes a request known. -/
theorem stage?_act (h : c.stage? id = none) (hnew : action ≠ .begin id) :
    (c.act action).stage? id = none := by
  have hmove := moves_act c action id
  change (c.status id).stage = none at h
  change ((c.act action).status id).stage = none
  generalize c.status id = s at hmove h
  generalize (c.act action).status id = t at hmove
  cases hmove with
  | stay => exact h
  | refused hstage => exact absurd rfl hnew
  | checked hstage => exact absurd rfl hnew
  | registered hstage => rw [h] at hstage; cases hstage
  | written hstage => rw [h] at hstage; cases hstage
  | unwritten hstage => rw [h] at hstage; cases hstage
  | received hstage _ => rw [h] at hstage; cases hstage
  | expired hstage _ => rw [h] at hstage; cases hstage
  | left hstage => rw [h] at hstage; cases hstage
  | delivered _ _ _ => exact h
  | drained _ => exact h

theorem stage?_actAll (actions : List Action) (h : c.stage? id = none)
    (hnew : ∀ action ∈ actions, action ≠ .begin id) : (c.actAll actions).stage? id = none := by
  unfold actAll
  induction actions generalizing c with
  | nil => exact h
  | cons action rest ih =>
    rw [List.foldl_cons]
    refine ih (stage?_act h (hnew action List.mem_cons_self)) fun other hother => ?_
    exact hnew other (List.mem_cons_of_mem action hother)

end Client

namespace Conversation

variable {c : Conversation} {call : Call} {task : Task}

/-- Nothing but the beginning of the next request uses up an id. -/
theorem Fresh.actAll (h : c.Fresh) (actions : List Action)
    (hnew : ∀ action ∈ actions, ∀ id, action ≠ .begin id) (process : Process) :
    Fresh { c with client := c.client.actAll actions, process := process } := by
  intro n hn
  exact Client.stage?_actAll actions (h n hn) fun action haction => hnew action haction (idText n)

theorem Fresh.begin (h : c.Fresh) (actions : List Action)
    (hnew : ∀ action ∈ actions, ∀ id, action ≠ .begin id) (process : Process) :
    Fresh ⟨(c.client.act (.begin (idText c.count))).actAll actions, process, c.seconds,
      c.count + 1⟩ := by
  intro n hn
  have hle : c.count + 1 ≤ n := hn
  have hother : Action.begin (idText c.count) ≠ .begin (idText n) := by
    intro heq
    have hsame := idText_injective (Action.begin.inj heq)
    omega
  have hbegun := Client.stage?_act (h n (by omega)) hother
  exact Client.stage?_actAll actions hbegun fun action haction => hnew action haction (idText n)

/-- A new request is refused if the reader is gone, and goes on otherwise. -/
theorem ending?_begin (h : c.Fresh) :
    (c.client.act (.begin (idText c.count))).ending? (idText c.count) =
      if c.client.reader = .gone then some .refused else none := by
  have hstage := h c.count (Nat.le_refl _)
  unfold Client.act
  rw [Client.act?, hstage]
  simp only [Option.isSome_none, Bool.false_eq_true, if_false, Option.getD_some, Client.ending?,
    Client.stage?_enter_self]
  by_cases hgone : c.client.reader = .gone
  · simp only [if_pos hgone]
  · simp only [if_neg hgone]

/-! ## One request more -/

/-- A request of a call was sent: it is under way or has come to nothing. -/
structure Sent (c : Conversation) (call : Call) (next : Task × Conversation) : Prop where
  fresh : next.2.Fresh
  count : next.2.count = c.count + 1
  progress : ∃ outcomes written, Progress call outcomes written next.1 ∧
    outcomes.length + next.1.underway = 1 ∧
    next.2.process.written = c.process.written ++ (written ++ next.1.requests)
  closer : next.2.process.inbox.length + 2 * next.1.weight ≤
    c.process.inbox.length + 1 + 2 * (Task.waiting call "").weight

/-- No second request follows an outcome that the client itself gives at once. -/
theorem after_refused : call.after (Ending.refused.outcome c.seconds) = none := by
  cases call <;> rfl

theorem after_unwritten (cause : String) :
    call.after ((Ending.unwritten cause).outcome c.seconds) = none := by
  cases call <;> rfl

theorem sent_send (h : c.Fresh) (call : Call) : c.Sent call (c.send call) := by
  unfold send
  simp only [ending?_begin h]
  by_cases hgone : c.client.reader = .gone
  · simp only [if_pos hgone]
    exact {
      fresh := h.begin [] nofun c.process
      count := rfl
      progress := ⟨_, [], .unwritten after_refused (.inl rfl), rfl, (List.append_nil _).symm⟩
      closer := by simp [Task.weight]; omega }
  · simp only [if_neg hgone]
    by_cases haccepts : c.process.accepts = true
    · simp only [if_pos haccepts]
      exact {
        fresh := h.begin [.register _, .write _] (by simp) _
        count := rfl
        progress := ⟨[], [], .waiting call _, rfl, Process.written_post _ _ _⟩
        closer := by cases call <;> simp [Task.weight, Process.post] }
    · simp only [if_neg haccepts]
      exact {
        fresh := h.begin [.register _, .failWrite _ _, .leave _] (by simp) c.process
        count := rfl
        progress := ⟨_, [], .unwritten (after_unwritten brokenPipe) (.inr ⟨_, rfl⟩), rfl,
          (List.append_nil _).symm⟩
        closer := by simp [Task.weight]; omega }

/-! ## Steps of a task -/

/-- A task went on along its course, and the requests that it sent were counted and written. Of the
steps that are left, so many were spent. -/
structure Advances (c : Conversation) (task : Task) (spent : Nat) (next : Task × Conversation) :
    Prop where
  fresh : next.2.Fresh
  progress : ∃ more rest, (∀ call outcomes written, Progress call outcomes written task →
      Progress call (outcomes ++ more) (written ++ rest) next.1) ∧
    next.2.count + task.underway = c.count + more.length + next.1.underway ∧
    (next.2.process.written ++ task.requests).Perm
      (c.process.written ++ (rest ++ next.1.requests))
  closer : next.2.process.inbox.length + 2 * next.1.weight + spent ≤
    c.process.inbox.length + 2 * task.weight

theorem advances_stay (h : c.Fresh) (task : Task) : c.Advances task 0 (task, c) where
  fresh := h
  progress := ⟨[], [], fun _ _ _ hprogress => by rwa [List.append_nil, List.append_nil], rfl,
    .refl _⟩
  closer := Nat.le_refl _

theorem weight_waiting_pos (call : Call) (id : String) : 1 ≤ (Task.waiting call id).weight := by
  cases call <;> simp [Task.weight]

/-- The call that follows is not patient any more. -/
theorem weight_after {next : Call} {outcome : Outcome} (h : call.after outcome = some next)
    (id : String) : (Task.waiting next "").weight + 1 = (Task.waiting call id).weight := by
  obtain ⟨r, rfl, rfl, -⟩ := Call.after_eq_some_iff.1 h
  rfl

theorem advances_conclude (h : c.Fresh) (call : Call) (id : String) (outcome : Outcome) :
    c.Advances (.waiting call id) 1 (c.conclude call outcome) := by
  cases hafter : call.after outcome with
  | none =>
    have heq : c.conclude call outcome = (.done outcome, c) := by rw [conclude, hafter]
    rw [heq]
    exact {
      fresh := h
      progress := ⟨[outcome], [call.request], fun _ _ _ hprogress =>
        hprogress.trans (.done hafter), rfl, .refl _⟩
      closer := by
        have hpos := weight_waiting_pos call id
        change c.process.inbox.length + 0 + 1 ≤ _
        omega }
  | some next =>
    have heq : c.conclude call outcome = c.send next := by rw [conclude, hafter]
    have hsent := sent_send h next
    obtain ⟨outcomes, written, hnext, hlength, hwritten⟩ := hsent.progress
    rw [heq]
    exact {
      fresh := hsent.fresh
      progress := by
        refine ⟨outcome :: outcomes, call.request :: written, fun _ _ _ hprogress =>
          hprogress.trans (.again hafter hnext), ?_, ?_⟩
        · rw [hsent.count, underway_waiting, List.length_cons]
          omega
        · rw [hwritten, List.append_assoc]
          exact (List.perm_append_singleton _ _).append_left _
      closer := by
        have hcloser := hsent.closer
        have hweight := weight_after hafter id
        omega }

theorem Advances.weaken {next : Task × Conversation} (h : c.Advances task 1 next) :
    c.Advances task 0 next :=
  ⟨h.fresh, h.progress, Nat.le_of_succ_le h.closer⟩

theorem advances_resume (h : c.Fresh) (task : Task) : c.Advances task 0 (c.resume task) := by
  cases task with
  | done outcome => exact advances_stay h _
  | waiting call id =>
    cases hending : (c.client.act (.receive id)).ending? id with
    | none =>
      have heq : c.resume (.waiting call id) = (.waiting call id, c) := by
        simp only [resume, hending]
      rw [heq]
      exact advances_stay h _
    | some ending =>
      have heq : c.resume (.waiting call id) =
          conclude { c with client := c.client.actAll [.receive id] } call
            (ending.outcome c.seconds) := by
        simp only [resume, hending]
        rfl
      have hreceived := h.actAll [.receive id] (by simp) c.process
      have hconclude := advances_conclude hreceived call id (ending.outcome c.seconds)
      rw [heq]
      exact Advances.weaken ⟨hconclude.fresh, hconclude.progress, hconclude.closer⟩

theorem advances_expire (h : c.Fresh) (task : Task) :
    c.Advances task task.underway (c.expire task) := by
  cases task with
  | done outcome => exact advances_stay h _
  | waiting call id =>
    have hexpired := h.actAll [.expire id, .leave id] (by simp) c.process
    have hconclude := advances_conclude hexpired call id (Ending.overdue.outcome c.seconds)
    exact ⟨hconclude.fresh, hconclude.progress, hconclude.closer⟩

/-! ## Steps of all tasks -/

/-- The tasks are on the courses of the calls, and have sent so many requests, of which the given
ones were written. -/
inductive Underway : List Call → List Task → Nat → List Request → Prop where
  | nil : Underway [] [] 0 []
  | cons {call : Call} {outcomes : List Outcome} {written : List Request} {task : Task}
      {calls : List Call} {tasks : List Task} {n : Nat} {requests : List Request} :
      Progress call outcomes written task → Underway calls tasks n requests →
      Underway (call :: calls) (task :: tasks) (outcomes.length + task.underway + n)
        (written ++ task.requests ++ requests)

/-- Between two moments, the requests of the tasks have grown by those that were written. -/
theorem perm_append_trans {α : Type} {first second third before between last : List α}
    (hfirst : (second ++ before).Perm (first ++ between))
    (hsecond : (third ++ between).Perm (second ++ last)) :
    (third ++ before).Perm (first ++ last) := by
  rw [← Multiset.coe_eq_coe, ← Multiset.coe_add, ← Multiset.coe_add] at hfirst hsecond ⊢
  refine add_right_cancel (b := (between : Multiset α)) ?_
  calc (third : Multiset α) + before + between
      = third + between + before := by ac_rfl
    _ = second + last + before := by rw [hsecond]
    _ = second + before + last := by ac_rfl
    _ = first + between + last := by rw [hfirst]
    _ = first + last + between := by ac_rfl

/-- The requests of several tasks are those of one of them and those of the others. -/
theorem perm_append_both {α : Type} {first second third written task rest next others all : List α}
    (htask : (second ++ task).Perm (first ++ (rest ++ next)))
    (hothers : (third ++ others).Perm (second ++ all)) :
    (third ++ (written ++ task ++ others)).Perm (first ++ (written ++ rest ++ next ++ all)) := by
  rw [← Multiset.coe_eq_coe] at htask hothers ⊢
  simp only [← Multiset.coe_add] at htask hothers ⊢
  calc (third : Multiset α) + (written + task + others)
      = third + others + task + written := by ac_rfl
    _ = second + all + task + written := by rw [hothers]
    _ = second + task + all + written := by ac_rfl
    _ = first + (rest + next) + all + written := by rw [htask]
    _ = first + (written + rest + next + all) := by ac_rfl

/-- All tasks went on along their courses. -/
structure AllAdvance (c : Conversation) (tasks : List Task) (spent : Nat)
    (next : List Task × Conversation) : Prop where
  fresh : next.2.Fresh
  progress : ∀ calls n requests, Underway calls tasks n requests →
    ∃ m written, Underway calls next.1 m written ∧ next.2.count + n = c.count + m ∧
      (next.2.process.written ++ requests).Perm (c.process.written ++ written)
  closer : next.2.bound next.1 + spent ≤ c.bound tasks

theorem allAdvance_forTasks {step : Conversation → Task → Task × Conversation}
    {spent : Task → Nat} (hstep : ∀ c task, Fresh c → c.Advances task (spent task) (step c task))
    (h : c.Fresh) (tasks : List Task) :
    c.AllAdvance tasks (tasks.map spent).sum (c.forTasks step tasks) := by
  induction tasks generalizing c with
  | nil =>
    exact ⟨h, fun calls n requests hunderway => ⟨n, requests, hunderway, rfl, .refl _⟩,
      Nat.le_refl _⟩
  | cons task rest ih =>
    have hfirst := hstep c task h
    have hrest := ih hfirst.fresh
    exact {
      fresh := hrest.fresh
      progress := by
        intro calls n requests hunderway
        cases hunderway with
        | cons hprogress hunderway =>
          obtain ⟨more, rest, hmore, hcount, hwritten⟩ := hfirst.progress
          obtain ⟨m, others, hafter, hcounts, hothers⟩ := hrest.progress _ _ _ hunderway
          refine ⟨_, _, .cons (hmore _ _ _ hprogress) hafter, ?_, perm_append_both hwritten hothers⟩
          simp only [forTasks, List.length_append]
          omega
      closer := by
        have hcloser := hfirst.closer
        have hclosers := hrest.closer
        simp only [bound, forTasks, List.foldr_cons, List.map_cons, List.sum_cons] at hclosers ⊢
        omega }

theorem underway_sendAll (h : c.Fresh) (calls : List Call) :
    (c.sendAll calls).2.Fresh ∧
      ∃ n requests, Underway calls (c.sendAll calls).1 n requests ∧
        (c.sendAll calls).2.count = c.count + n ∧
        (c.sendAll calls).2.process.written = c.process.written ++ requests := by
  induction calls generalizing c with
  | nil => exact ⟨h, 0, [], .nil, rfl, (List.append_nil _).symm⟩
  | cons call rest ih =>
    have hsent := sent_send h call
    obtain ⟨hfresh, n, requests, hunderway, hcount, hrequests⟩ := ih hsent.fresh
    obtain ⟨outcomes, written, hprogress, hlength, hwritten⟩ := hsent.progress
    have heq : c.sendAll (call :: rest) = ((c.send call).1 :: ((c.send call).2.sendAll rest).1,
        ((c.send call).2.sendAll rest).2) := rfl
    rw [heq]
    refine ⟨hfresh, _, _, .cons hprogress hunderway, ?_, ?_⟩
    · rw [hcount, hsent.count, hlength, Nat.add_assoc]
    · rw [hrequests, hwritten, List.append_assoc]

/-! ## The end of a conversation -/

theorem fresh_hear (h : c.Fresh) (lines : List String) (process : Process) :
    (c.hear lines process).Fresh := by
  have hheard := h.actAll (lines.map .hear) (by simp) process
  unfold hear
  split
  · exact hheard
  · exact hheard.actAll [.drain, .finish] (by simp) process

theorem weight_eq_zero {tasks : List Task}
    (h : tasks.foldr (fun task sum => task.weight + sum) 0 = 0) :
    tasks.all (fun task => task.weight = 0) = true := by
  induction tasks with
  | nil => rfl
  | cons task rest ih =>
    rw [List.foldr_cons] at h
    have htask : task.weight = 0 := by omega
    have hrest := ih (by omega)
    rw [List.all_cons, hrest, htask]
    rfl

/-- A request is under way unless all tasks are done. -/
theorem sum_underway_pos {tasks : List Task}
    (h : ¬ tasks.all (fun task => task.weight = 0) = true) :
    1 ≤ (tasks.map Task.underway).sum := by
  induction tasks with
  | nil => exact absurd rfl h
  | cons task rest ih =>
    rw [List.map_cons, List.sum_cons]
    cases task with
    | waiting call id =>
      rw [underway_waiting]
      omega
    | done outcome =>
      have hrest := ih fun hrest => h (by rw [List.all_cons, hrest]; rfl)
      omega

/-- What proceeds long enough comes to the end of all courses. -/
theorem proceed_spec {calls : List Call} {tasks : List Task} {n steps : Nat}
    {requests : List Request} (h : c.Fresh) (hsteps : c.bound tasks ≤ steps)
    (hunderway : Underway calls tasks n requests) :
    (c.proceed tasks steps).2.Fresh ∧
      (c.proceed tasks steps).1.all (fun task => task.weight = 0) = true ∧
      ∃ m written, Underway calls (c.proceed tasks steps).1 m written ∧
        (c.proceed tasks steps).2.count + n = c.count + m ∧
        ((c.proceed tasks steps).2.process.written ++ requests).Perm
          (c.process.written ++ written) := by
  induction steps generalizing c tasks n requests with
  | zero =>
    have hweight : tasks.foldr (fun task sum => task.weight + sum) 0 = 0 := by
      unfold bound at hsteps
      omega
    exact ⟨h, weight_eq_zero hweight, n, requests, hunderway, rfl, .refl _⟩
  | succ steps ih =>
    unfold proceed
    by_cases hdone : tasks.all (fun task => task.weight = 0) = true
    · rw [if_pos hdone]
      exact ⟨h, hdone, n, requests, hunderway, rfl, .refl _⟩
    · rw [if_neg hdone]
      -- The rest of the conversation, after one step of all tasks that came closer to the end.
      -- A step reads a line, which shortens what is left to read, or lets a request expire.
      have hcontinue {d : Conversation} {spent : Nat} {next : List Task × Conversation}
          (hnext : d.AllAdvance tasks spent next) (hcount : d.count = c.count)
          (hsame : d.process.written = c.process.written)
          (hcloser : d.bound tasks ≤ steps + spent) :
          (next.2.proceed next.1 steps).2.Fresh ∧
            (next.2.proceed next.1 steps).1.all (fun task => task.weight = 0) = true ∧
            ∃ m written, Underway calls (next.2.proceed next.1 steps).1 m written ∧
              (next.2.proceed next.1 steps).2.count + n = c.count + m ∧
              ((next.2.proceed next.1 steps).2.process.written ++ requests).Perm
                (c.process.written ++ written) := by
        obtain ⟨k, between, hafter, hstep, hwritten⟩ := hnext.progress calls n requests hunderway
        have hbound := hnext.closer
        obtain ⟨hfresh, hall, m, written, hfinal, hrest, hlater⟩ :=
          ih hnext.fresh (by omega) hafter
        rw [hsame] at hwritten
        exact ⟨hfresh, hall, m, written, hfinal, by omega, perm_append_trans hwritten hlater⟩
      cases hread : c.process.read? with
      | some found =>
        obtain ⟨lines, process⟩ := found
        obtain ⟨hlength, hsame⟩ := Process.read?_spec hread
        have hshorter : (c.hear lines process).bound tasks + 1 = c.bound tasks := by
          simp only [bound, hear]
          omega
        refine hcontinue (allAdvance_forTasks (fun _ task hfresh => advances_resume hfresh task)
          (fresh_hear h lines process) tasks) rfl hsame ?_
        omega
      | none =>
        have hspent := sum_underway_pos hdone
        refine hcontinue (allAdvance_forTasks (fun _ task hfresh => advances_expire hfresh task)
          h tasks) rfl rfl ?_
        omega

/-- Tasks that are done have come to the end of the courses of their calls. -/
theorem Underway.runs {calls : List Call} {tasks : List Task} {n : Nat} {requests : List Request}
    (h : Underway calls tasks n requests)
    (hdone : tasks.all (fun task => task.weight = 0) = true) :
    ∃ runs : List Run, List.Forall₂ Call.Runs calls runs ∧
      runs.map (·.outcomes.getLast?) = (tasks.map Task.outcome).map some ∧
      (runs.map (·.outcomes.length)).sum = n ∧ (runs.map Run.written).flatten = requests := by
  induction h with
  | nil => exact ⟨[], .nil, rfl, rfl, rfl⟩
  | @cons call outcomes written task calls tasks n requests hprogress _ ih =>
    rw [List.all_cons, Bool.and_eq_true] at hdone
    obtain ⟨runs, hruns, hlast, hlength, hwritten⟩ := ih hdone.2
    cases task with
    | waiting call id =>
      have hpos := weight_waiting_pos call id
      have hzero := of_decide_eq_true hdone.1
      omega
    | done outcome =>
      obtain ⟨hrun, houtcome⟩ := hprogress.runs
      refine ⟨⟨outcomes, written⟩ :: runs, .cons hrun hruns, ?_, ?_, ?_⟩
      · rw [List.map_cons, List.map_cons, List.map_cons, houtcome, hlast]
        rfl
      · rw [List.map_cons, List.sum_cons, hlength, underway_done, Nat.add_zero]
      · rw [List.map_cons, List.flatten_cons, hwritten, Task.requests, List.append_nil]

/-- The calls had these runs: each gave back the last outcome of its run, as many requests were
counted as there are outcomes, and the worker was written the requests of the runs and nothing
else. -/
structure Completes (c : Conversation) (calls : List Call) (runs : List Run)
    (out : List Outcome × Conversation) : Prop where
  each : List.Forall₂ Call.Runs calls runs
  last : runs.map (·.outcomes.getLast?) = out.1.map some
  count : out.2.count = c.count + (runs.map (·.outcomes.length)).sum
  written : out.2.process.written.Perm (c.process.written ++ (runs.map Run.written).flatten)

theorem callAll_spec (h : c.Fresh) (calls : List Call) :
    (c.callAll calls).2.Fresh ∧ ∃ runs, c.Completes calls runs (c.callAll calls) := by
  obtain ⟨hfresh, n, requests, hunderway, hcount, hrequests⟩ := underway_sendAll h calls
  obtain ⟨hfinal, hdone, m, written, hrest, htotal, hwritten⟩ :=
    proceed_spec hfresh (Nat.le_refl _) hunderway
  obtain ⟨runs, hruns, hlast, hlength, hflatten⟩ := hrest.runs hdone
  refine ⟨hfinal, runs, hruns, hlast, ?_, ?_⟩
  · rw [hlength]
    simp only [callAll]
    omega
  · have hsent : ((c.sendAll calls).2.process.written ++ []).Perm (c.process.written ++ requests) :=
      by rw [hrequests, List.append_nil]
    have hall := perm_append_trans hsent hwritten
    rwa [List.append_nil, ← hflatten] at hall

theorem callAll_nil (c : Conversation) : c.callAll [] = ([], c) := by
  unfold callAll sendAll
  dsimp only
  cases c.bound [] <;> rfl

/-- A request that is sent alone has one outcome. -/
theorem callAll_once (h : c.Fresh) (r : Request) :
    ∃ outcome next, c.callAll [.once r] = ([outcome], next) := by
  obtain ⟨-, runs, hruns⟩ := callAll_spec h [.once r]
  have hlength := congrArg List.length hruns.last
  rw [List.length_map, List.length_map, ← hruns.each.length_eq] at hlength
  obtain ⟨outcome, houtcome⟩ := List.length_eq_one_iff.1 hlength.symm
  exact ⟨outcome, _, Prod.ext houtcome rfl⟩

/-- The conversation with a worker after calls were made, some at once each time. -/
def after (arguments : List String) (script : List Reaction) (seconds : Nat)
    (batches : List (List Call)) : Conversation :=
  batches.foldl (fun c calls => (c.callAll calls).2) (start arguments script seconds)

end Conversation

end CatalogGraph.Worker
