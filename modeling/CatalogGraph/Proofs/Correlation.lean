import CatalogGraph.Proofs.ClientRuns

/-!
# Replies and the requests that they answer

In every run of the client, with any number of requests under way and any lines of the worker, a
reply reaches the request of its own id and no other. A request has one line at most, the first one
with its id that is handled while it is registered; a reply that comes too late changes nothing for
any other request, so it never answers the request that was sent in place of its own.
-/

namespace CatalogGraph.Worker.Client

variable {actions : List Action} {i j n : Nat} {id other : String} {ending : Ending}
  {reply : Reply}

/-! ## What happens in a run -/

section Events

variable (actions : List Action) (i : Nat)

/-- The request is registered before the `i`-th action. -/
def Registered (id : String) : Prop := id ∈ (before actions i).pending

/-- By the `i`-th action the request ends. -/
def Returns (id : String) (ending : Ending) : Prop :=
  (before actions i).ending? id = none ∧ (before actions (i + 1)).ending? id = some ending

/-- By the `i`-th action the reader handles a line with the reply. -/
def Handles (reply : Reply) : Prop :=
  ∃ line, actions[i]? = some (.hear line) ∧ (before actions i).reader = .reading ∧
    Reply.ofLine? line = some reply

/-- By the `i`-th action the reader meets the end of the output. -/
def MeetsEnd : Prop := actions[i]? = some .drain ∧ (before actions i).reader = .reading

/-- By the `i`-th action the reply is put into the slot of the request. -/
def Delivers (id : String) (reply : Reply) : Prop :=
  (before actions i).slot? id = none ∧ (before actions (i + 1)).slot? id = some reply

/-- The time of the request has run out before the `i`-th action. -/
def Overdue (id : String) : Prop :=
  (before actions i).stage? id = some (.leaving .overdue) ∨
    (before actions i).stage? id = some (.ended .overdue)

end Events

theorem registered_iff :
    Registered actions i id ↔ ((before actions i).status id).registered = true := by
  simp [Registered, status]

theorem ending?_eq_some_iff {c : Client} :
    c.ending? id = some ending ↔ (c.status id).stage = some (.ended ending) := by
  unfold ending? status
  split
  · rename_i found hstage
    simp [hstage]
  · rename_i hstage
    simp only [reduceCtorEq, false_iff]
    exact hstage ending

/-! ## What stays -/

theorem ended_of_moves {action : Action} {s t : Status} (hmove : Moves id action s t)
    (h : s.stage = some (.ended ending)) : t.stage = some (.ended ending) := by
  cases hmove with
  | stay => exact h
  | delivered => exact h
  | drained => exact h
  | refused hstage | checked hstage | registered hstage | written hstage | unwritten hstage
  | received hstage | expired hstage | left hstage =>
    rw [h] at hstage
    cases hstage

/-- What a request returned stays. -/
theorem ended_before (hij : i ≤ j) (h : (before actions i).ending? id = some ending) :
    (before actions j).ending? id = some ending := by
  rw [ending?_eq_some_iff] at h ⊢
  exact kept_before (P := fun s => s.stage = some (.ended ending))
    (fun _ hmove => ended_of_moves hmove) hij h

/-- A request whose time has run out goes on to leave the register, and to nothing else. -/
theorem overdue_before (hij : i ≤ j) (h : Overdue actions i id) : Overdue actions j id := by
  refine kept_before
    (P := fun s => s.stage = some (.leaving .overdue) ∨ s.stage = some (.ended .overdue)) ?_ hij h
  rintro action s t - hmove (hleaving | hended)
  · cases hmove with
    | stay => exact .inl hleaving
    | delivered => exact .inl hleaving
    | drained => exact .inl hleaving
    | left hstage =>
      rw [hleaving] at hstage
      cases hstage
      exact .inr rfl
    | refused hstage | checked hstage | registered hstage | written hstage | unwritten hstage
    | received hstage | expired hstage =>
      rw [hleaving] at hstage
      cases hstage
  · exact .inr (ended_of_moves hmove hended)

/-- A slot is filled once. -/
theorem slot_before (hij : i ≤ j) (h : (before actions i).slot? id = some reply) :
    (before actions j).slot? id = some reply := by
  refine kept_before (P := fun s => s.slot = some reply) ?_ hij h
  intro action s t horderly hmove hslot
  -- A request whose slot is filled is no longer registered.
  have hfree (hregistered : s.registered = true) : False := by
    rw [(horderly.of_registered hregistered).1] at hslot
    cases hslot
  cases hmove with
  | delivered hregistered => exact (hfree hregistered).elim
  | drained hregistered => exact (hfree hregistered).elim
  | _ => exact hslot

/-! ## Deliveries -/

theorem before_succ_of_handles (h : Handles actions i reply) :
    before actions (i + 1) = (before actions i).deliver reply := by
  obtain ⟨line, haction, hreader, hline⟩ := h
  rw [before_succ haction]
  simp [act, act?, hreader, hline]

theorem reading_of_act_ne {c : Client} {action : Action} (h : c.act action ≠ c)
    (hreader : action = .drain ∨ ∃ line, action = .hear line) : c.reader = .reading := by
  refine Decidable.byContradiction fun hne => h ?_
  rcases hreader with rfl | ⟨line, rfl⟩ <;> simp [act, act?, hne]

/-- The slot of a registered request is filled by the line that is handled for it. -/
theorem slot_of_handles (h : Handles actions i reply) (hid : reply.id = id)
    (hregistered : Registered actions i id) :
    (before actions (i + 1)).slot? id = some reply := by
  have hstatus := status_deliver (before actions i) reply id
  rw [if_pos ⟨hid, registered_iff.1 hregistered⟩, ← before_succ_of_handles h] at hstatus
  exact congrArg Status.slot hstatus

theorem fills_of_moves {action : Action} {s t : Status} (hmove : Moves id action s t)
    (hnone : s.slot = none) (hsome : t.slot = some reply) :
    s.registered = true ∧ reply.id = id ∧
      ((∃ line, action = .hear line ∧ Reply.ofLine? line = some reply) ∨
        (action = .drain ∧ reply = .ofExit id)) := by
  cases hmove with
  | delivered hregistered hline hid =>
    cases hsome
    exact ⟨hregistered, hid, .inl ⟨_, rfl, hline⟩⟩
  | drained hregistered =>
    cases hsome
    exact ⟨hregistered, rfl, .inr ⟨rfl, rfl⟩⟩
  | _ =>
    rw [hnone] at hsome
    cases hsome

/-- A slot is filled for a registered request, by a line with a reply of its id or by the end of the
output. -/
theorem of_delivers (h : Delivers actions i id reply) :
    Registered actions i id ∧ reply.id = id ∧
      (Handles actions i reply ∨ (MeetsEnd actions i ∧ reply = .ofExit id)) := by
  obtain ⟨hnone, hsome⟩ := h
  cases haction : actions[i]? with
  | none =>
    rw [before_succ_of_none haction, hnone] at hsome
    cases hsome
  | some action =>
    have hchanged : (before actions i).act action ≠ before actions i := by
      intro heq
      rw [before_succ haction, heq, hnone] at hsome
      cases hsome
    obtain ⟨hregistered, hid, hcause⟩ := fills_of_moves (moves_before haction id) hnone hsome
    refine ⟨registered_iff.2 hregistered, hid, ?_⟩
    rcases hcause with ⟨line, rfl, hline⟩ | ⟨rfl, hexit⟩
    · exact .inl ⟨line, haction, reading_of_act_ne hchanged (.inr ⟨line, rfl⟩), hline⟩
    · exact .inr ⟨⟨haction, reading_of_act_ne hchanged (.inl rfl)⟩, hexit⟩

/-! ## What happens once -/

section Once

variable {α : Type} {f : Nat → Option α} {a b : α}

/-- What stays once it is there is put there by one action. -/
theorem once_of_kept (hkeep : ∀ {i j a}, i ≤ j → f i = some a → f j = some a)
    (hi : f i = none ∧ f (i + 1) = some a) (hj : f j = none ∧ f (j + 1) = some b) : i = j := by
  rcases Nat.lt_trichotomy i j with hlt | heq | hgt
  · have hkept := hkeep hlt hi.2
    rw [hj.1] at hkept
    cases hkept
  · exact heq
  · have hkept := hkeep hgt hj.2
    rw [hi.1] at hkept
    cases hkept

theorem exists_put (hkeep : ∀ {i j a}, i ≤ j → f i = some a → f j = some a) (hzero : f 0 = none)
    (hn : f n = some a) : ∃ i < n, f i = none ∧ f (i + 1) = some a := by
  induction n generalizing a with
  | zero =>
    rw [hzero] at hn
    cases hn
  | succ n ih =>
    cases hf : f n with
    | none => exact ⟨n, by omega, hf, hn⟩
    | some c =>
      rw [hkeep (Nat.le_succ n) hf] at hn
      cases hn
      obtain ⟨i, hi, hput⟩ := ih hf
      exact ⟨i, by omega, hput⟩

end Once

theorem delivers_unique {later : Reply} (hi : Delivers actions i id reply)
    (hj : Delivers actions j id later) : i = j :=
  once_of_kept (f := fun i => (before actions i).slot? id) (fun hij h => slot_before hij h) hi hj

/-- What is in a slot was delivered. -/
theorem exists_delivers (h : (before actions n).slot? id = some reply) :
    ∃ i < n, Delivers actions i id reply :=
  exists_put (f := fun i => (before actions i).slot? id) (fun hij h => slot_before hij h) rfl h

theorem returns_unique {later : Ending} (hi : Returns actions i id ending)
    (hj : Returns actions j id later) : i = j :=
  once_of_kept (f := fun i => (before actions i).ending? id) (fun hij h => ended_before hij h) hi hj

/-- A request that returns a reply has it in its slot. -/
theorem slot_of_returns (h : Returns actions n id (.replied reply)) :
    (before actions n).slot? id = some reply := by
  obtain ⟨hopen, hended⟩ := h
  cases haction : actions[n]? with
  | none =>
    rw [before_succ_of_none haction, hopen] at hended
    cases hended
  | some action =>
    have horderly := orderly_before actions n id
    have hmove := moves_before haction id
    rw [ending?_eq_some_iff] at hended
    have hnot : ((before actions n).status id).stage ≠ some (.ended (.replied reply)) := by
      intro hstage
      rw [ending?_eq_some_iff.2 hstage] at hopen
      cases hopen
    change ((before actions n).status id).slot = some reply
    generalize (before actions n).status id = s at *
    generalize (before actions (n + 1)).status id = t at *
    cases hmove with
    | received hstage hslot =>
      cases hended
      exact hslot
    | left hstage =>
      cases hended
      simp only [Status.Orderly, hstage] at horderly
      exact horderly.1.elim
    | stay => exact absurd hended hnot
    | delivered => exact absurd hended hnot
    | drained => exact absurd hended hnot
    | refused | checked | registered | written | unwritten | expired => cases hended

/-! ## Correlation -/

/-- How replies and requests belong together in a run. -/
structure Correlated (actions : List Action) : Prop where
  /-- A request returns at most once. -/
  returns_once : ∀ {i j id ending later}, Returns actions i id ending →
    Returns actions j id later → i = j
  /-- A request that returns a reply was given it while it was registered: by the first line with
  its id that was handled while it was registered, or by the end of the output if there was none. -/
  replied_by_first : ∀ {n id reply}, Returns actions n id (.replied reply) →
    reply.id = id ∧ ∃ i < n, Registered actions i id ∧ Delivers actions i id reply ∧
      (Handles actions i reply ∨ (MeetsEnd actions i ∧ reply = .ofExit id)) ∧
      ∀ j < i, ∀ earlier, Handles actions j earlier → earlier.id = id → ¬ Registered actions j id
  /-- A line is delivered to one request at most. -/
  line_once : ∀ {i handled id other reply copy}, Handles actions i handled →
    Delivers actions i id reply → Delivers actions i other copy → id = other
  /-- A request is given one reply at most. -/
  slot_once : ∀ {i j id reply later}, Delivers actions i id reply →
    Delivers actions j id later → i = j
  /-- A reply that is handled after the time of its request has run out changes nothing for any
  other request, and the request itself returns that it is overdue and nothing else. -/
  late_discarded : ∀ {i j id reply}, Overdue actions i id → i ≤ j → Handles actions j reply →
    reply.id = id →
      (∀ other ≠ id, (before actions (j + 1)).status other = (before actions j).status other) ∧
        ∀ {n ending}, Returns actions n id ending → ending = .overdue
  /-- A request that has returned is not registered, and a reply to it changes nothing at all. -/
  returned_left : ∀ {i id ending}, (before actions i).ending? id = some ending →
    ¬ Registered actions i id ∧
      ∀ {reply}, Handles actions i reply → reply.id = id → before actions (i + 1) = before actions i

theorem not_registered_of_ended (h : (before actions i).ending? id = some ending) :
    ¬ Registered actions i id := by
  rw [registered_iff, (orderly_before actions i id).not_registered_of_ended
    (ending?_eq_some_iff.1 h)]
  exact Bool.false_ne_true

theorem handles_unique {other : Reply} (h : Handles actions i reply)
    (hother : Handles actions i other) : reply = other := by
  obtain ⟨line, haction, -, hline⟩ := h
  obtain ⟨line', haction', -, hline'⟩ := hother
  rw [haction] at haction'
  cases haction'
  rw [hline] at hline'
  exact Option.some.inj hline'

/-- A line is delivered to the request whose id it has. -/
theorem id_of_handles {handled : Reply} (h : Handles actions i handled)
    (hdelivers : Delivers actions i id reply) : handled.id = id := by
  obtain ⟨-, hid, hhandles | ⟨⟨hdrain, -⟩, -⟩⟩ := of_delivers hdelivers
  · rw [handles_unique h hhandles, hid]
  · obtain ⟨line, hline, -⟩ := h
    rw [hline] at hdrain
    cases hdrain

theorem ending_of_overdue (h : Overdue actions i id) (hreturns : Returns actions n id ending) :
    ending = .overdue := by
  have hended := ended_before (Nat.le_max_right i (n + 1)) hreturns.2
  rw [ending?_eq_some_iff] at hended
  rcases overdue_before (Nat.le_max_left i (n + 1)) h with hleaving | hoverdue
  · have hstage := hleaving.symm.trans hended
    cases hstage
  · have hstage := hoverdue.symm.trans hended
    cases hstage
    rfl

/-- A line for a request that is not registered changes nothing. -/
theorem before_succ_of_not_registered (h : Handles actions i reply) (hid : reply.id = id)
    (hnot : ¬ Registered actions i id) : before actions (i + 1) = before actions i := by
  rw [before_succ_of_handles h, deliver, if_neg]
  rw [hid]
  simpa [Registered] using hnot

/-- In every run of the client, replies and requests are correlated. -/
theorem correlated (actions : List Action) : Correlated actions where
  returns_once := returns_unique
  replied_by_first := by
    intro n id reply hreturns
    obtain ⟨i, hi, hdelivers⟩ := exists_delivers (slot_of_returns hreturns)
    obtain ⟨hregistered, hid, hcause⟩ := of_delivers hdelivers
    refine ⟨hid, i, hi, hregistered, hdelivers, hcause, ?_⟩
    intro j hj earlier hhandles hearlier hwas
    -- The earlier line would have filled the slot, which is still empty at the delivery.
    have hslot := slot_before hj (slot_of_handles hhandles hearlier hwas)
    rw [hdelivers.1] at hslot
    cases hslot
  line_once := by
    intro i handled id other reply copy hhandles hdelivers hcopy
    exact (id_of_handles hhandles hdelivers).symm.trans (id_of_handles hhandles hcopy)
  slot_once := delivers_unique
  late_discarded := by
    intro i j id reply hoverdue hij hhandles hid
    refine ⟨fun other hother => ?_, ending_of_overdue hoverdue⟩
    rw [before_succ_of_handles hhandles, status_deliver, if_neg]
    rintro ⟨hother', -⟩
    exact hother (hother'.symm.trans hid)
  returned_left := by
    intro i id ending hended
    have hnot := not_registered_of_ended hended
    exact ⟨hnot, fun hhandles hid => before_succ_of_not_registered hhandles hid hnot⟩

-- Two requests at once: the reply to the second is delivered past junk, the one to the first comes
-- after its time has run out.
example :
    let c := after [.begin "a", .begin "b", .register "a", .register "b", .write "a", .write "b",
      .hear "junk", .hear "[\"b\",true]", .expire "a", .leave "a", .hear "[\"a\",true]",
      .receive "b"]
    c.slots.map Prod.fst = ["b"] ∧ c.pending = [] := by
  decide +kernel

end CatalogGraph.Worker.Client
