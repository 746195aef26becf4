import CatalogGraph.Worker.Client

/-!
# Runs of the client

What the client holds of one request is its status: its stage, whether it is in the register, and
its slot. An action of the client moves the status of every request in one of a few ways (`Moves`),
or leaves it alone; whatever holds of all moves holds of all requests in all interleavings.

A status stays `Orderly`: the request is in the register only after it was registered and before it
ends, and exactly as long as its slot is empty; a filled slot holds a reply to the request; and a
request that ended with a reply took that reply out of its slot.
-/

namespace CatalogGraph.Worker

/-- What a client holds of one request. -/
structure Status where
  stage : Option Stage
  registered : Bool
  slot : Option Reply

/-- How an action moves the status of the request of an id. -/
inductive Moves (id : String) : Action → Status → Status → Prop where
  | stay {action s} : Moves id action s s
  | refused {s} : s.stage = none →
      Moves id (.begin id) s { s with stage := some (.ended .refused) }
  | checked {s} : s.stage = none → Moves id (.begin id) s { s with stage := some .checked }
  | registered {s} : s.stage = some .checked →
      Moves id (.register id) s { s with stage := some .registered, registered := true }
  | written {s} : s.stage = some .registered →
      Moves id (.write id) s { s with stage := some .waiting }
  | unwritten {s cause} : s.stage = some .registered →
      Moves id (.failWrite id cause) s { s with stage := some (.leaving (.unwritten cause)) }
  | received {s reply} : s.stage = some .waiting → s.slot = some reply →
      Moves id (.receive id) s { s with stage := some (.ended (.replied reply)) }
  | expired {s} : s.stage = some .waiting → s.slot = none →
      Moves id (.expire id) s { s with stage := some (.leaving .overdue) }
  | left {s ending} : s.stage = some (.leaving ending) →
      Moves id (.leave id) s { s with stage := some (.ended ending), registered := false }
  | delivered {s line reply} : s.registered = true → Reply.ofLine? line = some reply →
      reply.id = id → Moves id (.hear line) s { s with registered := false, slot := some reply }
  | drained {s} : s.registered = true →
      Moves id .drain s { s with registered := false, slot := some (.ofExit id) }

/-! ## Orderly requests -/

/-- An ending without a reply. -/
def Ending.Bare : Ending → Prop
  | .replied _ => False
  | .refused | .unwritten _ | .overdue => True

namespace Status

variable {id : String} {action : Action} {s t : Status} {ending : Ending} {reply : Reply}

/-- The slot is empty as long as the request is registered, and filled from then on. -/
def Answerable (id : String) (s : Status) : Prop :=
  (s.registered = true ∧ s.slot = none) ∨
    (s.registered = false ∧ ∃ reply, s.slot = some reply ∧ reply.id = id)

/-- What the register and the slot hold at each stage. -/
def Orderly (id : String) (s : Status) : Prop :=
  match s.stage with
  | none | some .checked => s.registered = false ∧ s.slot = none
  | some .registered | some .waiting => s.Answerable id
  | some (.leaving ending) => ending.Bare ∧ s.Answerable id
  | some (.ended (.replied reply)) => s.registered = false ∧ s.slot = some reply ∧ reply.id = id
  | some (.ended _) => s.registered = false ∧ ∀ reply, s.slot = some reply → reply.id = id

theorem Answerable.id_of_slot (h : s.Answerable id) (hslot : s.slot = some reply) :
    reply.id = id := by
  rcases h with ⟨-, hnone⟩ | ⟨-, other, hother, hid⟩
  · rw [hnone] at hslot
    cases hslot
  · rw [hother] at hslot
    cases hslot
    exact hid

/-- A filled slot holds a reply to its own request. -/
theorem Orderly.id_of_slot (h : s.Orderly id) (hslot : s.slot = some reply) : reply.id = id := by
  unfold Orderly at h
  split at h
  · rw [h.2] at hslot
    cases hslot
  · rw [h.2] at hslot
    cases hslot
  · exact h.id_of_slot hslot
  · exact h.id_of_slot hslot
  · exact h.2.id_of_slot hslot
  · rw [h.2.1] at hslot
    cases hslot
    exact h.2.2
  · exact h.2 reply hslot

/-- A request that has ended is not registered. -/
theorem Orderly.not_registered_of_ended (h : s.Orderly id)
    (hended : s.stage = some (.ended ending)) :
    s.registered = false := by
  unfold Orderly at h
  rw [hended] at h
  cases ending <;> exact h.1

/-- A registered request has an empty slot, and has neither only begun nor ended. -/
theorem Orderly.of_registered (h : s.Orderly id) (hregistered : s.registered = true) :
    s.slot = none ∧ (s.stage = some .registered ∨ s.stage = some .waiting ∨
      ∃ ending, s.stage = some (.leaving ending)) := by
  have hanswerable (ha : s.Answerable id) : s.slot = none := by
    rcases ha with ⟨-, hslot⟩ | ⟨hfalse, -⟩
    · exact hslot
    · rw [hfalse] at hregistered
      cases hregistered
  unfold Orderly at h
  split at h <;> rename_i hstage
  · rw [h.1] at hregistered
    cases hregistered
  · rw [h.1] at hregistered
    cases hregistered
  · exact ⟨hanswerable h, .inl hstage⟩
  · exact ⟨hanswerable h, .inr (.inl hstage)⟩
  · exact ⟨hanswerable h.2, .inr (.inr ⟨_, hstage⟩)⟩
  · rw [h.1] at hregistered
    cases hregistered
  · rw [h.1] at hregistered
    cases hregistered

/-- Filling the slot of a registered request with a reply to it keeps it orderly. -/
theorem Orderly.filled (h : s.Orderly id) (hregistered : s.registered = true)
    (hid : reply.id = id) :
    Orderly id { s with registered := false, slot := some reply } := by
  have hfilled : Answerable id { s with registered := false, slot := some reply } :=
    .inr ⟨rfl, reply, rfl, hid⟩
  rcases (h.of_registered hregistered).2 with hstage | hstage | ⟨ending, hstage⟩
  · simp only [Orderly, hstage]
    exact hfilled
  · simp only [Orderly, hstage]
    exact hfilled
  · simp only [Orderly, hstage] at h ⊢
    exact ⟨h.1, hfilled⟩

/-- Every move keeps a request orderly. -/
theorem Orderly.of_moves (h : s.Orderly id) (hmove : Moves id action s t) : t.Orderly id := by
  cases hmove with
  | stay => exact h
  | refused hstage =>
    simp only [Orderly, hstage] at h ⊢
    refine ⟨h.1, fun reply hslot => ?_⟩
    rw [h.2] at hslot
    cases hslot
  | checked hstage =>
    simp only [Orderly, hstage] at h ⊢
    exact h
  | registered hstage =>
    simp only [Orderly, hstage] at h ⊢
    exact .inl ⟨rfl, h.2⟩
  | written hstage =>
    simp only [Orderly, hstage] at h ⊢
    exact h
  | unwritten hstage =>
    simp only [Orderly, hstage] at h ⊢
    exact ⟨trivial, h⟩
  | received hstage hslot =>
    simp only [Orderly, hstage] at h ⊢
    have hid := h.id_of_slot hslot
    rcases h with ⟨-, hnone⟩ | ⟨hregistered, -⟩
    · rw [hnone] at hslot
      cases hslot
    · exact ⟨hregistered, hslot, hid⟩
  | expired hstage hslot =>
    simp only [Orderly, hstage] at h ⊢
    exact ⟨trivial, h⟩
  | left hstage =>
    rename_i ending
    have hid (reply : Reply) (hslot : s.slot = some reply) : reply.id = id := h.id_of_slot hslot
    simp only [Orderly, hstage] at h
    cases ending with
    | replied reply => exact h.1.elim
    | refused => exact ⟨rfl, hid⟩
    | unwritten cause => exact ⟨rfl, hid⟩
    | overdue => exact ⟨rfl, hid⟩
  | delivered hregistered hline hid => exact h.filled hregistered hid
  | drained hregistered => exact h.filled hregistered rfl

end Status

/-! ## The status of a request in a client -/

namespace Client

/-- What the client holds of the request of an id. -/
def status (c : Client) (id : String) : Status := ⟨c.stage? id, c.pending.contains id, c.slot? id⟩

variable (c : Client) {id other : String} {stage : Stage}

theorem lookup_filter_of_ne {α : Type} (entries : List (String × α)) (h : other ≠ id) :
    (entries.filter fun entry => entry.1 != id).lookup other = entries.lookup other := by
  induction entries with
  | nil => rfl
  | cons entry rest ih =>
    obtain ⟨key, value⟩ := entry
    by_cases hkey : key = id
    · subst hkey
      rw [List.filter_cons_of_neg (by simp), ih, List.lookup_cons, beq_false_of_ne h]
    · rw [List.filter_cons_of_pos (by simpa using hkey), List.lookup_cons, List.lookup_cons, ih]

theorem contains_filter_of_ne (ids : List String) (h : other ≠ id) :
    (ids.filter (· != id)).contains other = ids.contains other := by
  rw [Bool.eq_iff_iff]
  simp [h]

theorem not_contains_filter_self (ids : List String) :
    (ids.filter (· != id)).contains id = false := by
  simp

theorem stage?_enter_self : (c.enter id stage).stage? id = some stage := by
  simp [stage?, enter]

theorem stage?_enter_of_ne (h : other ≠ id) :
    (c.enter id stage).stage? other = c.stage? other := by
  unfold stage? enter
  rw [List.lookup_cons, beq_false_of_ne h]
  exact lookup_filter_of_ne c.stages h

theorem status_enter_self :
    (c.enter id stage).status id = { c.status id with stage := some stage } := by
  unfold status
  rw [stage?_enter_self]
  rfl

theorem status_enter_of_ne (h : other ≠ id) :
    (c.enter id stage).status other = c.status other := by
  unfold status
  rw [stage?_enter_of_ne c h]
  rfl

/-- A reply is put into the slot of its request where that is registered, and dropped otherwise. -/
theorem status_deliver (reply : Reply) (id : String) :
    (c.deliver reply).status id =
      if reply.id = id ∧ (c.status id).registered then
        { c.status id with registered := false, slot := some reply }
      else c.status id := by
  unfold deliver
  by_cases hpending : c.pending.contains reply.id = true
  · rw [if_pos hpending]
    by_cases hid : reply.id = id
    · subst hid
      rw [if_pos ⟨rfl, hpending⟩]
      simp [status, stage?, slot?]
    · have hne : id ≠ reply.id := Ne.symm hid
      rw [if_neg fun h => hid h.1]
      simp only [status, stage?, slot?, contains_filter_of_ne c.pending hne, List.lookup_cons,
        beq_false_of_ne hne]
  · rw [if_neg hpending, if_neg]
    rintro ⟨rfl, hregistered⟩
    exact hpending hregistered

theorem status_pending (pending : List String) (id : String) :
    ({ c with pending := pending } : Client).status id =
      { c.status id with registered := pending.contains id } := rfl

theorem lookup_drained (ids : List String) (slots : List (String × Reply)) (id : String) :
    ((ids.map fun id => (id, Reply.ofExit id)) ++ slots).lookup id =
      if ids.contains id then some (.ofExit id) else slots.lookup id := by
  induction ids with
  | nil => rfl
  | cons first rest ih =>
    rw [List.map_cons, List.cons_append, List.lookup_cons, ih, List.contains_cons]
    by_cases h : id = first
    · subst h
      simp
    · rw [beq_false_of_ne h, Bool.false_or]

/-- At the end of the output, the slot of every registered request is filled. -/
theorem status_drained (id : String) :
    (⟨.drained, [], (c.pending.map fun id => (id, Reply.ofExit id)) ++ c.slots, c.stages⟩ :
        Client).status id =
      if (c.status id).registered then
        { c.status id with registered := false, slot := some (.ofExit id) }
      else c.status id := by
  unfold status slot?
  rw [lookup_drained]
  by_cases h : c.pending.contains id = true
  · rw [if_pos h, if_pos h]
    rfl
  · have hfalse : c.pending.contains id = false := by simpa using h
    rw [if_neg h, if_neg h, hfalse]
    rfl

/-! ## Moves -/

/-- An action of one request leaves the status of every other request alone. -/
theorem moves_of_own {c d : Client} {action : Action} (requester : String)
    (hother : ∀ id, id ≠ requester → d.status id = c.status id)
    (hself : Moves requester action (c.status requester) (d.status requester)) (id : String) :
    Moves id action (c.status id) (d.status id) := by
  by_cases h : id = requester
  · subst h
    exact hself
  · rw [hother id h]
    exact .stay

/-- A request that only enters a stage. -/
theorem moves_enter {c : Client} {action : Action} {requester : String} {stage : Stage}
    (h : Moves requester action (c.status requester)
      { c.status requester with stage := some stage }) (id : String) :
    Moves id action (c.status id) ((c.enter requester stage).status id) := by
  refine moves_of_own requester (fun other hne => status_enter_of_ne c hne) ?_ id
  rw [status_enter_self]
  exact h

/-- Every action moves the status of every request in one of the ways. -/
theorem moves_act? {c d : Client} {action : Action} (h : c.act? action = some d) (id : String) :
    Moves id action (c.status id) (d.status id) := by
  cases action with
  | begin requester =>
    simp only [act?] at h
    split at h
    · cases h
    · rename_i hnew
      cases h
      have hstage : c.stage? requester = none := by simpa using hnew
      split
      · exact moves_enter (.refused hstage) id
      · exact moves_enter (.checked hstage) id
  | register requester =>
    simp only [act?] at h
    split at h
    · rename_i hstage
      cases h
      refine moves_of_own requester (fun other hne => ?_) ?_ id
      · rw [status_pending (c.enter requester _), status_enter_of_ne c hne, List.contains_cons,
          beq_false_of_ne hne]
        rfl
      · rw [status_pending (c.enter requester _), status_enter_self, List.contains_cons,
          beq_self_eq_true]
        exact .registered hstage
    · cases h
  | write requester =>
    simp only [act?] at h
    split at h
    · rename_i hstage
      cases h
      exact moves_enter (.written hstage) id
    · cases h
  | failWrite requester cause =>
    simp only [act?] at h
    split at h
    · rename_i hstage
      cases h
      exact moves_enter (.unwritten hstage) id
    · cases h
  | receive requester =>
    simp only [act?] at h
    split at h
    · rename_i hstage hslot
      cases h
      exact moves_enter (.received hstage hslot) id
    · cases h
  | expire requester =>
    simp only [act?] at h
    split at h
    · rename_i hstage hslot
      cases h
      exact moves_enter (.expired hstage hslot) id
    · cases h
  | leave requester =>
    simp only [act?] at h
    split at h
    · rename_i ending hstage
      cases h
      refine moves_of_own requester (fun other hne => ?_) ?_ id
      · rw [status_pending (c.enter requester _), status_enter_of_ne c hne,
          contains_filter_of_ne c.pending hne]
        rfl
      · rw [status_pending (c.enter requester _), status_enter_self, not_contains_filter_self]
        exact .left hstage
    · cases h
  | hear line =>
    simp only [act?] at h
    split at h
    · split at h
      · rename_i reply hline
        cases h
        rw [status_deliver]
        split
        · rename_i hreply
          exact .delivered hreply.2 hline hreply.1
        · exact .stay
      · cases h
        exact .stay
    · cases h
  | drain =>
    simp only [act?] at h
    split at h
    · cases h
      rw [status_drained]
      split
      · exact .drained ‹_›
      · exact .stay
    · cases h
  | finish =>
    simp only [act?] at h
    split at h
    · cases h
      exact .stay
    · cases h

theorem moves_act (action : Action) (id : String) :
    Moves id action (c.status id) ((c.act action).status id) := by
  unfold act
  cases h : c.act? action with
  | none => exact .stay
  | some d => exact moves_act? h id

/-! ## Runs -/

/-- The client after actions from the start. -/
def after (actions : List Action) : Client := start.actAll actions

/-- The client before the `i`-th action of a run. -/
def before (actions : List Action) (i : Nat) : Client := after (actions.take i)

variable {actions : List Action} {action : Action} {i j : Nat}

theorem after_append_singleton (actions : List Action) (action : Action) :
    after (actions ++ [action]) = (after actions).act action := by
  simp [after, actAll]

theorem before_succ (h : actions[i]? = some action) :
    before actions (i + 1) = (before actions i).act action := by
  unfold before
  rw [List.take_add_one, h, Option.toList_some, after_append_singleton]

theorem before_succ_of_none (h : actions[i]? = none) :
    before actions (i + 1) = before actions i := by
  unfold before
  rw [List.take_add_one, h, Option.toList_none, List.append_nil]

theorem moves_before (h : actions[i]? = some action) (id : String) :
    Moves id action ((before actions i).status id) ((before actions (i + 1)).status id) := by
  rw [before_succ h]
  exact moves_act _ action id

/-- In every state of a run, every request is orderly. -/
theorem orderly_before (actions : List Action) (i : Nat) (id : String) :
    ((before actions i).status id).Orderly id := by
  induction i with
  | zero => exact ⟨rfl, rfl⟩
  | succ i ih =>
    cases h : actions[i]? with
    | none => rwa [before_succ_of_none h]
    | some action => exact ih.of_moves (moves_before h id)

/-- What every move of an orderly request keeps, holds in a run from then on. -/
theorem kept_before {id : String} {P : Status → Prop}
    (hkeep : ∀ {action s t}, s.Orderly id → Moves id action s t → P s → P t) (hij : i ≤ j)
    (h : P ((before actions i).status id)) : P ((before actions j).status id) := by
  induction hij with
  | refl => exact h
  | @step j _ ih =>
    cases haction : actions[j]? with
    | none => rwa [before_succ_of_none haction]
    | some action => exact hkeep (orderly_before actions j id) (moves_before haction id) ih

end Client

end CatalogGraph.Worker
