import CatalogGraph.Proofs.Correlation

/-!
# Requests and the end of the output

When the reader meets the end of the output it drains the register, and every request that is
registered then is told so. The reader is gone only one action later, and a request looks for the
reader before it is registered. So a request that has looked can still be registered after the
register was drained. Such a request is stranded: nobody will answer it, and it ends by its time.

These are the only requests that the register holds after it was drained (`Aftermath`): all others
find a reply in their slots, are refused, or end because their lines were not written.
-/

namespace CatalogGraph.Worker

namespace Ending

/-- The request ends with the fault that the worker is gone, or with one of its writing. -/
def IsExit (ending : Ending) : Prop :=
  ∀ seconds, ending.outcome seconds = .error .exited ∨
    ∃ cause, ending.outcome seconds = .error (.writeFailed cause)

theorem isExit_refused : IsExit .refused := fun _ => .inl rfl

theorem isExit_unwritten (cause : String) : IsExit (.unwritten cause) :=
  fun _ => .inr ⟨cause, rfl⟩

theorem isExit_ofExit (id : String) : IsExit (.replied (.ofExit id)) := fun _ => .inl rfl

end Ending

namespace Client

variable {actions : List Action} {action : Action} {i j n : Nat} {id : String} {reply : Reply}
  {ending : Ending}

/-! ## The course of the reader -/

/-- How an action moves the reader. -/
inductive ReaderMoves : Action → Reader → Reader → Prop where
  | stay {action r} : ReaderMoves action r r
  | drains : ReaderMoves .drain .reading .drained
  | finishes : ReaderMoves .finish .drained .gone

theorem readerMoves_act? {c d : Client} (h : c.act? action = some d) :
    ReaderMoves action c.reader d.reader := by
  cases action with
  | begin id | register id | write id | failWrite id cause | receive id | expire id | leave id =>
    simp only [act?] at h
    split at h <;> cases h
    exact .stay
  | hear line =>
    simp only [act?] at h
    split at h
    · split at h
      · cases h
        unfold deliver
        split <;> exact .stay
      · cases h
        exact .stay
    · cases h
  | drain =>
    simp only [act?] at h
    split at h
    · rename_i hreading
      cases h
      rw [hreading]
      exact .drains
    · cases h
  | finish =>
    simp only [act?] at h
    split at h
    · rename_i hdrained
      cases h
      rw [hdrained]
      exact .finishes
    · cases h

theorem readerMoves_before (h : actions[i]? = some action) :
    ReaderMoves action (before actions i).reader (before actions (i + 1)).reader := by
  rw [before_succ h]
  unfold act
  cases hact : (before actions i).act? action with
  | none => exact .stay
  | some d => exact readerMoves_act? hact

/-- The register has been drained before the `i`-th action. -/
def Drained (actions : List Action) (i : Nat) : Prop := (before actions i).reader ≠ .reading

/-- The reader is gone before the `i`-th action. -/
def Gone (actions : List Action) (i : Nat) : Prop := (before actions i).reader = .gone

theorem drained_succ (h : Drained actions i) : Drained actions (i + 1) := by
  unfold Drained at h ⊢
  cases haction : actions[i]? with
  | none => rwa [before_succ_of_none haction]
  | some action =>
    have hmove := readerMoves_before haction
    generalize (before actions i).reader = r at hmove h
    generalize (before actions (i + 1)).reader = t at hmove ⊢
    cases hmove with
    | stay => exact h
    | drains => exact absurd rfl h
    | finishes => exact Reader.noConfusion

/-- A drained register stays one. -/
theorem drained_mono (hij : i ≤ j) (h : Drained actions i) : Drained actions j := by
  induction hij with
  | refl => exact h
  | step _ ih => exact drained_succ ih

theorem lt_of_drained (hi : ¬ Drained actions i) (hj : Drained actions j) : i < j :=
  Nat.lt_of_not_le fun hle => hi (drained_mono hle hj)

theorem not_drained_of_handles (h : Handles actions i reply) : ¬ Drained actions i := by
  obtain ⟨line, -, hreading, -⟩ := h
  exact fun hdrained => hdrained hreading

theorem not_drained_of_delivers (h : Delivers actions i id reply) : ¬ Drained actions i := by
  obtain ⟨-, -, hhandles | ⟨hend, -⟩⟩ := of_delivers h
  · exact not_drained_of_handles hhandles
  · exact fun hdrained => hdrained hend.2

/-- The register is drained by the action by which the reader meets the end. -/
theorem meetsEnd_of_drained_succ (hi : ¬ Drained actions i) (h : Drained actions (i + 1)) :
    MeetsEnd actions i := by
  have hreading : (before actions i).reader = .reading := Decidable.not_not.1 hi
  unfold Drained at h
  cases haction : actions[i]? with
  | none =>
    rw [before_succ_of_none haction] at h
    exact absurd hreading h
  | some action =>
    have hmove := readerMoves_before haction
    rw [hreading] at hmove
    generalize (before actions (i + 1)).reader = t at hmove h
    cases hmove with
    | stay => exact absurd rfl h
    | drains => exact ⟨haction, hreading⟩

theorem pending_of_meetsEnd (h : MeetsEnd actions i) : (before actions (i + 1)).pending = [] := by
  obtain ⟨haction, hreading⟩ := h
  rw [before_succ haction]
  simp [act, act?, hreading]

/-- The reader does nothing more to the requests once the register was drained. -/
theorem unchanged_of_drained (h : Drained actions i)
    (hreader : action = .drain ∨ ∃ line, action = .hear line) :
    (before actions i).act action = before actions i :=
  Classical.byContradiction fun hne => h (reading_of_act_ne hne hreader)

/-- Every request that is registered at the end of the output is told so. -/
theorem delivers_of_meetsEnd (h : MeetsEnd actions i) (hregistered : Registered actions i id) :
    Delivers actions i id (.ofExit id) := by
  have hstatus := registered_iff.1 hregistered
  refine ⟨((orderly_before actions i id).of_registered hstatus).1, ?_⟩
  have hdrained := status_drained (before actions i) id
  rw [if_pos hstatus] at hdrained
  obtain ⟨haction, hreading⟩ := h
  rw [before_succ haction]
  simp only [act, act?, hreading, if_true, Option.getD_some]
  exact congrArg Status.slot hdrained

/-- A request finds the reader only as the first that it does. -/
theorem begin_of_moves {s t : Status} (hmove : Moves id action s t)
    (hs : s.stage ≠ some .checked) (ht : t.stage = some .checked) :
    action = .begin id ∧ s.stage = none := by
  cases hmove with
  | checked hnew => exact ⟨rfl, hnew⟩
  | stay | delivered | drained => exact absurd ht hs
  | refused | registered | written | unwritten | received | expired | left => cases ht

/-! ## Stranded requests -/

/-- The request was registered before the `i`-th action, but after the register was drained. -/
def Stranded (actions : List Action) (i : Nat) (id : String) : Prop :=
  ∃ j < i, Drained actions j ∧ ¬ Registered actions j id ∧ Registered actions (j + 1) id

theorem stranded_mono (hij : i ≤ j) (h : Stranded actions i id) : Stranded actions j id := by
  obtain ⟨k, hk, hrest⟩ := h
  exact ⟨k, Nat.lt_of_lt_of_le hk hij, hrest⟩

/-- A request is registered by an action of its own, after it has looked for the reader. -/
theorem registers_of (hbefore : ¬ Registered actions i id)
    (hafter : Registered actions (i + 1) id) :
    actions[i]? = some (.register id) ∧ (before actions i).stage? id = some .checked := by
  rw [registered_iff] at hbefore hafter
  cases haction : actions[i]? with
  | none =>
    rw [before_succ_of_none haction] at hafter
    exact absurd hafter hbefore
  | some action =>
    have hmove := moves_before haction id
    change _ ∧ ((before actions i).status id).stage = some .checked
    generalize (before actions i).status id = s at *
    generalize (before actions (i + 1)).status id = t at *
    cases hmove with
    | registered hstage => exact ⟨rfl, hstage⟩
    | delivered | drained | left => cases hafter
    | stay | refused | checked | written | unwritten | received | expired =>
      exact absurd hafter hbefore

theorem registered_of_register (haction : actions[i]? = some (.register id))
    (hstage : (before actions i).stage? id = some .checked) :
    ¬ Registered actions i id ∧ Registered actions (i + 1) id := by
  constructor
  · rw [registered_iff]
    have horderly := orderly_before actions i id
    have hchecked : ((before actions i).status id).stage = some .checked := hstage
    simp only [Status.Orderly, hchecked] at horderly
    rw [horderly.1]
    exact Bool.false_ne_true
  · unfold Registered
    rw [before_succ haction]
    simp [act, act?, hstage]

/-- After the register was drained, a request leaves it only to end. -/
theorem ended_of_leaves (hdrained : Drained actions i) (hbefore : Registered actions i id)
    (hafter : ¬ Registered actions (i + 1) id) :
    ∃ ending, (before actions (i + 1)).ending? id = some ending := by
  simp only [ending?_eq_some_iff]
  rw [registered_iff] at hbefore hafter
  cases haction : actions[i]? with
  | none =>
    rw [before_succ_of_none haction] at hafter
    exact absurd hbefore hafter
  | some action =>
    -- The reader does nothing more, so the register is changed by requests alone.
    have hidle : (action = .drain ∨ ∃ line, action = .hear line) →
        (before actions (i + 1)).status id = (before actions i).status id := by
      intro hreader
      rw [before_succ haction, unchanged_of_drained hdrained hreader]
    have hmove := moves_before haction id
    generalize (before actions i).status id = s at *
    generalize (before actions (i + 1)).status id = t at *
    cases hmove with
    | left => exact ⟨_, rfl⟩
    | delivered =>
      rw [hidle (.inr ⟨_, rfl⟩)] at hafter
      exact absurd hbefore hafter
    | drained =>
      rw [hidle (.inl rfl)] at hafter
      exact absurd hbefore hafter
    | registered => exact absurd rfl hafter
    | stay | refused | checked | written | unwritten | received | expired =>
      exact absurd hbefore hafter

/-- After the register was drained, it holds exactly the stranded requests that have not ended. -/
theorem registered_iff_stranded (hdrained : Drained actions i) :
    Registered actions i id ↔ Stranded actions i id ∧ (before actions i).ending? id = none := by
  induction i with
  | zero => exact absurd rfl hdrained
  | succ i ih =>
    by_cases hi : Drained actions i
    · by_cases hbefore : Registered actions i id
      · by_cases hafter : Registered actions (i + 1) id
        · have hstranded := stranded_mono (Nat.le_succ i) ((ih hi).1 hbefore).1
          simp only [hafter, hstranded, true_and, true_iff]
          rw [Option.eq_none_iff_forall_ne_some]
          exact fun ending hended => not_registered_of_ended hended hafter
        · obtain ⟨ending, hended⟩ := ended_of_leaves hi hbefore hafter
          simp [hafter, hended]
      · by_cases hafter : Registered actions (i + 1) id
        · simp only [hafter, true_iff]
          refine ⟨⟨i, Nat.lt_succ_self i, hi, hbefore, hafter⟩, ?_⟩
          rw [Option.eq_none_iff_forall_ne_some]
          exact fun ending hended => not_registered_of_ended hended hafter
        · simp only [hafter, false_iff, not_and]
          rintro ⟨j, hj, hrest⟩ hopen
          rcases Nat.lt_succ_iff_lt_or_eq.1 hj with hlt | rfl
          · -- It was registered and is no longer, so it has ended before.
            refine hbefore ((ih hi).2 ⟨⟨j, hlt, hrest⟩, ?_⟩)
            rw [Option.eq_none_iff_forall_ne_some]
            intro ending hended
            rw [ended_before (Nat.le_succ i) hended] at hopen
            cases hopen
          · exact hafter hrest.2.2
    · have hempty := pending_of_meetsEnd (meetsEnd_of_drained_succ hi hdrained)
      have hnone : ¬ Registered actions (i + 1) id := by simp [Registered, hempty]
      simp only [hnone, false_iff, not_and]
      rintro ⟨j, hj, hdrainedJ, -⟩
      exact absurd (drained_mono (Nat.lt_succ_iff.1 hj) hdrainedJ) hi

/-- A request that has looked and found the reader began while the reader was not yet gone. -/
theorem exists_begin_of_checked (h : (before actions n).stage? id = some .checked) :
    ∃ k < n, actions[k]? = some (.begin id) ∧ ¬ Gone actions k := by
  induction n with
  | zero => cases h
  | succ n ih =>
    cases haction : actions[n]? with
    | none =>
      rw [before_succ_of_none haction] at h
      obtain ⟨k, hk, hbegin⟩ := ih h
      exact ⟨k, Nat.lt_succ_of_lt hk, hbegin⟩
    | some action =>
      by_cases hold : (before actions n).stage? id = some .checked
      · obtain ⟨k, hk, hbegin⟩ := ih hold
        exact ⟨k, Nat.lt_succ_of_lt hk, hbegin⟩
      · obtain ⟨rfl, hnew⟩ := begin_of_moves (moves_before haction id) hold h
        refine ⟨n, Nat.lt_succ_self n, haction, ?_⟩
        intro hgone
        rw [before_succ haction] at h
        have hgone' : (before actions n).reader = .gone := hgone
        have hnone : (before actions n).stage? id = none := hnew
        simp [act, act?, hnone, hgone', stage?_enter_self] at h

/-- A stranded request has looked for the reader while it was not yet gone. -/
theorem exists_begin_of_stranded (h : Stranded actions i id) :
    ∃ k < i, actions[k]? = some (.begin id) ∧ ¬ Gone actions k := by
  obtain ⟨j, hj, -, hbefore, hafter⟩ := h
  obtain ⟨-, hstage⟩ := registers_of hbefore hafter
  obtain ⟨k, hk, hbegin⟩ := exists_begin_of_checked hstage
  exact ⟨k, Nat.lt_trans hk hj, hbegin⟩

/-- Nothing is ever put into the slot of a stranded request. -/
theorem slot_of_stranded (h : Stranded actions i id) (n : Nat) :
    (before actions n).slot? id = none := by
  obtain ⟨j, -, hdrained, hbefore, hafter⟩ := h
  rw [Option.eq_none_iff_forall_ne_some]
  intro reply hslot
  obtain ⟨m, -, hdelivers⟩ := exists_delivers hslot
  -- The slot was filled before the drain, so before the request was registered.
  have hm := lt_of_drained (not_drained_of_delivers hdelivers) hdrained
  have hfilled := slot_before hm hdelivers.2
  have horderly := orderly_before actions j id
  have hchecked : ((before actions j).status id).stage = some .checked :=
    (registers_of hbefore hafter).2
  simp only [Status.Orderly, hchecked] at horderly
  have hempty : (before actions j).slot? id = none := horderly.2
  rw [hempty] at hfilled
  cases hfilled

/-! ## Requests whose time runs out -/

theorem exists_first {P : Nat → Prop} (hi : ¬ P i) (hij : i ≤ j) (hj : P j) :
    ∃ k, i ≤ k ∧ k < j ∧ ¬ P k ∧ P (k + 1) := by
  induction hij with
  | refl => exact absurd hj hi
  | @step j hij ih =>
    by_cases hbefore : P j
    · obtain ⟨k, hik, hkj, hk⟩ := ih hbefore
      exact ⟨k, hik, Nat.lt_succ_of_lt hkj, hk⟩
    · exact ⟨j, hij, Nat.lt_succ_self j, hbefore, hj⟩

/-- The time of a request runs out by an action of its own, while its slot is empty. -/
theorem expires_of (hbefore : ¬ Overdue actions i id) (hafter : Overdue actions (i + 1) id) :
    actions[i]? = some (.expire id) ∧ (before actions i).stage? id = some .waiting ∧
      (before actions i).slot? id = none := by
  cases haction : actions[i]? with
  | none =>
    unfold Overdue at hbefore hafter
    rw [before_succ_of_none haction] at hafter
    exact absurd hafter hbefore
  | some action =>
    have hmove := moves_before haction id
    change ¬ (((before actions i).status id).stage = some (.leaving .overdue) ∨
      ((before actions i).status id).stage = some (.ended .overdue)) at hbefore
    change ((before actions (i + 1)).status id).stage = some (.leaving .overdue) ∨
      ((before actions (i + 1)).status id).stage = some (.ended .overdue) at hafter
    change _ ∧ ((before actions i).status id).stage = some .waiting ∧
      ((before actions i).status id).slot = none
    generalize (before actions i).status id = s at *
    generalize (before actions (i + 1)).status id = t at *
    cases hmove with
    | expired hstage hslot => exact ⟨rfl, hstage, hslot⟩
    | left hstage =>
      -- A request that leaves overdue was overdue before.
      rcases hafter with hleaving | hended
      · cases hleaving
      · cases hended
        exact absurd (.inl hstage) hbefore
    | stay | delivered | drained => exact absurd hafter hbefore
    | refused | checked | registered | written | unwritten | received =>
      rcases hafter with hleaving | hended
      · cases hleaving
      · cases hended

/-- After the register was drained, the time runs out of stranded requests only. -/
theorem stranded_of_expires (hdrained : Drained actions i) (hbefore : ¬ Overdue actions i id)
    (hafter : Overdue actions (i + 1) id) : Stranded actions i id := by
  obtain ⟨-, hstage, hslot⟩ := expires_of hbefore hafter
  have horderly := orderly_before actions i id
  have hwaiting : ((before actions i).status id).stage = some .waiting := hstage
  have hempty : ((before actions i).status id).slot = none := hslot
  simp only [Status.Orderly, hwaiting] at horderly
  refine ((registered_iff_stranded hdrained).1 (registered_iff.2 ?_)).1
  rcases horderly with ⟨hregistered, -⟩ | ⟨-, reply, hfilled, -⟩
  · exact hregistered
  · rw [hempty] at hfilled
    cases hfilled

theorem not_expires_of_meetsEnd (h : MeetsEnd actions i) (hbefore : ¬ Overdue actions i id) :
    ¬ Overdue actions (i + 1) id := by
  intro hafter
  have haction := (expires_of hbefore hafter).1
  rw [h.1] at haction
  cases haction

theorem overdue_of_returns (h : Returns actions n id .overdue) : Overdue actions (n + 1) id :=
  .inr (ending?_eq_some_iff.1 h.2)

/-- A request that returns overdue was overdue before the drain, or it is stranded. -/
theorem overdue_or_stranded (h : Returns actions n id .overdue) :
    (∃ i, ¬ Drained actions i ∧ Overdue actions i id) ∨ Stranded actions n id := by
  have hnew : ¬ Overdue actions 0 id := by
    rintro (h | h) <;> cases h
  obtain ⟨k, -, hk, hbefore, hafter⟩ := exists_first (P := fun i => Overdue actions i id) hnew
    (Nat.zero_le _) (overdue_of_returns h)
  by_cases hdrained : Drained actions k
  · exact .inr (stranded_mono (Nat.lt_succ_iff.1 hk) (stranded_of_expires hdrained hbefore hafter))
  · refine .inl ⟨k + 1, fun hnext => ?_, hafter⟩
    exact not_expires_of_meetsEnd (meetsEnd_of_drained_succ hdrained hnext) hbefore hafter

/-! ## What becomes of requests -/

/-- What becomes of requests when the output ends in a run. -/
structure Aftermath (actions : List Action) : Prop where
  /-- After the register was drained, it holds exactly the stranded requests that have not ended. -/
  register : ∀ {i id}, Drained actions i →
    (Registered actions i id ↔ Stranded actions i id ∧ (before actions i).ending? id = none)
  /-- It stays empty exactly if no request that has looked is registered later. -/
  stays_empty : (∀ i id, Drained actions i → ¬ Registered actions i id) ↔
    ∀ i id, Drained actions i → actions[i]? = some (.register id) →
      (before actions i).stage? id ≠ some .checked
  /-- A stranded request has looked before the reader was gone. -/
  stranded_looked : ∀ {i id}, Stranded actions i id →
    ∃ k < i, actions[k]? = some (.begin id) ∧ ¬ Gone actions k
  /-- A stranded request gets no reply; while it waits, it can only become overdue. -/
  stranded_unanswered : ∀ {i id}, Stranded actions i id →
    (∀ n, (before actions n).slot? id = none) ∧
      ((before actions i).stage? id = some .waiting →
        (before actions i).act? (.receive id) = none ∧
          ((before actions i).act? (.expire id)).isSome)
  /-- A request that is registered at the end of the output is told so, and ends with that, or
  because its line was not written, or because its time had run out before. -/
  told : ∀ {i id}, MeetsEnd actions i → Registered actions i id →
    Delivers actions i id (.ofExit id) ∧ ∀ {n ending}, Returns actions n id ending →
      ending.IsExit ∨ ending = .overdue ∧ Overdue actions i id
  /-- A request that begins when the reader is gone is refused at once. -/
  refused : ∀ {i id}, actions[i]? = some (.begin id) → Gone actions i →
    (before actions i).stage? id = none → Returns actions i id .refused ∧ Ending.IsExit .refused
  /-- A request that waits after the drain and is not stranded can take a reply, and cannot become
  overdue. -/
  answered : ∀ {i id}, Drained actions i → (before actions i).stage? id = some .waiting →
    ¬ Stranded actions i id →
      (∃ reply, ((before actions i).act (.receive id)).ending? id = some (.replied reply)) ∧
        (before actions i).act? (.expire id) = none
  /-- A request that ends with something else has a reply that was handled before the drain, or its
  time had run out before the drain, or it is stranded. -/
  returned : ∀ {n id ending}, Returns actions n id ending → ending.IsExit ∨
    (∃ reply, ending = .replied reply ∧ ∃ i < n, Handles actions i reply ∧
      Registered actions i id) ∨
    ending = .overdue ∧ ((∃ i, ¬ Drained actions i ∧ Overdue actions i id) ∨
      Stranded actions n id)

theorem stays_empty_iff : (∀ i id, Drained actions i → ¬ Registered actions i id) ↔
    ∀ i id, Drained actions i → actions[i]? = some (.register id) →
      (before actions i).stage? id ≠ some .checked := by
  constructor
  · intro hempty i id hdrained haction hstage
    exact hempty (i + 1) id (drained_succ hdrained) (registered_of_register haction hstage).2
  · intro hnone i id hdrained hregistered
    obtain ⟨⟨j, -, hlate, hbefore, hafter⟩, -⟩ := (registered_iff_stranded hdrained).1 hregistered
    obtain ⟨haction, hstage⟩ := registers_of hbefore hafter
    exact hnone j id hlate haction hstage

/-- What a request that was told about the end returns. -/
theorem returns_of_told (hend : MeetsEnd actions i) (hregistered : Registered actions i id)
    (h : Returns actions n id ending) :
    ending.IsExit ∨ ending = .overdue ∧ Overdue actions i id := by
  have htold := (delivers_of_meetsEnd hend hregistered).2
  cases ending with
  | refused => exact .inl Ending.isExit_refused
  | unwritten cause => exact .inl (Ending.isExit_unwritten cause)
  | replied reply =>
    -- The slot is filled once, so the reply is the one about the end.
    have hslot := slot_before (Nat.le_max_left n (i + 1)) (slot_of_returns h)
    rw [slot_before (Nat.le_max_right n (i + 1)) htold] at hslot
    cases hslot
    exact .inl (Ending.isExit_ofExit id)
  | overdue =>
    by_cases hold : Overdue actions i id
    · exact .inr ⟨rfl, hold⟩
    · have hlate := overdue_before (Nat.le_max_left (n + 1) i) (overdue_of_returns h)
      obtain ⟨k, hik, -, hbefore, hafter⟩ := exists_first (P := fun i => Overdue actions i id) hold
        (Nat.le_max_right (n + 1) i) hlate
      rcases Nat.lt_or_eq_of_le hik with hlt | rfl
      · have hempty := (expires_of hbefore hafter).2.2
        rw [slot_before hlt htold] at hempty
        cases hempty
      · exact absurd hafter (not_expires_of_meetsEnd hend hbefore)

theorem refuses_of_gone (haction : actions[i]? = some (.begin id)) (hgone : Gone actions i)
    (hnew : (before actions i).stage? id = none) : Returns actions i id .refused := by
  have hreader : (before actions i).reader = .gone := hgone
  constructor
  · simp [ending?, hnew]
  · rw [before_succ haction]
    simp [act, act?, hnew, hreader, ending?, stage?_enter_self]

theorem answers_of_not_stranded (hdrained : Drained actions i)
    (hstage : (before actions i).stage? id = some .waiting) (hnot : ¬ Stranded actions i id) :
    (∃ reply, ((before actions i).act (.receive id)).ending? id = some (.replied reply)) ∧
      (before actions i).act? (.expire id) = none := by
  have hfree : ¬ Registered actions i id :=
    fun hregistered => hnot ((registered_iff_stranded hdrained).1 hregistered).1
  have horderly := orderly_before actions i id
  have hwaiting : ((before actions i).status id).stage = some .waiting := hstage
  simp only [Status.Orderly, hwaiting] at horderly
  rcases horderly with ⟨hregistered, -⟩ | ⟨-, reply, hfilled, -⟩
  · exact absurd (registered_iff.2 hregistered) hfree
  · have hslot : (before actions i).slot? id = some reply := hfilled
    refine ⟨⟨reply, ?_⟩, ?_⟩
    · simp [act, act?, hstage, hslot, ending?, stage?_enter_self]
    · simp [act?, hstage, hslot]

/-- What a request returns at all. -/
theorem returns_cases (h : Returns actions n id ending) : ending.IsExit ∨
    (∃ reply, ending = .replied reply ∧ ∃ i < n, Handles actions i reply ∧
      Registered actions i id) ∨
    ending = .overdue ∧ ((∃ i, ¬ Drained actions i ∧ Overdue actions i id) ∨
      Stranded actions n id) := by
  cases ending with
  | refused => exact .inl Ending.isExit_refused
  | unwritten cause => exact .inl (Ending.isExit_unwritten cause)
  | overdue => exact .inr (.inr ⟨rfl, overdue_or_stranded h⟩)
  | replied reply =>
    obtain ⟨i, hi, hdelivers⟩ := exists_delivers (slot_of_returns h)
    obtain ⟨hregistered, -, hhandles | ⟨-, rfl⟩⟩ := of_delivers hdelivers
    · exact .inr (.inl ⟨reply, rfl, i, hi, hhandles, hregistered⟩)
    · exact .inl (Ending.isExit_ofExit id)

/-- In every run of the client, the requests that outlast the reader are those that were registered
after the drain, and no other request waits in vain. -/
theorem aftermath (actions : List Action) : Aftermath actions where
  register := registered_iff_stranded
  stays_empty := stays_empty_iff
  stranded_looked := exists_begin_of_stranded
  stranded_unanswered := by
    intro i id hstranded
    refine ⟨slot_of_stranded hstranded, fun hstage => ?_⟩
    have hslot := slot_of_stranded hstranded i
    simp [act?, hstage, hslot]
  told := fun hend hregistered =>
    ⟨delivers_of_meetsEnd hend hregistered, returns_of_told hend hregistered⟩
  refused := fun haction hgone hnew => ⟨refuses_of_gone haction hgone hnew, Ending.isExit_refused⟩
  answered := answers_of_not_stranded
  returned := returns_cases

/-- A request looks for the reader, and is registered only after the drain: the register holds it
though it was drained, and the request ends by its time. -/
theorem late_registration_overdue :
    let late : List Action := [.begin "a", .drain, .register "a", .write "a", .finish,
      .expire "a", .leave "a"]
    Drained late 3 ∧ Registered late 3 "a" ∧ Gone late 5 ∧ Registered late 5 "a" ∧
      Returns late 6 "a" .overdue ∧ Ending.overdue.outcome 30 = .error (.timeout 30) ∧
      (Error.timeout 30).isRetriable = true := by
  intro late
  refine ⟨?_, ?_, ?_, ?_, ⟨rfl, rfl⟩, rfl, rfl⟩
  · show (before late 3).reader ≠ .reading
    decide +kernel
  · show "a" ∈ (before late 3).pending
    decide +kernel
  · show (before late 5).reader = .gone
    decide +kernel
  · show "a" ∈ (before late 5).pending
    decide +kernel

end Client

end CatalogGraph.Worker
