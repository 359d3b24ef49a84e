import TracedPipe.Proofs.Session.Agreement

/-!
# The slot is a register

The observer of a session is the one that was set last, if the last step to set one set any: no
panic, neither of an observer that is told of an event nor of one that is dropped, makes it another.
So whoever asks for an observer, whoever makes a record, and the next call all go by that step
(`Session.lastObserver`).

A call whose observer panics is nevertheless done. It leaves the session that it would leave if the
observer returned, but for errno, which is that of before; all that comes after goes on alike.

* `Session.observer_run` — a run keeps the register;
* `Session.step_of_panic`, `Session.returning_of_call` — a call whose observer panics, and the same
  call if the observer returned;
* `Session.lastObserver_rules` — the register, the next call, panics and records at any point of any
  session.
-/

namespace TracedPipe

/-! ### The register -/

/-- What a step puts into the slot, if it sets it. -/
def Step.sets? : Step → Option (Option Observer)
  | .setHook hook => some (hook.map .hook)
  | .installCallback errno => some (some (.callback errno))
  | .removeCallback => some none
  | _ => none

/-- **The observer that was set last,** if the last step to set one set any. -/
def Session.lastObserver (steps : List Step) : Option Observer :=
  (steps.filterMap Step.sets?).getLast?.join

/-! ### What observers are told -/

/-- Whether an entry shows that an observer was told of an event. -/
def Entry.isTelling : Entry → Bool
  | .hook _ _ _ => true
  | .callback _ _ => true
  | _ => false

/-- The same observer, but one that does not panic when it is told of an event. -/
def Observer.calmed : Observer → Observer
  | .hook h => .hook { h with panic := none }
  | .callback errno => .callback errno

namespace Tracing

/-- What an observer is told of one event, where its call left `e` in errno: a callback gets the
line; a hook gets the event, and then, if it is a nesting one, that of the call that it makes. -/
def tellings (t : Tracing) (e : Errno) (event : Event) : Option Observer → List Entry
  | none => []
  | some (.callback _) => [.callback event.line (t.seen e)]
  | some (.hook hook) =>
    .hook hook.label (t.seen e) event ::
      if hook.nested then [.hook hook.label (t.seen .badDescriptor) .closedInvalid] else []

/-- What an observer is told of a row of calls, the first of which is made in the world `w`. -/
def tellingsOf (t : Tracing) (observer : Option Observer) (w : World) :
    List SystemCall → List Entry
  | [] => []
  | call :: calls =>
    t.tellings (w.after call).errno call.event observer ++
      t.tellingsOf observer (w.after call) calls

theorem filter_records (t : Tracing) (text : Bytes) :
    (t.records text).filter Entry.isTelling = [] := by
  unfold records
  split <;> rfl

/-- **The present observer is told of an event,** and nobody else is. -/
theorem filter_entries (t : Tracing) (e : Errno) (event : Event) :
    (t.entries e event).filter Entry.isTelling = t.tellings e event t.observer := by
  unfold entries entriesWith tellings
  rw [List.filter_append, filter_records, List.nil_append]
  rcases t.observer with _ | hook | errno
  · rfl
  -- What came of the call of a nesting hook is no telling, so a panic inside it makes no
  -- difference.
  · have hnested : (t.nestedEntries hook).filter Entry.isTelling
        = [.hook hook.label (t.seen .badDescriptor) .closedInvalid] := by
      unfold nestedEntries
      rw [List.filter_append, filter_records, List.nil_append]
      cases hook.panic <;> rfl
    dsimp only
    rw [List.filter_cons_of_pos rfl, apply_ite (List.filter Entry.isTelling), hnested]
    rfl
  · rfl

theorem filter_entriesOf (t : Tracing) (w : World) (calls : List SystemCall) :
    (t.entriesOf w calls).filter Entry.isTelling = t.tellingsOf t.observer w calls := by
  induction calls generalizing w with
  | nil => rfl
  | cons call calls ih => rw [entriesOf, List.filter_append, filter_entries, ih, tellingsOf]

/-! ### Records -/

theorem hasObserver_of_mem_records {t : Tracing} {text line : Bytes} {flag : Bool}
    (h : .record text flag ∈ t.records line) : flag = t.observer.isSome := by
  unfold records at h
  split at h
  · rw [List.mem_singleton, Entry.record.injEq] at h
    rw [h.2, hasObserver_eq]
  · exact absurd h List.not_mem_nil

/-- The record of the call that a hook makes is made while the hook is in the slot. -/
theorem hasObserver_of_mem_nestedEntries {t : Tracing} {hook : Hook} {text : Bytes} {flag : Bool}
    (h : .record text flag ∈ t.nestedEntries hook) : flag = t.observer.isSome := by
  unfold nestedEntries at h
  rcases List.mem_append.mp h with h | h
  · exact hasObserver_of_mem_records h
  · cases hpanic : hook.panic <;> rw [hpanic] at h <;> simp at h

/-- The records of an event show whether there is an observer. -/
theorem hasObserver_of_mem_entries {t : Tracing} {e : Errno} {event : Event} {text : Bytes}
    {flag : Bool} (h : .record text flag ∈ t.entries e event) : flag = t.observer.isSome := by
  unfold entries entriesWith at h
  rcases List.mem_append.mp h with h | h
  · exact hasObserver_of_mem_records h
  · -- Behind the record of the call, only a nesting hook has one, and it is made with the same
    -- slot.
    cases ho : t.observer with
    | none =>
      rw [ho] at h
      exact absurd h List.not_mem_nil
    | some observer =>
      cases observer with
      | callback errno =>
        rw [ho] at h
        cases List.mem_singleton.mp h
      | hook hook =>
        rw [ho] at h
        rcases List.mem_cons.mp h with h | h
        · cases h
        · split at h
          · rw [← ho]
            exact hasObserver_of_mem_nestedEntries h
          · exact absurd h List.not_mem_nil

theorem hasObserver_of_mem_entriesOf {t : Tracing} {w : World} {calls : List SystemCall}
    {text : Bytes} {flag : Bool} (h : .record text flag ∈ t.entriesOf w calls) :
    flag = t.observer.isSome := by
  induction calls generalizing w with
  | nil => exact absurd h List.not_mem_nil
  | cons call calls ih =>
    rcases List.mem_append.mp h with h | h
    · exact hasObserver_of_mem_entries h
    · exact ih h

/-! ### Observers that return -/

/-- The same settings with an observer that does not panic when it is told of an event. -/
def calmed (t : Tracing) : Tracing :=
  { t with slot := { t.slot with content := t.slot.content.map Observer.calmed } }

theorem panic_calmed (t : Tracing) : t.calmed.panic = none := by
  unfold panic
  rw [show t.calmed.observer = t.slot.content.map Observer.calmed from Slot.observer_eq _]
  rcases t.slot.content with _ | hook | errno <;> rfl

end Tracing

/-! ### Steps that are one call -/

/-- The system call of a step that is a call of this library. -/
def Step.call? (host : Host) : Step → Option SystemCall
  | .openFile form => form.path.toOption.map host.opening
  | .read form d count pace => some (host.reading d count form.destination pace)
  | .close d => some (host.closing d)
  | .closeByC d => some (host.closing d)
  | _ => none

/-- Such a step does what its call does, whether the observer panics or not. -/
theorem Step.deed?_of_call {step : Step} {host : Host} {call : SystemCall}
    (h : step.call? host = some call) :
    step.showsEntries = true ∧ ∃ reply : Reply, reply.isPanic = false ∧
      ∀ panic, step.deed? panic host = some (.ofCall panic call reply) := by
  -- The call is the same whatever the observer does. Only a refused open makes none.
  cases step with
  | openFile form =>
    rw [Step.call?] at h
    cases hpath : form.path with
    | error fault =>
      rw [hpath] at h
      cases h
    | ok path =>
      rw [hpath] at h
      obtain rfl := Option.some.inj h
      exact ⟨rfl, _, rfl, fun panic => Step.deed_of_path hpath panic host⟩
  | read form d count pace =>
    obtain rfl := Option.some.inj h
    exact ⟨rfl, _, rfl, fun panic => rfl⟩
  | close d =>
    obtain rfl := Option.some.inj h
    exact ⟨rfl, _, rfl, fun panic => rfl⟩
  | closeByC d =>
    obtain rfl := Option.some.inj h
    exact ⟨rfl, _, rfl, fun panic => rfl⟩
  | _ => cases h

namespace Session

/-! ### A run keeps the register -/

theorem observer_step (s : Session) (step : Step) :
    (s.step step).1.tracing.observer = step.sets?.getD s.tracing.observer := by
  rw [tracing_step]
  cases step with
  | setHook hook => exact s.tracing.observer_withObserver (hook.map .hook)
  | installCallback errno => exact s.tracing.observer_withObserver (some (.callback errno))
  | removeCallback => exact s.tracing.observer_withObserver none
  | _ => rfl

/-- **A run keeps the register:** the observer is the one that was set last, or the one that was
there before. -/
theorem observer_run (s : Session) (steps : List Step) :
    (s.run steps).1.tracing.observer
      = (steps.filterMap Step.sets?).getLast?.getD s.tracing.observer := by
  induction steps generalizing s with
  | nil => rfl
  | cons step steps ih =>
    show ((s.step step).1.run steps).1.tracing.observer = _
    rw [ih, observer_step]
    cases hset : step.sets? with
    | none => rw [List.filterMap_cons_none hset, Option.getD_none]
    | some observer =>
      rw [List.filterMap_cons_some hset, List.getLast?_cons, Option.getD_some, Option.getD_some]

theorem observer_prepared (changes : List Change) (steps : List Step) :
    ((prepared changes).run steps).1.tracing.observer = lastObserver steps := by
  rw [observer_run, lastObserver]
  cases (steps.filterMap Step.sets?).getLast? <;> rfl

/-! ### Panics of the observer -/

/-- The session that a step would leave if the observer returned. -/
def returning (s : Session) (step : Step) : Session :=
  ⟨((⟨s.world, s.tracing.calmed⟩ : Session).step step).1.world, s.tracing⟩

variable {s : Session} {step : Step} {call : SystemCall}

theorem returning_of_call (h : step.call? s.world.host = some call) :
    s.returning step = ⟨s.world.after call, s.tracing⟩ := by
  obtain ⟨-, reply, hreply, hdeed⟩ := Step.deed?_of_call h
  -- The deed of the step, but made where the observer does not panic.
  have hcalm : step.deed? s.tracing.calmed.panic s.world.host = some (.ofCall none call reply) := by
    rw [Tracing.panic_calmed, hdeed]
  have hsettled := step_of_deed (s := ⟨s.world, s.tracing.calmed⟩) hcalm
  rw [returning, hsettled, settle, Deed.ofCall]
  dsimp only
  rw [hreply]
  rfl

/-- **A call whose observer panics** leaves what its system call did to the host, and all else as it
was. -/
theorem step_of_panic {message : String} (h : step.call? s.world.host = some call)
    (hpanic : (s.step step).2.reply = .panicked message) :
    (s.step step).1 = ⟨⟨call.host, s.world.errno⟩, s.tracing⟩ := by
  obtain ⟨-, reply, hreply, hdeed⟩ := Step.deed?_of_call h
  have hsettled := step_of_deed (hdeed s.tracing.panic)
  rw [hsettled] at hpanic ⊢
  have hisPanic : (Deed.ofCall s.tracing.panic call reply).reply.isPanic = true :=
    congrArg Reply.isPanic hpanic
  rw [settle, hisPanic]
  rfl

/-! ### Records of a step -/

/-- **Every record shows whether there is an observer when it is made:** for the record of a
removal, after it; for all others, before the step. -/
theorem hasObserver_of_mem_step {text : Bytes} {flag : Bool}
    (h : .record text flag ∈ (s.step step).2.entries) :
    flag = if step = .removeCallback then false else s.tracing.observer.isSome := by
  induction step using Step.by_deed s.tracing.panic s.world.host with
  | deed step deed hdeed =>
    -- A step that has a deed sets no observer.
    have hstep : step ≠ .removeCallback := by
      rintro rfl
      cases hdeed
    rw [if_neg hstep]
    rw [step_of_deed hdeed, settle] at h
    dsimp only at h
    split at h
    · exact Tracing.hasObserver_of_mem_entriesOf h
    · exact absurd h List.not_mem_nil
  -- The record of an installation comes before the callback is in the slot.
  | installCallback errno =>
    rw [if_neg (by rintro ⟨⟩)]
    rw [step_installCallback] at h
    cases hdrop : s.tracing.slot.dropPanic <;> rw [hdrop] at h
    · exact Tracing.hasObserver_of_mem_records h
    · exact Tracing.hasObserver_of_mem_records h
  | removeCallback =>
    rw [if_pos rfl]
    rw [step_removeCallback] at h
    cases hdrop : s.tracing.slot.dropPanic <;> rw [hdrop] at h
    · -- The record comes when the slot is empty, and only if nothing panicked before.
      rw [Tracing.hasObserver_of_mem_records h, Tracing.observer_withObserver]
      rfl
    · exact absurd h List.not_mem_nil
  | setHook hook =>
    rw [step_setHook] at h
    exact absurd h List.not_mem_nil
  | _ => exact absurd h List.not_mem_nil

/-! ### At any point of a session -/

/-- **The slot is a register that survives panics.** At every point of every session the observer is
the one that was set last:

* whoever asks for an observer learns whether there is this one;
* the next step that makes calls tells this one of each of them, and no other;
* if this one panics in a call, the call is done, errno and the settings of tracing are left as they
  were, and all that comes after is as if it had returned, but for the errno of that call, which is
  missing until something else writes to errno;
* another one takes its place, and nothing else changes, even if its drop panics;
* every record shows whether it is there, but for that of its removal. -/
theorem lastObserver_rules (changes : List Change) (steps : List Step) :
    let s := ((prepared changes).run steps).1
    let observer := lastObserver steps
    (s.tracing.observer = observer ∧
      (s.step .hasObserver).2.reply = .hasObserver observer.isSome) ∧
    (∀ (step : Step) (deed : Deed), step.deed? s.tracing.panic s.world.host = some deed →
      step.showsEntries = true →
      (s.step step).2.entries.filter Entry.isTelling
        = s.tracing.tellingsOf observer s.world deed.calls) ∧
    (∀ (step : Step) (call : SystemCall) (message : String),
      step.call? s.world.host = some call → (s.step step).2.reply = .panicked message →
      (s.step step).1 = ⟨⟨call.host, s.world.errno⟩, s.tracing⟩ ∧
      s.returning step = ⟨⟨call.host, call.fault.getD s.world.errno⟩, s.tracing⟩ ∧
      ∀ later : List Step,
        ((s.step step).1.run later).1.world.host = ((s.returning step).run later).1.world.host ∧
        ((s.step step).1.run later).1.tracing = ((s.returning step).run later).1.tracing ∧
        (s.step step).1.history later = (s.returning step).history later ∧
        List.Forall₂ Answer.Agrees ((s.returning step).run later).2
          ((s.step step).1.run later).2) ∧
    (∀ hook : Option Hook,
      (s.step (.setHook hook)).1 = ⟨s.world, s.tracing.withObserver (hook.map .hook)⟩) ∧
    (∀ (step : Step) (text : Bytes) (flag : Bool), .record text flag ∈ (s.step step).2.entries →
      flag = if step = .removeCallback then false else observer.isSome) := by
  intro s observer
  have hobserver : s.tracing.observer = observer := observer_prepared changes steps
  refine ⟨⟨hobserver, ?_⟩, ?_, ?_, ?_, ?_⟩
  · -- Whether there is an observer is asked of the slot, poisoned or not.
    show Reply.hasObserver s.tracing.hasObserver = _
    rw [Tracing.hasObserver_eq, hobserver]
  · -- The tellings of a step are those of its calls, and whom they reach is a matter of the slot.
    intro step deed hdeed hshown
    rw [step_of_deed hdeed, settle, hshown, ← hobserver]
    exact s.tracing.filter_entriesOf s.world deed.calls
  · -- A call that a panic ended did the same to the host as one that returned.
    intro step call message hcall hpanic
    have hstep := step_of_panic hcall hpanic
    have hreturning := returning_of_call hcall
    refine ⟨hstep, hreturning, fun later => ?_⟩
    -- The two sessions differ in errno alone.
    have hhost : (s.step step).1.world.host = (s.returning step).world.host := by
      rw [hstep, hreturning]
      rfl
    have htracing : (s.step step).1.tracing = (s.returning step).tracing := by
      rw [hstep, hreturning]
    exact agree_run later hhost htracing
  · intro hook
    rw [step_setHook]
  · intro step text flag hmem
    rw [← hobserver]
    exact hasObserver_of_mem_step hmem

/-- Steps that leave a poisoned slot and, in it, a nesting hook that panics. -/
def poisoningSteps : List Step :=
  [.setLog ⟨.debug, some ⟨71⟩⟩,
    .setHook (some ⟨"first", none, false, none, some "dropped"⟩),
    .setHook (some ⟨"second", some ⟨72⟩, true, some "told", none⟩)]

/-- The session that these steps lead to. -/
def poisonedSession : Session := ((prepared []).run poisoningSteps).1

theorem lastObserver_rules_poisonedSession :
    (poisonedSession.tracing.slot.poisoned = true ∧
      (poisonedSession.step (.openFile (.pointer none))).2.reply = .panicked "told") ∧
    (poisonedSession.step (.openFile (.pointer none))).2.entries.filter Entry.isTelling
      = [.hook "second" ⟨71⟩ (.opened none .invalid), .hook "second" ⟨71⟩ .closedInvalid] ∧
    (poisonedSession.step (.openFile (.pointer none))).1 = poisonedSession ∧
    poisonedSession.returning (.openFile (.pointer none))
      = ⟨⟨poisonedSession.world.host, .badAddress⟩, poisonedSession.tracing⟩ ∧
    (.record (Event.opened none .invalid).line true
        ∈ (poisonedSession.step (.openFile (.pointer none))).2.entries ∧
      true = (lastObserver poisoningSteps).isSome) := by
  obtain ⟨-, htold, hpanic, -, hrecord⟩ := lastObserver_rules [] poisoningSteps
  have hreply : (poisonedSession.step (.openFile (.pointer none))).2.reply = .panicked "told" := by
    decide
  have hmem : .record (Event.opened none .invalid).line true
      ∈ (poisonedSession.step (.openFile (.pointer none))).2.entries := by
    decide
  obtain ⟨hstep, hreturning, -⟩ := hpanic (.openFile (.pointer none)) _ "told" rfl hreply
  exact ⟨⟨by decide, hreply⟩, htold (.openFile (.pointer none)) _ rfl rfl, hstep, hreturning,
    hmem, hrecord (.openFile (.pointer none)) _ true hmem⟩

end Session

end TracedPipe
