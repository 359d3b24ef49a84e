import TracedPipe.Proofs.Session.Deeds

/-!
# Where errno comes from

Many parties write to errno while a session runs: system calls, the logger, the observer at two
levels, and the caller. Only three of these writes last beyond the step they are made in:

* the codes of the system calls that failed, of a step that did not panic;
* a code that the caller puts back;
* what the logger leaves with the record of a callback that is installed or removed.

`Session.writes` lists them for one step, from the steps and from what the host does with the system
calls, and `Session.history` for a whole run. Errno holds the last of them at every point
(`Session.errno_of_history`): the step lemma is `Session.errno_step`, and the run lemma
`Session.errno_run` follows by induction on the steps.
-/

namespace TracedPipe

/-- Who writes to errno so that it lasts. -/
inductive Writer where
  /-- A system call that failed. -/
  | call
  /-- The caller. -/
  | caller
  /-- The logger, outside any call. -/
  | logger
deriving DecidableEq

/-- A value written to errno, and who wrote it. -/
structure ErrnoWrite where
  writer : Writer
  errno : Errno
deriving DecidableEq

/-- What errno holds after some writes, where it was `e` before. -/
def ErrnoWrite.last (e : Errno) (writes : List ErrnoWrite) : Errno :=
  (writes.getLast?.map ErrnoWrite.errno).getD e

/-- What the logger writes to errno with a record. -/
def Tracing.loggerWrites (t : Tracing) : List ErrnoWrite :=
  if t.log.level.takesDebug then t.log.errno.toList.map (⟨.logger, ·⟩) else []

namespace Session

variable {s : Session}

/-- The system calls that a step makes. -/
def calls (s : Session) (step : Step) : List SystemCall :=
  match step.deed? s.tracing.panic s.world.host with
  | some deed => deed.calls
  | none => []

/-- **The writes of a step to errno that last,** in their order. A step that panics has none. -/
def writes (s : Session) (step : Step) : List ErrnoWrite :=
  if (s.step step).2.reply.isPanic then []
  else
    match step with
    | .restore e => [⟨.caller, e⟩]
    | .installCallback _ => s.tracing.loggerWrites
    | .removeCallback => s.tracing.loggerWrites
    | step => ((s.calls step).filterMap SystemCall.fault).map (⟨.call, ·⟩)

/-- **The writes of a run to errno that last,** in their order. -/
def history (s : Session) : List Step → List ErrnoWrite
  | [] => []
  | step :: steps => s.writes step ++ (s.step step).1.history steps

/-! ### Last writes -/

theorem last_append (e : Errno) (earlier later : List ErrnoWrite) :
    ErrnoWrite.last e (earlier ++ later) = ErrnoWrite.last (ErrnoWrite.last e earlier) later := by
  unfold ErrnoWrite.last
  rw [List.getLast?_append]
  cases later.getLast? <;> rfl

/-- The observer finds what the logger wrote last. -/
theorem last_loggerWrites (t : Tracing) (e : Errno) :
    ErrnoWrite.last e t.loggerWrites = t.seen e := by
  unfold Tracing.loggerWrites Tracing.seen
  split
  · cases t.log.errno <;> rfl
  · rfl

/-- Calls leave the code of the last one that failed. -/
theorem last_faults (w : World) (calls : List SystemCall) :
    ErrnoWrite.last w.errno ((calls.filterMap SystemCall.fault).map (⟨.call, ·⟩))
      = (w.afterAll calls).errno := by
  rw [World.errno_afterAll, ErrnoWrite.last, List.getLast?_map, Option.map_map]
  cases (calls.filterMap SystemCall.fault).getLast? <;> rfl

/-! ### Steps -/

/-- The writes of a step that has a deed are the faults of its calls. -/
theorem writes_of_deed {step : Step} {deed : Deed}
    (h : step.deed? s.tracing.panic s.world.host = some deed) :
    s.writes step = if deed.reply.isPanic then []
      else (deed.calls.filterMap SystemCall.fault).map (⟨.call, ·⟩) := by
  have hreply : (s.step step).2.reply = deed.reply := by rw [step_of_deed h]; rfl
  have hcalls : s.calls step = deed.calls := by rw [calls, h]
  unfold writes
  rw [hreply]
  split
  · rfl
  · cases step with
    | restore e => cases h
    | installCallback errno => cases h
    | removeCallback => cases h
    | _ => rw [← hcalls]

/-- A hook is set without a record, so there is nothing that the logger could write. -/
theorem writes_setHook (s : Session) (hook : Option Hook) : s.writes (.setHook hook) = [] := by
  unfold writes
  split <;> rfl

/-- **A step leaves in errno the last of its writes,** or what was there before. -/
theorem errno_step (s : Session) (step : Step) :
    (s.step step).1.world.errno = ErrnoWrite.last s.world.errno (s.writes step) := by
  induction step using Step.by_deed s.tracing.panic s.world.host with
  | deed step deed h =>
    rw [step_of_deed h, writes_of_deed h, settle]
    dsimp only
    -- A panic puts errno back, and writes nothing.
    split
    · rfl
    · rw [last_faults]
  | setHook hook =>
    rw [writes_setHook, step_setHook]
    rfl
  -- What the logger left with the record stays, as nothing puts errno back.
  | installCallback errno =>
    rw [writes, step_installCallback]
    -- A panic of what is dropped puts errno back, and the step has no writes then.
    cases s.tracing.slot.dropPanic with
    | none => exact (last_loggerWrites s.tracing s.world.errno).symm
    | some message => rfl
  | removeCallback =>
    rw [writes, step_removeCallback]
    cases s.tracing.slot.dropPanic with
    | none => exact (last_loggerWrites s.tracing s.world.errno).symm
    | some message => rfl
  | _ => rfl

/-! ### Runs -/

/-- **After a run errno holds the last write of its history.** -/
theorem errno_run (s : Session) (steps : List Step) :
    (s.run steps).1.world.errno = ErrnoWrite.last s.world.errno (s.history steps) := by
  induction steps generalizing s with
  | nil => rfl
  | cons step steps ih =>
    calc (s.run (step :: steps)).1.world.errno
        = ((s.step step).1.run steps).1.world.errno := rfl
      _ = ErrnoWrite.last (s.step step).1.world.errno ((s.step step).1.history steps) := ih _
      _ = ErrnoWrite.last s.world.errno (s.history (step :: steps)) := by
        rw [errno_step, history, last_append]

/-- **Where errno comes from.** At every point of every session, errno holds the last write of the
history so far, and no error if there was none. Every view of errno shows that code: the last error,
the check of a negative result, and the check of a negative descriptor; what is not negative passes
both checks whatever errno holds. -/
theorem errno_of_history (changes : List Change) (steps : List Step) :
    let s := ((prepared changes).run steps).1
    let e := ErrnoWrite.last .success ((prepared changes).history steps)
    s.world.errno = e ∧
    (s.step .last).2.reply = .last e ∧
    (∀ result : Int, (s.step (.checkResult result)).2.reply
      = .result (if result < 0 then .error e else .ok result.toNat)) ∧
    (∀ d : Descriptor, (s.step (.check d)).2.reply
      = .descriptor (if d.number < 0 then .error e else .ok d)) := by
  intro s e
  have herrno : s.world.errno = e := errno_run (prepared changes) steps
  refine ⟨herrno, ?_, ?_, ?_⟩
  · rw [← herrno]
    rfl
  · -- A check asks for errno only if what it checks is negative.
    intro result
    rw [step, ← herrno]
    refine congrArg Reply.result ?_
    by_cases hneg : result < 0
    · rw [if_pos hneg]
      exact Errno.check_of_neg s.world.errno hneg
    · rw [if_neg hneg]
      obtain ⟨n, rfl⟩ := Int.eq_ofNat_of_zero_le (Int.not_lt.mp hneg)
      exact Errno.check_ofNat s.world.errno n
  · intro d
    rw [step, ← herrno]
    refine congrArg Reply.descriptor ?_
    unfold Descriptor.check Descriptor.isValid
    by_cases hd : d.number < 0
    · rw [if_pos hd, if_neg (by simpa using hd)]
    · rw [if_neg hd, if_pos (by simpa using hd)]

end Session

end TracedPipe
