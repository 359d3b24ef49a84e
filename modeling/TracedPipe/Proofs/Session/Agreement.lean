import TracedPipe.Proofs.Session.Provenance
import Mathlib.Data.List.Forall2

/-!
# Sessions that agree

Two sessions on the same host do the same, whatever stands in their errnos: a step leaves the same
host, writes the same to errno, and replies the same, but for the replies that show errno itself
(`Reply.withErrno`). The sessions may be traced differently too, as long as the step does not
concern tracing and the observer panics in neither.

`Session.agree` says so of one step, `Session.agree_run` of runs whose settings of tracing are the
same. Errno is all in which they may differ, and the first write of either makes it the same again.
-/

namespace TracedPipe

/-- The reply with another errno, where it shows errno. -/
def Reply.withErrno (e : Errno) : Reply → Reply
  | .last _ => .last e
  | .descriptor (.error _) => .descriptor (.error e)
  | .result (.error _) => .result (.error e)
  | reply => reply

/-- Whether an answer is the same as another but for errno, and for what is seen of tracing. -/
def Answer.Agrees (a b : Answer) : Prop := b.reply = a.reply.withErrno b.errno

/-- The reply of a deed does not show errno. -/
theorem Reply.withErrno_of_deed {step : Step} {panic : Option String} {host : Host} {deed : Deed}
    (h : step.deed? panic host = some deed) (e : Errno) : deed.reply.withErrno e = deed.reply := by
  -- A reply of one call shows what the call returned; a panic shows its message.
  have hofCall (call : SystemCall) (reply : Reply) (hreply : reply.withErrno e = reply) :
      (Deed.ofCall panic call reply).reply.withErrno e = (Deed.ofCall panic call reply).reply := by
    cases panic with
    | none => exact hreply
    | some message => rfl
  cases step with
  | openFile form =>
    rw [Step.deed?] at h
    split at h
    · obtain rfl := Option.some.inj h
      rfl
    · obtain rfl := Option.some.inj h
      exact hofCall _ _ rfl
  | read form d count pace =>
    obtain rfl := Option.some.inj h
    exact hofCall _ _ rfl
  | close d =>
    obtain rfl := Option.some.inj h
    exact hofCall _ _ rfl
  | closeByC d =>
    obtain rfl := Option.some.inj h
    exact hofCall _ _ rfl
  | stream reading d paces =>
    obtain rfl := Option.some.inj h
    dsimp only
    cases (reading.passage panic host d paces).ending <;> rfl
  | _ => cases h

/-- **A deed that does not panic is the same without an observer that panics.** -/
theorem Step.deed?_of_calm {step : Step} {panic : Option String} {host : Host} {deed : Deed}
    (h : step.deed? panic host = some deed) (hcalm : deed.reply.isPanic = false) :
    step.deed? none host = some deed := by
  cases panic with
  | none => exact h
  | some message =>
    -- A single call would panic, so the deed is that of a refused path or of a reading.
    cases step with
    | openFile form =>
      rw [Step.deed?] at h ⊢
      cases hpath : form.path with
      | error fault => rwa [hpath] at h
      | ok path =>
        rw [hpath] at h
        obtain rfl := Option.some.inj h
        cases hcalm
    | read form d count pace =>
      obtain rfl := Option.some.inj h
      cases hcalm
    | close d =>
      obtain rfl := Option.some.inj h
      cases hcalm
    | closeByC d =>
      obtain rfl := Option.some.inj h
      cases hcalm
    | stream reading d paces =>
      rw [Step.deed?] at h ⊢
      have hending : (reading.passage (some message) host d paces).ending.isPanic = false := by
        obtain rfl := Option.some.inj h
        exact (ReadingEnd.isPanic_reply _ _).symm.trans hcalm
      -- A reading that did not panic made no call at all, so the observer had no part in it.
      rwa [Reading.passage_of_ending hending]
    | _ => cases h

namespace Session

variable {s p : Session}

/-- The answer to a step shows the errno that the step leaves. -/
theorem errno_answer (s : Session) (step : Step) :
    (s.step step).2.errno = (s.step step).1.world.errno := by
  cases h : step.concernsTracing with
  | true =>
    obtain ⟨errno, reply, entries, hstep⟩ := s.step_of_concernsTracing h
    rw [hstep]
  | false =>
    induction step using Step.by_deed s.tracing.panic s.world.host with
    | deed step deed hdeed =>
      rw [step_of_deed hdeed]
      rfl
    | _ => first | rfl | cases h

/-! ### Steps -/

/-- A step agrees from `s` and from `p`: it leaves the same host, writes the same to errno, and
gives answers that agree. -/
structure Agree (s p : Session) (step : Step) : Prop where
  host : (p.step step).1.world.host = (s.step step).1.world.host
  writes : p.writes step = s.writes step
  answer : (s.step step).2.Agrees (p.step step).2

/-- Sessions in which a step has the same deed agree on it. -/
theorem agree_of_deed {step : Step} {deed : Deed} (hhost : p.world.host = s.world.host)
    (hs : step.deed? s.tracing.panic s.world.host = some deed)
    (hp : step.deed? p.tracing.panic p.world.host = some deed) : Agree s p step where
  host := by
    rw [step_of_deed hs, step_of_deed hp]
    calc (p.world.afterAll deed.calls).host
        = (deed.calls.getLast?.map SystemCall.host).getD p.world.host := World.host_afterAll _ _
      _ = (deed.calls.getLast?.map SystemCall.host).getD s.world.host := by rw [hhost]
      _ = (s.world.afterAll deed.calls).host := (World.host_afterAll _ _).symm
  writes := by rw [writes_of_deed hs, writes_of_deed hp]
  answer := by
    rw [step_of_deed hs, step_of_deed hp]
    exact (Reply.withErrno_of_deed hs _).symm

/-- Sessions with the same settings agree on a step that concerns tracing: what it does depends on
the settings and on nothing else. -/
theorem agree_of_concernsTracing {step : Step} (h : step.concernsTracing = true)
    (hhost : p.world.host = s.world.host) (htracing : p.tracing = s.tracing) : Agree s p step where
  host := by rw [host_step_of_concernsTracing h, host_step_of_concernsTracing h, hhost]
  writes := by
    cases step with
    | setHook hook => rw [writes_setHook, writes_setHook]
    -- The logger may write with the record, unless the old observer panics as it is dropped.
    | installCallback errno =>
      rw [writes, writes, step_installCallback, step_installCallback, htracing]
      cases s.tracing.slot.dropPanic <;> rfl
    | removeCallback =>
      rw [writes, writes, step_removeCallback, step_removeCallback, htracing]
      cases s.tracing.slot.dropPanic <;> rfl
    | hasObserver => rfl
    | setLog log => rfl
    | _ => cases h
  answer := by
    cases step with
    | setHook hook =>
      rw [step_setHook, step_setHook, htracing]
      unfold Answer.Agrees
      cases s.tracing.slot.dropPanic <;> rfl
    | installCallback errno =>
      rw [step_installCallback, step_installCallback, htracing]
      cases s.tracing.slot.dropPanic <;> rfl
    | removeCallback =>
      rw [step_removeCallback, step_removeCallback, htracing]
      cases s.tracing.slot.dropPanic <;> rfl
    | hasObserver =>
      show Reply.hasObserver p.tracing.hasObserver = Reply.hasObserver s.tracing.hasObserver
      rw [htracing]
    | setLog log => rfl
    | _ => cases h

/-- **Sessions on one host agree on a step** that has the same deeds in them and, if it concerns
tracing, finds the same settings. -/
theorem agree (step : Step) (hhost : p.world.host = s.world.host)
    (hdeed : step.deed? p.tracing.panic p.world.host = step.deed? s.tracing.panic s.world.host)
    (htracing : step.concernsTracing = true → p.tracing = s.tracing) : Agree s p step := by
  cases h : step.concernsTracing with
  | true => exact agree_of_concernsTracing h hhost (htracing h)
  | false =>
    induction step using Step.by_deed s.tracing.panic s.world.host with
    | deed step deed hs => exact agree_of_deed hhost hs (hdeed.trans hs)
    -- A check that fails shows the errno of its own session.
    | check d =>
      refine ⟨hhost, rfl, ?_⟩
      show Reply.descriptor (d.check p.world.errno)
        = (Reply.descriptor (d.check s.world.errno)).withErrno p.world.errno
      unfold Descriptor.check
      split <;> rfl
    | checkResult result =>
      refine ⟨hhost, rfl, ?_⟩
      cases result <;> rfl
    | last => exact ⟨hhost, rfl, rfl⟩
    | restore e => exact ⟨hhost, rfl, rfl⟩
    | change c => exact ⟨congrArg (·.apply c) hhost, rfl, rfl⟩
    | _ => cases h

/-! ### Runs -/

/-- **Sessions that differ in errno alone agree on every run.** They have the same host and the same
settings at its end, and the same was written to errno. -/
theorem agree_run (steps : List Step) (hhost : p.world.host = s.world.host)
    (htracing : p.tracing = s.tracing) :
    (p.run steps).1.world.host = (s.run steps).1.world.host ∧
    (p.run steps).1.tracing = (s.run steps).1.tracing ∧
    p.history steps = s.history steps ∧
    List.Forall₂ Answer.Agrees (s.run steps).2 (p.run steps).2 := by
  induction steps generalizing s p with
  | nil => exact ⟨hhost, htracing, rfl, .nil⟩
  | cons step steps ih =>
    have hstep : Agree s p step := agree step hhost (by rw [hhost, htracing]) fun _ => htracing
    have hsettings : (p.step step).1.tracing = (s.step step).1.tracing := by
      rw [tracing_step, tracing_step, htracing]
    -- The sessions after the step differ in errno alone again.
    obtain ⟨hfinal, hsettled, hwritten, hanswers⟩ := ih hstep.host hsettings
    refine ⟨hfinal, hsettled, ?_, .cons hstep.answer hanswers⟩
    rw [history, history, hstep.writes, hwritten]

end Session

end TracedPipe
