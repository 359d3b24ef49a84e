import TracedPipe.Proofs.Host.Changes
import TracedPipe.Proofs.Host.OpenFiles
import TracedPipe.Proofs.Session.Provenance

/-!
# The system calls of a run

What a run does to the host, it does through system calls and through changes from outside. A step
makes one call, or a row of reads of one descriptor, or none (`Session.by_calls`); `Session.trail`
is the row of calls of a whole run. What a step does to the host is a matter of the host alone
(`Session.host_step`).

Changes from outside leave the table of open files alone (`Host.table_apply`). So what becomes of a
descriptor in a run is a matter of the calls, and each of the three is known by what it does to the
table.
-/

namespace TracedPipe

/-! ### Readings are rows of reads -/

theorem Gathering.course_reads (plan : Plan) (d : Descriptor) (panic : Option String) (limit : Nat)
    (paces : List Pace) (got : Nat) (host : Host) :
    host.Reads d paces (course plan d panic limit paces got host).calls := by
  -- By induction on the reads that are left; each takes the first pace and leaves the others.
  induction limit generalizing paces got host with
  | zero => exact .nil host
  | succ limit ih =>
    have hpace := Host.Reads.pace_headD paces
    rw [course]
    cases plan got with
    | none => exact .nil host
    | some size =>
      dsimp only
      cases panic with
      | some message => exact .single host d size .memory hpace
      | none =>
        dsimp only
        split
        · -- A read that failed for a signal, and one that brought bytes, are followed by the next.
          split
          · exact .cons hpace (ih _ _ _).of_tail
          · exact .single host d size .memory hpace
        · split
          · exact .single host d size .memory hpace
          · exact .cons hpace (ih _ _ _).of_tail

theorem Passage.single_reads (panic : Option String) (host : Host) (d : Descriptor) (size : Nat)
    (buffer : Bytes) (paces : List Pace) :
    host.Reads d paces
      (single panic (host.reading d size .memory (paces.headD .full)) buffer).calls := by
  have hpace := Host.Reads.pace_headD paces
  unfold single
  cases panic with
  | some message => exact .single host d size .memory hpace
  | none =>
    dsimp only
    split <;> exact .single host d size .memory hpace

/-- **A reading makes reads of its descriptor,** and no other call. -/
theorem Reading.passage_reads (reading : Reading) (panic : Option String) (host : Host)
    (d : Descriptor) (paces : List Pace) :
    host.Reads d paces (reading.passage panic host d paces).calls := by
  cases reading with
  | once size => exact Passage.single_reads panic host d size _ paces
  | exactly size => exact Gathering.course_reads _ _ _ _ _ _ _
  | limited limit size =>
    unfold passage
    dsimp only
    split
    · exact .nil host
    · exact Passage.single_reads panic host d (min limit size) _ paces
  | singly limit => exact Gathering.course_reads _ _ _ _ _ _ _
  | scattered sizes => exact Passage.single_reads panic host d _ _ paces
  | toEnd held => exact Gathering.course_reads _ _ _ _ _ _ _
  | textToEnd held =>
    unfold passage
    dsimp only
    split <;> exact Gathering.course_reads _ _ _ _ _ _ _

/-! ### Steps by their calls -/

/-- The descriptor that a step reads, if it reads one. -/
def Step.reads? : Step → Option Descriptor
  | .read _ d _ _ => some d
  | .stream _ d _ => some d
  | _ => none

/-- The paces that the first reads of a step are served at. -/
def Step.paces : Step → List Pace
  | .read _ _ _ pace => [pace]
  | .stream _ _ paces => paces
  | _ => []

/-- The descriptor that a step closes, if it closes one. -/
def Step.closes? : Step → Option Descriptor
  | .close d => some d
  | .closeByC d => some d
  | _ => none

/-- What a step does to the host if it reads nothing. -/
def Step.act (host : Host) : Step → Host
  | .openFile form =>
    match form.path with
    | .error _ => host
    | .ok path => (host.opening path).host
  | .close d => (host.closing d).host
  | .closeByC d => (host.closing d).host
  | .change c => host.apply c
  | _ => host

/-- A step that closes a descriptor is one call. -/
theorem Step.deed_of_closes {step : Step} {d : Descriptor} (h : step.closes? = some d)
    (panic : Option String) (host : Host) :
    step.deed? panic host
      = some (.ofCall panic (host.closing d) (.closed (host.closing d).result)) := by
  cases step with
  | close given =>
    obtain rfl := Option.some.inj h
    rfl
  | closeByC given =>
    obtain rfl := Option.some.inj h
    rfl
  | _ => cases h

namespace Session

variable {s : Session}

/-- A step that has a deed makes its calls, and leaves the host of the last one. -/
theorem calls_of_deed (s : Session) (step : Step) {deed : Deed}
    (h : step.deed? s.tracing.panic s.world.host = some deed) :
    s.calls step = deed.calls ∧
      (s.step step).1.world.host = s.world.host.afterAll deed.calls := by
  constructor
  · rw [calls, h]
  · rw [step_of_deed h]
    exact s.world.host_afterAll_eq deed.calls

/-- The host, the reply and errno after a step of one call. -/
theorem step_of_call (step : Step) {call : SystemCall} {reply : Reply}
    (hdeed : step.deed? s.tracing.panic s.world.host = some (.ofCall s.tracing.panic call reply))
    (hreply : reply.isPanic = false) :
    s.calls step = [call] ∧ (s.step step).1.world.host = call.host ∧
      (s.step step).2.reply = s.tracing.shown reply ∧
      (s.tracing.panic = none → (s.step step).2.errno = call.fault.getD s.world.errno) := by
  obtain ⟨hcalls, hhost⟩ := s.calls_of_deed _ hdeed
  -- A panic puts back errno, so the code of the call shows in it only if there is none.
  refine ⟨hcalls, hhost, ?_, fun hcalm => ?_⟩
  · rw [step_of_deed hdeed]
    rfl
  · rw [step_of_deed hdeed]
    simp [settle, Deed.ofCall, hcalm, hreply, World.afterAll]

/-- A step that reads a descriptor makes a row of reads. -/
theorem calls_of_reads (s : Session) (step : Step) {d : Descriptor} (h : step.reads? = some d) :
    s.world.host.Reads d step.paces (s.calls step) ∧
      (s.step step).1.world.host = s.world.host.afterAll (s.calls step) := by
  cases step with
  | read form given count pace =>
    obtain rfl := Option.some.inj h
    obtain ⟨hcalls, hhost⟩ := s.calls_of_deed (.read form given count pace) rfl
    rw [hcalls]
    exact ⟨.single _ given count form.destination (.inl (List.mem_singleton_self pace)), hhost⟩
  | stream way given paces =>
    obtain rfl := Option.some.inj h
    obtain ⟨hcalls, hhost⟩ := s.calls_of_deed (.stream way given paces) rfl
    rw [hcalls]
    exact ⟨way.passage_reads s.tracing.panic s.world.host given paces, hhost⟩
  | _ => cases h

/-- **What a step does to the host** if it reads nothing. An observer that panics makes no
difference to it. -/
theorem host_step (s : Session) (step : Step) (h : step.reads? = none) :
    (s.step step).1.world.host = step.act s.world.host := by
  cases step with
  | openFile form =>
    rw [Step.act]
    cases hpath : form.path with
    | error fault =>
      exact (s.calls_of_deed _ (Step.deed_of_refused hpath _ _)).2
    | ok path => exact (s.calls_of_deed _ (Step.deed_of_path hpath _ _)).2
  | close d => exact (s.calls_of_deed (.close d) rfl).2
  | closeByC d => exact (s.calls_of_deed (.closeByC d) rfl).2
  | setHook hook => exact host_step_of_concernsTracing rfl
  | installCallback errno => exact host_step_of_concernsTracing rfl
  | removeCallback => exact host_step_of_concernsTracing rfl
  | read form d count pace => cases h
  | stream way d paces => cases h
  | _ => rfl

/-- **The kinds of steps:** a step opens a path, reads a descriptor, closes one, is a change from
outside, or makes no call and leaves the host alone. -/
@[elab_as_elim]
theorem by_calls {motive : Step → Prop} (s : Session)
    (opening : ∀ step path, s.calls step = [s.world.host.opening path] →
      (s.step step).1.world.host = (s.world.host.opening path).host → motive step)
    (reading : ∀ step d, step.reads? = some d → s.world.host.Reads d step.paces (s.calls step) →
      (s.step step).1.world.host = s.world.host.afterAll (s.calls step) → motive step)
    (closing : ∀ step d, step.closes? = some d → s.calls step = [s.world.host.closing d] →
      (s.step step).1.world.host = (s.world.host.closing d).host → motive step)
    (change : ∀ c, motive (.change c))
    (quiet : ∀ step, s.calls step = [] → (s.step step).1.world.host = s.world.host → motive step)
    (step : Step) : motive step := by
  -- A step that closes is one call, and a step that reads is a row of reads, whatever its form.
  have hclosing (step : Step) (d : Descriptor) (h : step.closes? = some d) : motive step := by
    obtain ⟨hcalls, hhost⟩ := s.calls_of_deed step (Step.deed_of_closes h _ _)
    exact closing step d h hcalls hhost
  have hreading (step : Step) (d : Descriptor) (h : step.reads? = some d) : motive step := by
    obtain ⟨hreads, hhost⟩ := s.calls_of_reads step h
    exact reading step d h hreads hhost
  cases step with
  | openFile form =>
    have hhost := s.host_step (.openFile form) rfl
    rw [Step.act] at hhost
    cases hpath : form.path with
    | error fault =>
      rw [hpath] at hhost
      -- Nothing was asked of the system.
      exact quiet _ (s.calls_of_deed _ (Step.deed_of_refused hpath _ _)).1 hhost
    | ok path =>
      rw [hpath] at hhost
      exact opening _ path (s.calls_of_deed _ (Step.deed_of_path hpath _ _)).1 hhost
  | read form d count pace => exact hreading _ d rfl
  | stream way d paces => exact hreading _ d rfl
  | close d => exact hclosing _ d rfl
  | closeByC d => exact hclosing _ d rfl
  | change c => exact change c
  | _ => exact quiet _ rfl (s.host_step _ rfl)

/-- **The system calls of a run,** in their order. -/
def trail (s : Session) : List Step → List SystemCall
  | [] => []
  | step :: steps => s.calls step ++ (s.step step).1.trail steps

end Session

end TracedPipe
