import TracedPipe.Proofs.Host.Faults
import TracedPipe.Proofs.Session.Forms
import TracedPipe.Proofs.Session.Register
import TracedPipe.Proofs.Session.Trail
import TracedPipe.Proofs.Tracing.Channels

/-!
# Failing calls are atomic

A single call that fails is as if it had not been made, but for errno and the entries of tracing:
the host stays as it was, with all open files, positions, contents and queues, the settings of
tracing stay, and no byte of the caller's memory is written (`Session.Spares`). That the logger, the
observer and a hook's own call ran on the way makes no difference, nor does a panic.

* `Step.FailsBy` lists the reasons, and `Session.failsBy_of_failure` says that it has them all.
* `Session.GoesOnAlike` says what comes after: two sessions that differ in errno alone go on alike,
  and they are the same session as soon as anything is written to errno.

Main statement: `Session.failing_calls_atomic`.
-/

namespace TracedPipe

/-! ### Single calls that fail -/

/-- The number of bytes that a reading asks for that is a single read. -/
def Reading.size? : Reading → Option Nat
  | .once size => some size
  | .limited limit size => if limit = 0 then none else some (min limit size)
  | .scattered sizes => some ((sizes.find? (· ≠ 0)).getD 0)
  | _ => none

/-- The request of a step that is a single read. -/
def Step.request? : Step → Option Request
  | .read form d count pace => some ⟨d, count, form.destination, pace⟩
  | .stream reading d paces =>
    reading.size?.map fun size => ⟨d, size, .memory, paces.headD .full⟩
  | _ => none

/-- Whether a step makes one call at most. The other readings call until they have what they
want. -/
def Step.isSingle : Step → Bool
  | .stream (.exactly _) _ _ => false
  | .stream (.singly _) _ _ => false
  | .stream (.toEnd _) _ _ => false
  | .stream (.textToEnd _) _ _ => false
  | _ => true

/-- **Why a single call fails,** and the code that the system gives for it, if it is asked at
all. -/
inductive Step.FailsBy (host : Host) : Step → Option Errno → Prop where
  /-- A byte string with a NUL is no path. -/
  | refused {given : Bytes} (hnul : nul ∈ given) : FailsBy host (.openFile (.bytes given)) none
  /-- The system does not open the path. -/
  | opening {form : OpenForm} {path : Option Pathname} {e : Errno} (hpath : form.path = .ok path)
      (hfault : host.OpenFault path e) : FailsBy host (.openFile form) (some e)
  /-- The system does not serve the read. -/
  | reading {step : Step} {r : Request} {e : Errno} (hrequest : step.request? = some r)
      (hfault : host.ReadFault r e) : FailsBy host step (some e)
  /-- The descriptor is not open. -/
  | closing {step : Step} {d : Descriptor} (hcloses : step.closes? = some d)
      (hfile : host.table.lookup d = none) : FailsBy host step (some .badDescriptor)

/-- Whether the reply to a call says that it failed. -/
def Reply.isFailure : Reply → Bool
  | .opened d => d.number < 0
  | .refused _ => true
  | .read n _ => n < 0
  | .closed n => n < 0
  | .stream (.error _) _ => true
  | _ => false

/-! ### The deeds of single calls -/

namespace Step

variable {host : Host} {step : Step}

/-- **A step is one call** whose failure shows in the reply. -/
structure IsCall (host : Host) (step : Step) (call : SystemCall) (reply : Reply) : Prop where
  deed : ∀ panic, step.deed? panic host = some (.ofCall panic call reply)
  calm : reply.isPanic = false
  failure : reply.isFailure = true ↔ call.fault ≠ none

theorem isCall_openFile {form : OpenForm} {path : Option Pathname} (hpath : form.path = .ok path) :
    IsCall host (.openFile form) (host.opening path) (.opened ⟨(host.opening path).result⟩) where
  deed panic := Step.deed_of_path hpath panic host
  calm := rfl
  failure := by
    rw [Reply.isFailure, decide_eq_true_iff]
    exact Host.result_opening_neg_iff

theorem isCall_of_closes {d : Descriptor} (h : step.closes? = some d) :
    IsCall host step (host.closing d) (.closed (host.closing d).result) where
  deed panic := Step.deed_of_closes h panic host
  calm := rfl
  failure := by
    rw [Reply.isFailure, decide_eq_true_iff]
    exact Host.result_closing_neg_iff

/-- A single read of a stream, as a deed. -/
theorem isCall_single {reading : Reading} {d : Descriptor} {paces : List Pace} {call : SystemCall}
    {buffer : Bytes}
    (hpassage : ∀ panic, reading.passage panic host d paces = .single panic call buffer) :
    ∃ reply, IsCall host (.stream reading d paces) call reply := by
  -- A panic takes the place of the reply and leaves the call; without one, the reply says how the
  -- call ended.
  have hdeed (reply : Reply)
      (hreply : (Passage.single none call buffer).ending.reply
        (Passage.single none call buffer).data = reply) (panic : Option String) :
      (Step.stream reading d paces).deed? panic host = some (.ofCall panic call reply) := by
    rw [Step.deed?, hpassage, ← hreply]
    unfold Passage.single Deed.ofCall
    cases panic with
    | some message => rfl
    | none => cases call.fault <;> rfl
  -- The reading fails with the code of its call, and only then.
  cases hfault : call.fault with
  | none =>
    refine ⟨.stream (.ok call.data.length) (Buffer.store call.data buffer), hdeed _ ?_, rfl, ?_⟩
    · rw [Passage.single, hfault]
      rfl
    · simp [Reply.isFailure, hfault]
  | some e =>
    refine ⟨.stream (.error (.system e)) buffer, hdeed _ ?_, rfl, ?_⟩
    · rw [Passage.single, hfault]
      rfl
    · simp [Reply.isFailure, hfault]

theorem isCall_of_request (host : Host) {r : Request} (h : step.request? = some r) :
    ∃ reply, IsCall host step (host.serving r) reply := by
  cases step with
  -- Narrowing keeps the sign of the result, so a failure shows in every form.
  | read form d count pace =>
    obtain rfl := Option.some.inj h
    refine ⟨_, fun panic => rfl, rfl, ?_⟩
    rw [form.returned_reading, Session.readReply, Reply.isFailure, decide_eq_true_iff]
    exact Host.result_reading_neg_iff
  | stream reading d paces =>
    cases reading with
    | once size =>
      obtain rfl := Option.some.inj h
      exact isCall_single fun panic => rfl
    | scattered sizes =>
      obtain rfl := Option.some.inj h
      exact isCall_single fun panic => rfl
    | limited limit size =>
      -- At its limit the reading makes no request, so here it is not.
      have hlimit : limit ≠ 0 := by
        rintro rfl
        cases h
      rw [Step.request?, Reading.size?, if_neg hlimit] at h
      obtain rfl := Option.some.inj h
      have hpassage (panic : Option String) :
          (Reading.limited limit size).passage panic host d paces
          = .single panic (host.reading d (min limit size) .memory (paces.headD .full))
            (Buffer.ofSize size) := if_neg hlimit
      exact isCall_single hpassage
    | _ => cases h
  | _ => cases h

end Step

namespace Step

variable {host : Host} {step : Step}

/-- **Every reason is a failing call,** or a path that is refused before any. -/
theorem FailsBy.cases_call {cause : Option Errno} (h : step.FailsBy host cause) :
    (∃ fault, cause = none ∧ ∀ panic, step.deed? panic host = some ⟨[], .refused fault⟩) ∨
    ∃ e call reply, cause = some e ∧ step.IsCall host call reply ∧ call.fault = some e ∧
      host.Spares call := by
  -- The reasons are those for which the host refuses the call, and such a call leaves the host as
  -- it is.
  cases h with
  | @refused given hnul =>
    refine .inl ⟨.nulAt (given.idxOf nul), rfl, fun panic => ?_⟩
    rw [Step.deed?, OpenForm.path, Pathname.ofBytes, dif_pos hnul]
    rfl
  | opening hpath hfault =>
    have hcall := Host.fault_opening_iff.mpr hfault
    exact .inr ⟨_, _, _, rfl, isCall_openFile hpath, hcall, Host.spares_opening hcall⟩
  | reading hrequest hfault =>
    have hcall := Host.fault_reading_iff.mpr hfault
    obtain ⟨reply, hreply⟩ := isCall_of_request host hrequest
    exact .inr ⟨_, _, reply, rfl, hreply, hcall, Host.spares_serving hcall⟩
  | closing hcloses hfile =>
    have hcall := Host.fault_closing_iff.mpr ⟨hfile, rfl⟩
    exact .inr ⟨_, _, _, rfl, isCall_of_closes hcloses, hcall, Host.spares_closing hcall⟩

/-- A path is refused only if it is a byte string with a NUL. -/
theorem failsBy_of_path {form : OpenForm} {fault : PathFault} (h : form.path = .error fault) :
    (Step.openFile form).FailsBy host none := by
  cases form with
  | bytes given =>
    rw [OpenForm.path, Pathname.ofBytes] at h
    split at h
    · next hnul => exact .refused hnul
    · cases h
  | _ => cases h

end Step

/-! ### What a failing call leaves as it was -/

/-- Answers that are the same but for errno, where they show it. -/
structure Answer.SameButErrno (a b : Answer) : Prop where
  reply : a.Agrees b
  entries : b.entries.map Entry.blind = a.entries.map Entry.blind

namespace Session

variable {s t : Session} {step : Step} {cause : Option Errno}

/-- **A step spares the session and the memory of the caller:** it changes nothing but errno, which
takes the code of the cause, if there is one, and no panic. -/
structure Spares (s : Session) (step : Step) (cause : Option Errno) : Prop where
  host : (s.step step).1.world.host = s.world.host
  tracing : (s.step step).1.tracing = s.tracing
  errno : (s.step step).1.world.errno
    = if (s.step step).2.reply.isPanic then s.world.errno else cause.getD s.world.errno
  buffer : ∀ call ∈ s.calls step, ∀ buffer, Buffer.store call.data buffer = buffer
  reply : (s.step step).2.reply.isFailure = true ∨ (s.step step).2.reply.isPanic = true

/-- A refused path spares the session: nothing is called, and nobody is told. -/
theorem spares_of_refused {fault : PathFault}
    (hdeed : step.deed? s.tracing.panic s.world.host = some ⟨[], .refused fault⟩) :
    s.Spares step none := by
  have hstep := step_of_deed hdeed
  obtain ⟨hcalls, hhost⟩ := s.calls_of_deed step hdeed
  refine ⟨hhost, ?_, ?_, ?_, ?_⟩
  · rw [hstep]
    rfl
  · rw [hstep]
    rfl
  · rw [hcalls]
    exact fun call hmem => absurd hmem List.not_mem_nil
  · rw [hstep]
    exact .inl rfl

/-- A failing call that spares the host spares the session. What its announcement does stays within
errno, even if the observer panics. -/
theorem spares_of_isCall {e : Errno} {call : SystemCall} {reply : Reply}
    (hcall : step.IsCall s.world.host call reply) (hfault : call.fault = some e)
    (hspares : s.world.host.Spares call) : s.Spares step (some e) := by
  have hdeed := hcall.deed s.tracing.panic
  have hstep := step_of_deed hdeed
  obtain ⟨hcalls, hhost⟩ := s.calls_of_deed step hdeed
  refine ⟨hhost.trans hspares.host, ?_, ?_, ?_, ?_⟩
  · -- The settings are no part of what a call can change.
    rw [hstep]
    rfl
  · rw [hstep]
    show (if _ then s.world.errno else (s.world.afterAll [call]).errno) = _
    have herrno : (s.world.afterAll [call]).errno = (some e).getD s.world.errno := by
      rw [World.afterAll_cons, World.afterAll, List.foldl_nil, World.errno_after, hfault]
    rw [herrno]
    rfl
  · -- It wrote no bytes, so any buffer is as it was.
    rw [hcalls]
    intro made hmem buffer
    obtain rfl := List.mem_singleton.mp hmem
    rw [hspares.data]
    rfl
  · -- The reply shows the failure, unless the observer's panic takes its place.
    have hfailure : reply.isFailure = true := hcall.failure.mpr (by rw [hfault]; rintro ⟨⟩)
    rw [hstep]
    show (Deed.ofCall s.tracing.panic call reply).reply.isFailure = true ∨
      (Deed.ofCall s.tracing.panic call reply).reply.isPanic = true
    unfold Deed.ofCall
    cases s.tracing.panic with
    | none => exact .inl hfailure
    | some message => exact .inr rfl

/-- **A failing call spares the session,** whatever the reason. -/
theorem spares_of_failsBy (h : step.FailsBy s.world.host cause) : s.Spares step cause := by
  rcases h.cases_call with ⟨fault, rfl, hdeed⟩ | ⟨e, call, reply, rfl, hcall, hfault, hspares⟩
  · exact spares_of_refused (hdeed s.tracing.panic)
  · exact spares_of_isCall hcall hfault hspares

/-- A step that is one call has failed, by its reply or by its system call, only if this call
failed. -/
theorem fault_of_failure {call : SystemCall} {reply : Reply}
    (hcall : step.IsCall s.world.host call reply)
    (h : (s.step step).2.reply.isFailure = true ∨ ∃ made ∈ s.calls step, made.fault ≠ none) :
    ∃ e, call.fault = some e := by
  rw [← Option.ne_none_iff_exists']
  rcases h with h | ⟨made, hmem, hmade⟩
  · rw [step_of_deed (hcall.deed s.tracing.panic)] at h
    change (Deed.ofCall s.tracing.panic call reply).reply.isFailure = true at h
    unfold Deed.ofCall at h
    cases hpanic : s.tracing.panic with
    | some message =>
      -- The reply of a step that panics says nothing of its call.
      rw [hpanic] at h
      cases h
    | none =>
      rw [hpanic] at h
      exact hcall.failure.mp h
  · rw [(s.calls_of_deed step (hcall.deed s.tracing.panic)).1] at hmem
    obtain rfl := List.mem_singleton.mp hmem
    exact hmade

/-- A step that concerns tracing does not fail, though it may panic. -/
theorem isFailure_of_concernsTracing (s : Session) (h : step.concernsTracing = true) :
    (s.step step).2.reply.isFailure = false := by
  cases step with
  | setHook hook =>
    rw [step_setHook]
    cases s.tracing.slot.dropPanic <;> rfl
  | installCallback errno =>
    rw [step_installCallback]
    cases s.tracing.slot.dropPanic <;> rfl
  | removeCallback =>
    rw [step_removeCallback]
    cases s.tracing.slot.dropPanic <;> rfl
  | hasObserver => rfl
  | setLog log => rfl
  | _ => cases h

/-- **There is no other reason:** a single call that says that it failed, or whose system call
failed, has failed for one of the reasons. -/
theorem failsBy_of_failure (hsingle : step.isSingle = true)
    (h : (s.step step).2.reply.isFailure = true ∨ ∃ call ∈ s.calls step, call.fault ≠ none) :
    ∃ cause, step.FailsBy s.world.host cause := by
  -- A failing call has a reason, because the faults of the host are known in full. So it is enough
  -- to find the call of each step.
  have hread {r : Request} (hrequest : step.request? = some r) :
      ∃ cause, step.FailsBy s.world.host cause := by
    obtain ⟨reply, hcall⟩ := Step.isCall_of_request s.world.host hrequest
    obtain ⟨e, he⟩ := fault_of_failure hcall h
    exact ⟨some e, .reading hrequest (Host.fault_reading_iff.mp he)⟩
  have hclose {d : Descriptor} (hcloses : step.closes? = some d) :
      ∃ cause, step.FailsBy s.world.host cause := by
    obtain ⟨e, he⟩ := fault_of_failure (Step.isCall_of_closes hcloses) h
    exact ⟨some .badDescriptor, .closing hcloses (Host.fault_closing_iff.mp he).1⟩
  -- What makes no call and gives no failing reply does not fail at all.
  have hquiet (hcalls : s.calls step = []) (hreply : (s.step step).2.reply.isFailure = false) :
      ∃ cause, step.FailsBy s.world.host cause := by
    rcases h with h | ⟨call, hmem, -⟩
    · exact absurd (hreply.symm.trans h) Bool.false_ne_true
    · rw [hcalls] at hmem
      exact absurd hmem List.not_mem_nil
  cases step with
  | openFile form =>
    cases hpath : form.path with
    | error fault => exact ⟨none, Step.failsBy_of_path hpath⟩
    | ok path =>
      obtain ⟨e, he⟩ := fault_of_failure (Step.isCall_openFile hpath) h
      exact ⟨some e, .opening hpath (Host.fault_opening_iff.mp he)⟩
  | read form d count pace => exact hread rfl
  | close d => exact hclose rfl
  | closeByC d => exact hclose rfl
  | stream reading d paces =>
    cases reading with
    | once size => exact hread rfl
    | scattered sizes => exact hread rfl
    | limited limit size =>
      by_cases hlimit : limit = 0
      · subst hlimit
        exact hquiet rfl rfl
      · exact hread (r := ⟨d, min limit size, .memory, paces.headD .full⟩)
          (congrArg (Option.map _) (if_neg hlimit))
    -- A gathering is not one call.
    | _ => cases hsingle
  | setHook hook => exact hquiet rfl (s.isFailure_of_concernsTracing rfl)
  | installCallback errno => exact hquiet rfl (s.isFailure_of_concernsTracing rfl)
  | removeCallback => exact hquiet rfl (s.isFailure_of_concernsTracing rfl)
  | _ => exact hquiet rfl rfl

/-! ### What comes after -/

/-- Sessions that differ in errno alone give the same entries, but for errno. -/
theorem blind_entries_step (hhost : t.world.host = s.world.host) (htracing : t.tracing = s.tracing)
    (step : Step) :
    (t.step step).2.entries.map Entry.blind = (s.step step).2.entries.map Entry.blind := by
  induction step using Step.by_deed s.tracing.panic s.world.host with
  | deed step deed hdeed =>
    have hother : step.deed? t.tracing.panic t.world.host = some deed := by
      rw [hhost, htracing]
      exact hdeed
    rw [step_of_deed hdeed, step_of_deed hother, settle, settle, htracing]
    dsimp only
    -- The same calls are told of in the same way; only what is found in errno may differ.
    cases step.showsEntries with
    | true => exact s.tracing.blind_entriesOf t.world s.world deed.calls
    | false => rfl
  | setHook hook => rw [step_setHook, step_setHook]
  | installCallback errno =>
    rw [step_installCallback, step_installCallback, htracing]
    cases s.tracing.slot.dropPanic <;> rfl
  | removeCallback =>
    rw [step_removeCallback, step_removeCallback, htracing]
    cases s.tracing.slot.dropPanic <;> rfl
  | _ => rfl

/-- **Two sessions go on alike:** the same steps lead to the same host and settings, the same is
written to errno, and the answers are the same but for errno. As soon as anything was written to
errno, the two are the same session. -/
structure GoesOnAlike (s t : Session) (later : List Step) : Prop where
  host : (t.run later).1.world.host = (s.run later).1.world.host
  tracing : (t.run later).1.tracing = (s.run later).1.tracing
  history : t.history later = s.history later
  answers : List.Forall₂ Answer.SameButErrno (s.run later).2 (t.run later).2
  session : s.history later ≠ [] → (t.run later).1 = (s.run later).1

theorem sameButErrno_run (hhost : t.world.host = s.world.host) (htracing : t.tracing = s.tracing)
    (later : List Step) : List.Forall₂ Answer.SameButErrno (s.run later).2 (t.run later).2 := by
  induction later generalizing s t with
  | nil => exact .nil
  | cons step steps ih =>
    have hstep : Agree s t step := agree step hhost (by rw [hhost, htracing]) fun _ => htracing
    have hsettings : (t.step step).1.tracing = (s.step step).1.tracing := by
      rw [tracing_step, tracing_step, htracing]
    exact .cons ⟨hstep.answer, blind_entries_step hhost htracing step⟩ (ih hstep.host hsettings)

/-- **Sessions that differ in errno alone go on alike.** -/
theorem goesOnAlike (hhost : t.world.host = s.world.host) (htracing : t.tracing = s.tracing)
    (later : List Step) : s.GoesOnAlike t later := by
  obtain ⟨hfinal, hsettings, hhistory, -⟩ := agree_run later hhost htracing
  refine ⟨hfinal, hsettings, hhistory, sameButErrno_run hhost htracing later, fun hwritten => ?_⟩
  -- Errno holds what was last written to it, and the same was written in both.
  have herrno : (t.run later).1.world.errno = (s.run later).1.world.errno := by
    obtain ⟨write, hlast⟩ := Option.ne_none_iff_exists'.mp
      (fun hnone => hwritten (List.getLast?_eq_none_iff.mp hnone))
    rw [errno_run, errno_run, hhistory, ErrnoWrite.last, ErrnoWrite.last, hlast]
    rfl
  calc (t.run later).1
      = ⟨⟨(t.run later).1.world.host, (t.run later).1.world.errno⟩, (t.run later).1.tracing⟩ := rfl
    _ = (s.run later).1 := by rw [hfinal, herrno, hsettings]

/-- A read through a buffer that fails leaves the whole buffer as it was, whatever is in it. -/
theorem data_single_of_fault {r : Request} {e : Errno} (h : s.world.host.ReadFault r e)
    (hmemory : r.destination = .memory) (buffer : Bytes) :
    (Reading.single s r.d r.count buffer r.pace).data = buffer := by
  have hfault := Host.fault_reading_iff.mpr h
  rw [Host.serving, hmemory] at hfault
  rw [(Reading.single_follows s r.d r.count buffer r.pace).data]
  unfold Passage.single
  cases s.tracing.panic with
  | some message => rfl
  | none => rw [hfault]

/-- **Failing calls are atomic.** In every session,

* an open, a read, a close or a single read of a stream that fails, in any form and for any reason,
  leaves everything but errno as it was, and what comes after goes on as if the call had not been
  made;
* the buffer of a single read that fails holds what it held before;
* and if a single call says that it failed, or its system call failed, then there was one of these
  reasons. -/
theorem failing_calls_atomic (s : Session) :
    (∀ (step : Step) (cause : Option Errno), step.FailsBy s.world.host cause →
      s.Spares step cause ∧ ∀ later : List Step, s.GoesOnAlike (s.step step).1 later) ∧
    (∀ (r : Request) (e : Errno), s.world.host.ReadFault r e → r.destination = .memory →
      ∀ buffer, (Reading.single s r.d r.count buffer r.pace).data = buffer) ∧
    ∀ step : Step, step.isSingle = true →
      ((s.step step).2.reply.isFailure = true ∨ ∃ call ∈ s.calls step, call.fault ≠ none) →
      ∃ cause, step.FailsBy s.world.host cause := by
  refine ⟨?_, ?_, ?_⟩
  · intro step cause hfails
    -- What is spared is all that later steps look at, apart from errno.
    have hspares := spares_of_failsBy hfails
    exact ⟨hspares, fun later => goesOnAlike hspares.host hspares.tracing later⟩
  · intro r e hfault hmemory buffer
    exact data_single_of_fault hfault hmemory buffer
  · intro step hsingle hfailure
    exact failsBy_of_failure hsingle hfailure

/-- A session with a directory and a FIFO open, three bytes in the FIFO, and a nesting hook and a
logger that write to errno. -/
def cornered : Session :=
  ((prepared [.makeDirectory (ascii "d"), .fifo (ascii "pipe"), .openWriter (ascii "pipe"),
      .write (ascii "pipe") (ascii "abc")]).run
    [.openFile (.bytes (ascii "d")),
      .openFile (.bytes (ascii "pipe")),
      .setLog ⟨.debug, some ⟨71⟩⟩,
      .setHook (some ⟨"hook", some ⟨72⟩, true, none, none⟩)]).1

theorem failing_calls_atomic_cornered :
    (cornered.Spares (.openFile (.bytes [nul])) none ∧
      (cornered.step (.openFile (.bytes [nul]))).1 = cornered) ∧
    (cornered.Spares (.stream (.once 4) ⟨0⟩ []) (some .isDirectory) ∧
      (cornered.step (.stream (.once 4) ⟨0⟩ [])).1 = cornered.withErrno .isDirectory) ∧
    (cornered.Spares (.read (.c .null) ⟨1⟩ 4 .full) (some .badAddress) ∧
      cornered.GoesOnAlike (cornered.step (.read (.c .null) ⟨1⟩ 4 .full)).1
        [.read .buffer ⟨1⟩ 4 .full, .close ⟨7⟩] ∧
      cornered.history [.read .buffer ⟨1⟩ 4 .full, .close ⟨7⟩] = [⟨.call, .badDescriptor⟩]) ∧
    (Reading.single cornered ⟨1⟩ 3 (ascii "xyz") .interrupted).data = ascii "xyz" ∧
    ((cornered.step (.closeByC ⟨2⟩)).2.reply.isFailure = true ∧
      ∃ cause, (Step.closeByC ⟨2⟩).FailsBy cornered.world.host cause) := by
  obtain ⟨hfails, hbuffer, hreasons⟩ := failing_calls_atomic cornered
  have hdirectory : cornered.world.host.table.lookup ⟨0⟩ = some ⟨7, 0⟩ := by decide
  have hpipe : cornered.world.host.table.lookup ⟨1⟩ = some ⟨8, 0⟩ := by decide
  have hnode : cornered.world.host.nodes[8]? = some (.fifo (ascii "abc")) := by decide
  have hread : cornered.world.host.ReadFault ⟨⟨0⟩, 4, .memory, .full⟩ .isDirectory :=
    .directory hdirectory (by decide : _ = some (Node.directory 6 []))
  have hnull : cornered.world.host.ReadFault ⟨⟨1⟩, 4, .null, .full⟩ .badAddress :=
    .nullBuffer hpipe (by decide : _ = some (ascii "abc")) (by decide) (by decide) (by decide) rfl
  have hsignal : cornered.world.host.ReadFault ⟨⟨1⟩, 3, .memory, .interrupted⟩ .interrupted := by
    refine .signal hpipe (fun parent entries hbad => ?_) (by decide) rfl
    cases hnode.symm.trans hbad
  -- One call of each kind, with the reason that it fails for.
  obtain ⟨hrefused, -⟩ := hfails (.openFile (.bytes [nul])) none (.refused (by decide))
  obtain ⟨honce, -⟩ := hfails (.stream (.once 4) ⟨0⟩ []) (some .isDirectory) (.reading rfl hread)
  obtain ⟨hpointer, hlater⟩ :=
    hfails (.read (.c .null) ⟨1⟩ 4 .full) (some .badAddress) (.reading rfl hnull)
  have hclosed : (cornered.step (.closeByC ⟨2⟩)).2.reply.isFailure = true := by decide
  exact ⟨⟨hrefused, by decide⟩, ⟨honce, by decide⟩, ⟨hpointer, hlater _, by decide⟩,
    hbuffer _ _ hsignal rfl _, hclosed, hreasons _ rfl (.inl hclosed)⟩

end Session

end TracedPipe
