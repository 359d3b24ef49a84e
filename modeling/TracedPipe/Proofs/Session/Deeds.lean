import TracedPipe.Proofs.Stream.Course
import TracedPipe.Session.Run

/-!
# What a step does

A step works on the host by its system calls, or on the settings of tracing; either way it makes
entries.

Main statement: `Session.entries_of_step`.
-/

namespace TracedPipe

/-!
## Steps as deeds

A step that opens, reads or closes does one thing, whatever its form: it makes a row of system calls
and replies. This is its *deed* (`Step.deed?`), and the host settles it, together with the panic of
the observer, if it panics. Errno has no part in it, nor has the rest of tracing.

`Session.step_of_deed` says that such a step is its deed, settled: the host is the one the last call
left; errno has taken the codes of the calls that failed, or is what it was before if the step
panicked; the settings of tracing stay; the entries are those of the calls. What is said of steps
that work on the host is read off this one equation.

The other steps make no system call. They leave the host alone, apart from changes from outside.
-/

/-- Whether a step panicked. -/
def Reply.isPanic : Reply → Bool
  | .panicked _ => true
  | _ => false

/-! ### Deeds -/

/-- What a step does through system calls: the calls in their order, and the reply. -/
structure Deed where
  calls : List SystemCall
  reply : Reply
deriving DecidableEq

/-- The deed of one call, where the observer panics with the given message, if it does. -/
def Deed.ofCall (panic : Option String) (call : SystemCall) (reply : Reply) : Deed where
  calls := [call]
  reply := match panic with
    | none => reply
    | some message => .panicked message

/-- What the caller sees of a reply: only the panic, if the observer panics. -/
def Tracing.shown (t : Tracing) (reply : Reply) : Reply :=
  match t.panic with
  | none => reply
  | some message => .panicked message

/-- The path that an open gives to the system, or why it is refused before. -/
def OpenForm.path : OpenForm → Except PathFault (Option Pathname)
  | .pathname given => .ok (some given)
  | .bytes given => (Pathname.ofBytes given).map some
  | .pointer given => .ok (given.map Pathname.upToTerminator)
  | .c given => .ok (given.map Pathname.upToTerminator)

/-- The result of a read as its form returns it. -/
def ReadForm.returned : ReadForm → Int → Int
  | .c _, result => narrow result
  | _, result => result

/-- The reply of a reading. -/
def ReadingEnd.reply (data : Bytes) : ReadingEnd → Reply
  | .done outcome => .stream outcome data
  | .panicked message => .panicked message
  | .never => .endless

/-- A reading that panics replies with the panic, and no other does. -/
theorem ReadingEnd.isPanic_reply (data : Bytes) (ending : ReadingEnd) :
    (ending.reply data).isPanic = ending.isPanic := by
  cases ending <;> rfl

/-- **The deed of a step** that opens, reads or closes, where the observer panics with the given
message, if it does. -/
def Step.deed? (panic : Option String) (host : Host) : Step → Option Deed
  | .openFile form =>
    match form.path with
    | .error fault => some ⟨[], .refused fault⟩
    | .ok path =>
      let call := host.opening path
      some (.ofCall panic call (.opened ⟨call.result⟩))
  | .read form d count pace =>
    let call := host.reading d count form.destination pace
    some (.ofCall panic call
      (Session.readReply form count ⟨form.returned call.result, call.data⟩))
  | .close d => some (.ofCall panic (host.closing d) (.closed (host.closing d).result))
  | .closeByC d => some (.ofCall panic (host.closing d) (.closed (host.closing d).result))
  | .stream reading d paces =>
    let p := reading.passage panic host d paces
    some ⟨p.calls, p.ending.reply p.data⟩
  | _ => none

/-- The deed of an open, unless it is refused. -/
theorem Step.deed_of_path {form : OpenForm} {path : Option Pathname} (h : form.path = .ok path)
    (panic : Option String) (host : Host) :
    (Step.openFile form).deed? panic host
      = some (.ofCall panic (host.opening path) (.opened ⟨(host.opening path).result⟩)) := by
  rw [Step.deed?, h]

/-- A refused open makes no call. -/
theorem Step.deed_of_refused {form : OpenForm} {fault : PathFault} (h : form.path = .error fault)
    (panic : Option String) (host : Host) :
    (Step.openFile form).deed? panic host = some ⟨[], .refused fault⟩ := by
  rw [Step.deed?, h]

/-- A step has a deed, or it makes no system call. -/
@[elab_as_elim]
theorem Step.by_deed {motive : Step → Prop} (panic : Option String) (host : Host)
    (deed : ∀ step deed, step.deed? panic host = some deed → motive step)
    (check : ∀ d, motive (.check d)) (checkResult : ∀ result, motive (.checkResult result))
    (last : motive .last) (restore : ∀ e, motive (.restore e))
    (setHook : ∀ hook, motive (.setHook hook))
    (installCallback : ∀ errno, motive (.installCallback errno))
    (removeCallback : motive .removeCallback) (hasObserver : motive .hasObserver)
    (setLog : ∀ log, motive (.setLog log)) (change : ∀ c, motive (.change c)) (step : Step) :
    motive step := by
  -- The case split is made here once: in what follows, a step has a deed or is one of the ten
  -- others.
  cases step with
  -- A refused path is a deed too, of no calls.
  | openFile form =>
    cases hpath : form.path with
    | error fault => exact deed _ _ (deed_of_refused hpath panic host)
    | ok path => exact deed _ _ (deed_of_path hpath panic host)
  | read form d count pace => exact deed _ _ rfl
  | close d => exact deed _ _ rfl
  | closeByC d => exact deed _ _ rfl
  | stream reading d paces => exact deed _ _ rfl
  | check d => exact check d
  | checkResult result => exact checkResult result
  | last => exact last
  | restore e => exact restore e
  | setHook hook => exact setHook hook
  | installCallback errno => exact installCallback errno
  | removeCallback => exact removeCallback
  | hasObserver => exact hasObserver
  | setLog log => exact setLog log
  | change c => exact change c

/-- Whether the entries of a step are shown. -/
def Step.showsEntries : Step → Bool
  | .stream reading _ _ => reading.showsEntries
  | _ => true

/-! ### Outcomes with another value -/

theorem Outcome.map_map {α β γ : Type} (f : α → β) (g : β → γ) (o : Outcome α) :
    (o.map f).map g = o.map (g ∘ f) := by
  unfold Outcome.map
  cases o.ending <;> rfl

theorem Outcome.map_id {α : Type} (o : Outcome α) : o.map id = o := by
  unfold Outcome.map
  cases h : o.ending <;> rw [Ending.map] <;> simp [← h]

namespace Session

variable {α : Type} {s : Session}

theorem map_ending {β : Type} (s : Session) (f : α → β) (value : α) :
    (s.ending value).map f = s.ending (f value) := by
  unfold ending
  cases s.tracing.panic <;> rfl

/-- **A deed settled:** the session after it and the answer, whose entries may be left out. -/
def settle (s : Session) (shown : Bool) (deed : Deed) : Session × Answer :=
  let after := s.world.afterAll deed.calls
  let errno := if deed.reply.isPanic then s.world.errno else after.errno
  (⟨⟨after.host, errno⟩, s.tracing⟩,
    ⟨deed.reply, errno, if shown then s.tracing.entriesOf s.world deed.calls else []⟩)

/-! ### Steps settle their deeds -/

/-- The session that calls lead to, where a panic puts back errno. -/
theorem LeadsTo.session_eq {calls : List SystemCall} {panicked : Bool} {after : Session}
    {entries : List Entry} (h : s.LeadsTo calls panicked after entries) (errno : Errno) :
    (if panicked then after.withErrno errno else after)
      = ⟨⟨(s.world.afterAll calls).host,
          if panicked then errno else (s.world.afterAll calls).errno⟩, s.tracing⟩ := by
  have htracing := h.tracing
  have hhost := h.host
  have herrno := h.errno
  obtain ⟨⟨host, e⟩, tracing⟩ := after
  cases panicked with
  | true => simp_all [withErrno]
  | false => simp_all

/-- A call that leads from its system call is settled when it is concluded. -/
theorem conclude_eq_settle {o : Outcome α} {call : SystemCall} {value : α}
    (h : s.LeadsTo [call] s.tracing.panic.isSome o.session o.entries)
    (hending : o.ending = s.ending value) (reply : α → Reply)
    (hreply : (reply value).isPanic = false) :
    conclude s.world.errno (fun _ => reply) o
      = s.settle true (.ofCall s.tracing.panic call (reply value)) := by
  have hsession := h.session_eq s.world.errno
  have hentries := h.entries
  unfold conclude settle Deed.ofCall answer
  rw [hending, ending]
  cases hpanic : s.tracing.panic with
  | none =>
    rw [hpanic] at hsession
    simp only [Option.isSome_none, Bool.false_eq_true, if_false] at hsession
    simp [hreply, hsession, hentries]
  | some message =>
    rw [hpanic] at hsession
    simp only [Option.isSome_some, if_true] at hsession
    simp [Reply.isPanic, hsession, hentries]

/-- A reading that follows a passage is settled when it is concluded. -/
theorem concludeReading_eq_settle {o : ReadingOutcome} {p : Passage}
    (h : Reading.Follows o s p) (shown : Bool) :
    concludeReading s.world.errno shown o = s.settle shown ⟨p.calls, p.ending.reply p.data⟩ := by
  obtain ⟨hcalls, hdata, hend⟩ := h
  calc concludeReading s.world.errno shown o
      = (if p.ending.isPanic then o.session.withErrno s.world.errno else o.session).answer
          (if shown then o.entries else []) (p.ending.reply o.data) := by
        rw [concludeReading, hend]
        -- Of the three ways to end, only a panic puts errno back.
        cases p.ending <;> rfl
    _ = s.settle shown ⟨p.calls, p.ending.reply p.data⟩ := by
        rw [hcalls.session_eq, hcalls.entries, hdata, settle, ReadingEnd.isPanic_reply]
        rfl

/-- An open in one of its forms is an open through a pointer, unless it is refused. -/
theorem openIn_eq (s : Session) (form : OpenForm) :
    s.openIn form = form.path.map fun path =>
      s.finish (s.world.after (s.world.host.opening path)) (s.world.host.opening path).event
        ⟨(s.world.host.opening path).result⟩ := by
  -- A pathname is handed over as the pointer to its bytes with a NUL behind them, and what is read
  -- up to that NUL is the pathname.
  have hpathname (path : Pathname) : s.openPathname path
      = s.finish (s.world.after (s.world.host.opening (some path)))
        (s.world.host.opening (some path)).event ⟨(s.world.host.opening (some path)).result⟩ := by
    rw [openPathname, openPointer_eq, Option.map_some, Pathname.upToTerminator_terminated]
  cases form with
  | pathname given =>
    rw [openIn, hpathname]
    rfl
  | bytes given =>
    rw [openIn, openBytes, OpenForm.path]
    cases Pathname.ofBytes given with
    | error fault => rfl
    | ok path => exact congrArg Except.ok (hpathname path)
  | pointer given =>
    rw [openIn, openPointer_eq]
    rfl
  -- What the interface for C returns is the number of the descriptor, so nothing is lost.
  | c given =>
    rw [openIn, CInterface.openFile, openPointer_eq, Outcome.map_map]
    exact congrArg Except.ok (Outcome.map_id _)

/-- A read in one of its forms is a read through a pointer, with the result that the form shows. -/
theorem readIn_eq (s : Session) (d : Descriptor) (count : Nat) (pace : Pace) (form : ReadForm) :
    let call := s.world.host.reading d count form.destination pace
    s.readIn d count pace form
      = (s.finish (s.world.after call) call.event ⟨call.result, call.data⟩).map
          fun r : ReadResult => ⟨form.returned r.result, r.data⟩ := by
  cases form with
  | buffer =>
    rw [readIn, read, readPointer_eq]
    exact (Outcome.map_id _).symm
  | pointer destination =>
    rw [readIn, readPointer_eq]
    exact (Outcome.map_id _).symm
  | c destination =>
    rw [readIn, CInterface.read, readPointer_eq]
    rfl

/-- **A step that opens, reads or closes is its deed, settled.** -/
theorem step_of_deed {step : Step} {deed : Deed}
    (h : step.deed? s.tracing.panic s.world.host = some deed) :
    s.step step = s.settle step.showsEntries deed := by
  -- Every form of a call comes down to the form with a pointer, whose call, entries and ending are
  -- known; what is left is how the value is shown in the reply.
  cases step with
  | openFile form =>
    rw [Step.deed?] at h
    rw [Session.step, openIn_eq]
    cases hpath : form.path with
    | error fault =>
      -- Nothing was called, so there is nothing to settle.
      rw [hpath] at h
      obtain rfl := Option.some.inj h
      rfl
    | ok path =>
      rw [hpath] at h
      obtain rfl := Option.some.inj h
      obtain ⟨hcalls, hending⟩ := s.finish_leadsTo (s.world.host.opening path)
        (⟨(s.world.host.opening path).result⟩ : Descriptor)
      exact conclude_eq_settle hcalls hending .opened rfl
  | read form d count pace =>
    obtain rfl := Option.some.inj h
    obtain ⟨hcalls, hending⟩ := s.finish_leadsTo
      (s.world.host.reading d count form.destination pace)
      (⟨(s.world.host.reading d count form.destination pace).result,
        (s.world.host.reading d count form.destination pace).data⟩ : ReadResult)
    -- The form changes the value that is returned, and nothing else.
    have hreturned := congrArg
      (Ending.map fun r : ReadResult => (⟨form.returned r.result, r.data⟩ : ReadResult)) hending
    rw [map_ending] at hreturned
    rw [Session.step, readIn_eq]
    refine conclude_eq_settle ?_ hreturned (readReply form count) rfl
    exact hcalls
  | close d =>
    obtain rfl := Option.some.inj h
    obtain ⟨hcalls, hending⟩ := s.finish_leadsTo (s.world.host.closing d)
      (s.world.host.closing d).result
    rw [Session.step, close_eq]
    exact conclude_eq_settle hcalls hending .closed rfl
  | closeByC d =>
    obtain rfl := Option.some.inj h
    obtain ⟨hcalls, hending⟩ := s.finish_leadsTo (s.world.host.closing d)
      (s.world.host.closing d).result
    rw [Session.step, CInterface.close, close_eq]
    exact conclude_eq_settle hcalls hending .closed rfl
  | stream reading d paces =>
    obtain rfl := Option.some.inj h
    exact concludeReading_eq_settle (reading.run_follows s d paces) reading.showsEntries
  | _ => cases h

end Session

/-!
## Steps that set tracing

Installing or removing an observer replaces the content of the slot, whether or not the drop of the
former one panics. That panic ends the step, and decides what else comes of it: the record of a
callback that is installed comes before the drop and is made in any case, the record of one that is
removed comes after the drop and is made only if there is no panic. What the logger leaves in errno
with either record stays there, unless the step panics.

The settings after a step are a matter of the step and the settings before it
(`Session.tracing_step`): neither the world nor a panic has a part in them.
-/

/-- The tracing with another observer. -/
def Tracing.withObserver (t : Tracing) (observer : Option Observer) : Tracing :=
  { t with slot := t.slot.replace observer }

@[simp] theorem Tracing.observer_withObserver (t : Tracing) (observer : Option Observer) :
    (t.withObserver observer).observer = observer :=
  t.slot.observer_replace observer

namespace Session

theorem step_setHook (s : Session) (hook : Option Hook) :
    s.step (.setHook hook)
      = (⟨s.world, s.tracing.withObserver (hook.map .hook)⟩,
          ⟨match s.tracing.slot.dropPanic with
            | none => .set hook.isSome
            | some message => .panicked message, s.world.errno, []⟩) := by
  have hset : (s.tracing.withObserver (hook.map .hook)).hasObserver = hook.isSome := by
    rw [Tracing.hasObserver_eq, Tracing.observer_withObserver, Option.isSome_map]
  rw [step, conclude, setObserver, ← hset]
  cases s.tracing.slot.dropPanic <;> rfl

theorem step_installCallback (s : Session) (errno : Option Errno) :
    s.step (.installCallback errno)
      = match s.tracing.slot.dropPanic with
        | none =>
          (⟨⟨s.world.host, s.tracing.seen s.world.errno⟩,
              s.tracing.withObserver (some (.callback errno))⟩,
            ⟨.set true, s.tracing.seen s.world.errno,
              s.tracing.records (ascii "Trace callback installed")⟩)
        | some message =>
          (⟨s.world, s.tracing.withObserver (some (.callback errno))⟩,
            ⟨.panicked message, s.world.errno,
              s.tracing.records (ascii "Trace callback installed")⟩) := by
  have hset : (s.tracing.withObserver (some (.callback errno))).hasObserver = true := by
    rw [Tracing.hasObserver_eq, Tracing.observer_withObserver, Option.isSome_some]
  rw [step, conclude, CInterface.installCallback, record, Tracing.record_eq, setObserver, ← hset]
  dsimp only
  -- The record is made before the slot is touched. If what was in the slot panics as it is dropped,
  -- the callback is set nonetheless, and errno is put back.
  cases s.tracing.slot.dropPanic with
  | none => rw [List.append_nil]; rfl
  | some message => rw [List.append_nil]; rfl

theorem step_removeCallback (s : Session) :
    s.step .removeCallback
      = match s.tracing.slot.dropPanic with
        | none =>
          (⟨⟨s.world.host, s.tracing.seen s.world.errno⟩, s.tracing.withObserver none⟩,
            ⟨.set false, s.tracing.seen s.world.errno,
              (s.tracing.withObserver none).records (ascii "Trace callback removed")⟩)
        | some message =>
          (⟨s.world, s.tracing.withObserver none⟩, ⟨.panicked message, s.world.errno, []⟩) := by
  have hset : (s.tracing.withObserver none).hasObserver = false := by
    rw [Tracing.hasObserver_eq, Tracing.observer_withObserver, Option.isSome_none]
  rw [step, conclude, CInterface.removeCallback, setObserver, ← hset]
  dsimp only
  -- Here the record comes last, so a panic of what is dropped leaves none.
  cases s.tracing.slot.dropPanic with
  | none =>
    simp only [record, Tracing.record_eq]
    rfl
  | some message => rfl

end Session

/-! ### The settings after a step -/

/-- The settings of tracing after a step. -/
def Step.retrace (t : Tracing) : Step → Tracing
  | .setHook hook => t.withObserver (hook.map .hook)
  | .installCallback errno => t.withObserver (some (.callback errno))
  | .removeCallback => t.withObserver none
  | .setLog log => { t with log }
  | _ => t

/-- Whether a step sets tracing or asks for it. -/
def Step.concernsTracing : Step → Bool
  | .setHook _ => true
  | .installCallback _ => true
  | .removeCallback => true
  | .hasObserver => true
  | .setLog _ => true
  | _ => false

theorem Step.retrace_of_concernsTracing {step : Step} (h : step.concernsTracing = false)
    (t : Tracing) : step.retrace t = t := by
  cases step <;> first | rfl | cases h

namespace Session

/-- **A step that concerns tracing** leaves the host alone, and answers with the errno that it
leaves. -/
theorem step_of_concernsTracing (s : Session) {step : Step} (h : step.concernsTracing = true) :
    ∃ errno reply entries,
      s.step step
        = (⟨⟨s.world.host, errno⟩, step.retrace s.tracing⟩, ⟨reply, errno, entries⟩) := by
  cases step with
  | setHook hook =>
    rw [step_setHook]
    exact ⟨_, _, _, rfl⟩
  | installCallback errno =>
    -- Panic or not, the host stays and the callback is in the slot.
    rw [step_installCallback]
    cases s.tracing.slot.dropPanic <;> exact ⟨_, _, _, rfl⟩
  | removeCallback =>
    rw [step_removeCallback]
    cases s.tracing.slot.dropPanic <;> exact ⟨_, _, _, rfl⟩
  | hasObserver => exact ⟨_, _, _, rfl⟩
  | setLog log => exact ⟨_, _, _, rfl⟩
  | _ => cases h

theorem host_step_of_concernsTracing {s : Session} {step : Step}
    (h : step.concernsTracing = true) : (s.step step).1.world.host = s.world.host := by
  obtain ⟨errno, reply, entries, hstep⟩ := s.step_of_concernsTracing h
  rw [hstep]

/-- **The settings after a step,** whether it panics or not. -/
theorem tracing_step (s : Session) (step : Step) :
    (s.step step).1.tracing = step.retrace s.tracing := by
  cases h : step.concernsTracing with
  | true =>
    obtain ⟨errno, reply, entries, hstep⟩ := s.step_of_concernsTracing h
    rw [hstep]
  | false =>
    rw [Step.retrace_of_concernsTracing h]
    induction step using Step.by_deed s.tracing.panic s.world.host with
    | deed step deed hdeed =>
      rw [step_of_deed hdeed]
      rfl
    | _ => first | rfl | cases h

end Session

/-!
## The entries of a step

Which entries a step makes, in which order, and what they carry. A call in any of its forms
announces one event, which carries the arguments of the caller and the result of the system call,
and makes the entries of that event (`Tracing.entries`); an open that is refused announces none. A
reading makes the entries of its reads, one after another.
-/

namespace Session

theorem entriesOf_single (s : Session) (call : SystemCall) :
    s.tracing.entriesOf s.world [call]
      = s.tracing.entries (call.fault.getD s.world.errno) call.event :=
  List.append_nil _

/-- The entries of a step whose deed is one call. -/
theorem entries_of_ofCall {s : Session} {step : Step} {panic : Option String} {call : SystemCall}
    {reply : Reply} (h : step.deed? s.tracing.panic s.world.host = some (.ofCall panic call reply))
    (hshown : step.showsEntries = true) :
    (s.step step).2.entries
      = s.tracing.entries (call.fault.getD s.world.errno) call.event := by
  rw [step_of_deed h, ← entriesOf_single, settle, hshown]
  rfl

/-- **The entries of a step that opens, reads or closes, from the first to the last.** Each form of
an open, a read and a close announces one event, and `Tracing.entries` lists what comes of it: a
record if the log takes debug records, the observer if there is one, and, of a nesting hook, the one
call that it makes, as far as no panic ends it. What errno is then, apart from the logger, is the
code of the system call if that failed, else what it was before. -/
theorem entries_of_step (s : Session) :
    (∀ form : OpenForm, (s.step (.openFile form)).2.entries =
      match form.path with
      | .error _ => []
      | .ok path =>
        s.tracing.entries ((s.world.host.opening path).fault.getD s.world.errno)
          (.opened path ⟨(s.world.host.opening path).result⟩)) ∧
    (∀ (form : ReadForm) (d : Descriptor) (count : Nat) (pace : Pace),
      (s.step (.read form d count pace)).2.entries
        = s.tracing.entries
            ((s.world.host.reading d count form.destination pace).fault.getD s.world.errno)
            (.read d count (s.world.host.reading d count form.destination pace).result)) ∧
    (∀ d : Descriptor, (s.step (.close d)).2.entries
      = s.tracing.entries ((s.world.host.closing d).fault.getD s.world.errno)
          (.closed d (s.world.host.closing d).result)) ∧
    (∀ d : Descriptor, (s.step (.closeByC d)).2.entries
      = s.tracing.entries ((s.world.host.closing d).fault.getD s.world.errno)
          (.closed d (s.world.host.closing d).result)) ∧
    (∀ (reading : Reading) (d : Descriptor) (paces : List Pace),
      (s.step (.stream reading d paces)).2.entries =
        if reading.showsEntries then
          s.tracing.entriesOf s.world (reading.passage s.tracing.panic s.world.host d paces).calls
        else []) := by
  refine ⟨?_, ?_, ?_, ?_, ?_⟩
  · intro form
    cases hpath : form.path with
    | error fault =>
      -- A path that is refused gets as far as no call.
      rw [step_of_deed (Step.deed_of_refused hpath _ _)]
      rfl
    | ok path =>
      -- In any other form it is one call, and so are a read and a close.
      rw [entries_of_ofCall (Step.deed_of_path hpath _ _) rfl, Host.event_opening]
  · intro form d count pace
    rw [← Host.event_reading]
    exact entries_of_ofCall rfl rfl
  · intro d
    rw [← Host.event_closing]
    exact entries_of_ofCall rfl rfl
  · intro d
    rw [← Host.event_closing]
    exact entries_of_ofCall rfl rfl
  · -- A reading settles all its calls at once.
    intro reading d paces
    rw [step_of_deed rfl]
    rfl

end Session

end TracedPipe
