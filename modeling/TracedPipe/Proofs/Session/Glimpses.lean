import TracedPipe.Proofs.Session.Register

/-!
# What errno is inside a call

Errno is one cell, and five parties write to it while a call is announced: the system call, the
logger, the observer, the call that a nesting hook makes, and the hook once more inside that call.
Two of the parties look at what they find there: the observer when it is told of an event, and a
nesting hook when its own call has returned.

`Tracing.glimpses` says what they find, from the settings of tracing and from the errno `e` that the
system call left:

* the observer finds what the logger leaves with its records, or else `e`;
* inside its own call, which fails with EBADF, a hook finds what the logger leaves, or else EBADF;
* that call returns with EBADF in errno, as its own announcement puts it back;
* and the caller finds `e`.

What the observer itself writes is in none of these (`Session.step_leaving`): each of its writes is
followed by a save and a restore, or by the restore of the announcement that it is part of.

Main statement: `Session.errno_inside_calls`.
-/

namespace TracedPipe

/-- What somebody finds in errno. -/
inductive Glimpse where
  /-- An observer, when it is told of an event. -/
  | told (e : Errno)
  /-- A hook, when the call that it made has returned. -/
  | returned (e : Errno)
deriving DecidableEq

/-- What was found in errno by the one who made an entry; the log does not look. -/
def Entry.glimpse? : Entry → Option Glimpse
  | .record _ _ => none
  | .hook _ e _ => some (.told e)
  | .callback _ e => some (.told e)
  | .nested _ e => some (.returned e)

/-- The same observer, but one that leaves the given value in errno, if any. -/
def Observer.leaving (errno : Option Errno) : Observer → Observer
  | .hook h => .hook { h with errno }
  | .callback _ => .callback errno

namespace Tracing

/-! ### The glimpses of one call -/

/-- **What is found in errno inside a call** whose system call left `e` there: first by the
observer; then, if that is a nesting hook, by the hook inside its own call, and at last by the hook
when that call has returned, unless it panicked. -/
def glimpses (t : Tracing) (e : Errno) : List Glimpse :=
  match t.observer with
  | none => []
  | some (.callback _) => [.told (t.seen e)]
  | some (.hook hook) =>
    .told (t.seen e) ::
      if hook.nested then
        .told (t.seen .badDescriptor) ::
          match hook.panic with
          | none => [.returned .badDescriptor]
          | some _ => []
      else []

/-- What is found in errno inside a row of calls, the first of which is made in the world `w`. -/
def glimpsesOf (t : Tracing) (w : World) : List SystemCall → List Glimpse
  | [] => []
  | call :: calls => t.glimpses (w.after call).errno ++ t.glimpsesOf (w.after call) calls

/-- A record shows no errno. -/
theorem glimpse?_records (t : Tracing) (text : Bytes) :
    (t.records text).filterMap Entry.glimpse? = [] := by
  unfold records
  split <;> rfl

/-- The entries of a hook's own call show what the hook finds inside it, and what it finds after
it. -/
theorem glimpse?_nestedEntries (t : Tracing) (hook : Hook) :
    (t.nestedEntries hook).filterMap Entry.glimpse?
      = .told (t.seen .badDescriptor) ::
        match hook.panic with
        | none => [.returned .badDescriptor]
        | some _ => [] := by
  unfold nestedEntries
  rw [List.filterMap_append, glimpse?_records, List.nil_append]
  cases hook.panic <;> rfl

/-- **The entries of an event show the glimpses of its call.** -/
theorem glimpse?_entries (t : Tracing) (e : Errno) (event : Event) :
    (t.entries e event).filterMap Entry.glimpse? = t.glimpses e := by
  unfold entries entriesWith glimpses
  rw [List.filterMap_append, glimpse?_records, List.nil_append]
  rcases t.observer with _ | hook | errno
  · rfl
  · have hnested := t.glimpse?_nestedEntries hook
    dsimp only
    -- Only a nesting hook makes a call, and only that call has more to show.
    cases hook.nested with
    | true =>
      rw [if_pos rfl, if_pos rfl, ← hnested]
      rfl
    | false => rfl
  · rfl

theorem glimpse?_entriesOf (t : Tracing) (w : World) (calls : List SystemCall) :
    (t.entriesOf w calls).filterMap Entry.glimpse? = t.glimpsesOf w calls := by
  induction calls generalizing w with
  | nil => rfl
  | cons call calls ih =>
    rw [entriesOf, List.filterMap_append, glimpse?_entries, ih, glimpsesOf]

/-! ### What the observer leaves -/

/-- The same settings with an observer that leaves the given value in errno, if any. -/
def leaving (t : Tracing) (errno : Option Errno) : Tracing :=
  { t with slot := { t.slot with content := t.slot.content.map (Observer.leaving errno) } }

theorem observer_leaving (t : Tracing) (errno : Option Errno) :
    (t.leaving errno).observer = t.observer.map (Observer.leaving errno) := by
  have hcontent : t.observer = t.slot.content := t.slot.observer_eq
  rw [hcontent]
  exact Slot.observer_eq _

theorem panic_leaving (t : Tracing) (errno : Option Errno) : (t.leaving errno).panic = t.panic := by
  unfold panic
  rw [observer_leaving]
  rcases t.observer with _ | hook | former <;> rfl

theorem records_leaving (t : Tracing) (errno : Option Errno) (text : Bytes) :
    (t.leaving errno).records text = t.records text := by
  have hthere : (t.leaving errno).hasObserver = t.hasObserver := by
    rw [hasObserver_eq, hasObserver_eq, observer_leaving, Option.isSome_map]
  unfold records
  rw [hthere]
  rfl

/-- What the observer leaves in errno is in no entry. -/
theorem entries_leaving (t : Tracing) (errno : Option Errno) (e : Errno) (event : Event) :
    (t.leaving errno).entries e event = t.entries e event := by
  -- The observer has its say in the entries by its label, its nesting and its panics alone.
  unfold entries entriesWith nestedEntries
  rw [observer_leaving]
  simp only [records_leaving]
  rcases t.observer with _ | hook | former <;> rfl

theorem entriesOf_leaving (t : Tracing) (errno : Option Errno) (w : World)
    (calls : List SystemCall) : (t.leaving errno).entriesOf w calls = t.entriesOf w calls := by
  induction calls generalizing w with
  | nil => rfl
  | cons call calls ih => rw [entriesOf, entriesOf, entries_leaving, ih]

end Tracing

namespace Session

variable {s : Session}

/-- The same session with an observer that leaves the given value in errno, if any. -/
def leaving (s : Session) (errno : Option Errno) : Session := ⟨s.world, s.tracing.leaving errno⟩

/-- **What the observer leaves in errno makes no difference** to a step that opens, reads or closes:
same answer, entries included, and the same world after it. -/
theorem step_leaving {step : Step} {deed : Deed}
    (h : step.deed? s.tracing.panic s.world.host = some deed) (errno : Option Errno) :
    (s.leaving errno).step step = ((s.step step).1.leaving errno, (s.step step).2) := by
  have hdeed : step.deed? (s.leaving errno).tracing.panic (s.leaving errno).world.host
      = some deed := by
    rw [← h]
    exact congrArg (step.deed? · s.world.host) (s.tracing.panic_leaving errno)
  have hentries : (s.leaving errno).tracing.entriesOf (s.leaving errno).world deed.calls
      = s.tracing.entriesOf s.world deed.calls :=
    s.tracing.entriesOf_leaving errno s.world deed.calls
  rw [step_of_deed hdeed, step_of_deed h, settle, settle, hentries]
  rfl

/-- The glimpses of a step that is one call, and the errno after it. -/
theorem glimpses_of_call {step : Step} {call : SystemCall}
    (h : step.call? s.world.host = some call) :
    (s.step step).2.entries.filterMap Entry.glimpse?
      = s.tracing.glimpses (s.world.after call).errno ∧
      ((s.step step).2.reply.isPanic = false →
        (s.step step).1.world.errno = (s.world.after call).errno) := by
  obtain ⟨hshown, reply, -, hdeed⟩ := Step.deed?_of_call h
  have hsettled := step_of_deed (hdeed s.tracing.panic)
  have hsingle : s.tracing.glimpsesOf s.world [call]
      = s.tracing.glimpses (s.world.after call).errno := List.append_nil _
  refine ⟨?_, fun hcalm => ?_⟩
  · rw [hsettled, settle, hshown, ← hsingle, ← Tracing.glimpse?_entriesOf]
    rfl
  · -- Without a panic nothing puts back the errno of before.
    rw [hsettled] at hcalm ⊢
    have hreply : (Deed.ofCall s.tracing.panic call reply).reply.isPanic = false := hcalm
    rw [settle, hreply]
    rfl

/-- The glimpses of all the calls of a reading, shown or not, and the errno after them. -/
theorem glimpses_of_reading (s : Session) (reading : Reading) (d : Descriptor)
    (paces : List Pace) :
    (reading.run s d paces).entries.filterMap Entry.glimpse?
        = s.tracing.glimpsesOf s.world (s.calls (.stream reading d paces)) ∧
      ((reading.run s d paces).ending.isPanic = false →
        (reading.run s d paces).session.world.errno
          = (s.world.afterAll (s.calls (.stream reading d paces))).errno) := by
  have hfollows := reading.run_follows s d paces
  have hcalls : s.calls (.stream reading d paces)
      = (reading.passage s.tracing.panic s.world.host d paces).calls := rfl
  rw [hcalls]
  refine ⟨?_, fun hcalm => ?_⟩
  · rw [hfollows.calls.entries, Tracing.glimpse?_entriesOf]
  · rw [hfollows.ending] at hcalm
    exact hfollows.calls.errno hcalm

/-- **What is found in errno inside the calls of a session.** Let a system call leave `e` in errno:
the code that it failed with, or what errno held before.

* In every form of an open, a read and a close, the observer, the hook inside its own call, and the
  hook after it find the values that `Tracing.glimpses` gives for `e`; and unless the observer
  panicked, the caller finds `e`.
* So it is for each of the calls that a reading makes, one after another, whether its entries are
  shown or not.
* None of this, and nothing else that comes of these steps, depends on what the observer writes to
  errno. -/
theorem errno_inside_calls (s : Session) :
    (∀ (step : Step) (call : SystemCall), step.call? s.world.host = some call →
      let e := call.fault.getD s.world.errno
      (s.step step).2.entries.filterMap Entry.glimpse? = s.tracing.glimpses e ∧
      ((s.step step).2.reply.isPanic = false → (s.step step).1.world.errno = e)) ∧
    (∀ (reading : Reading) (d : Descriptor) (paces : List Pace),
      let calls := s.calls (.stream reading d paces)
      let outcome := reading.run s d paces
      outcome.entries.filterMap Entry.glimpse? = s.tracing.glimpsesOf s.world calls ∧
      (outcome.ending.isPanic = false →
        outcome.session.world.errno = (s.world.afterAll calls).errno)) ∧
    ∀ (errno : Option Errno) (step : Step) (deed : Deed),
      step.deed? s.tracing.panic s.world.host = some deed →
      (s.leaving errno).step step = ((s.step step).1.leaving errno, (s.step step).2) := by
  refine ⟨?_, ?_, ?_⟩
  · intro step call hcall
    exact glimpses_of_call hcall
  · intro reading d paces
    exact s.glimpses_of_reading reading d paces
  · intro errno step deed hdeed
    exact step_leaving hdeed errno

/-- A session with an open file of five bytes, a log without an errno of its own, and a nesting hook
that writes to errno. -/
def watched : Session :=
  ((prepared [.file (ascii "notes") (ascii "hello")]).run
    [.openFile (.bytes (ascii "notes")),
      .setLog ⟨.debug, none⟩,
      .setHook (some ⟨"hook", some ⟨72⟩, true, none, none⟩)]).1

theorem errno_inside_calls_watched :
    ((watched.step (.openFile (.pointer none))).2.entries.filterMap Entry.glimpse?
        = [.told .badAddress, .told .badDescriptor, .returned .badDescriptor] ∧
      (watched.step (.openFile (.pointer none))).1.world.errno = .badAddress) ∧
    (((watched.step (.setLog ⟨.trace, some ⟨71⟩⟩)).1.step (.close ⟨0⟩)).2.entries.filterMap
        Entry.glimpse? = [.told ⟨71⟩, .told ⟨71⟩, .returned .badDescriptor] ∧
      ((watched.step (.setLog ⟨.trace, some ⟨71⟩⟩)).1.step (.close ⟨0⟩)).1.world.errno
        = .success) ∧
    (((Reading.exactly 2).run watched ⟨0⟩ [.interrupted]).entries.filterMap Entry.glimpse?
        = [.told .interrupted, .told .badDescriptor, .returned .badDescriptor,
          .told .interrupted, .told .badDescriptor, .returned .badDescriptor] ∧
      ((Reading.exactly 2).run watched ⟨0⟩ [.interrupted]).session.world.errno = .interrupted) ∧
    (watched.leaving (some ⟨73⟩)).step (.close ⟨0⟩)
      = ((watched.step (.close ⟨0⟩)).1.leaving (some ⟨73⟩), (watched.step (.close ⟨0⟩)).2) := by
  obtain ⟨hcalls, hreadings, hleaving⟩ := errno_inside_calls watched
  obtain ⟨hlogged, -, -⟩ := errno_inside_calls (watched.step (.setLog ⟨.trace, some ⟨71⟩⟩)).1
  obtain ⟨hopen, hafterOpen⟩ := hcalls (.openFile (.pointer none)) _ rfl
  obtain ⟨hclose, hafterClose⟩ := hlogged (.close ⟨0⟩) _ rfl
  obtain ⟨hread, hafterRead⟩ := hreadings (.exactly 2) ⟨0⟩ [.interrupted]
  have hopenErrno := hafterOpen (by decide)
  have hcloseErrno := hafterClose (by decide)
  have hreadErrno := hafterRead (by decide)
  exact ⟨⟨hopen.trans (by decide), hopenErrno.trans (by decide)⟩,
    ⟨hclose.trans (by decide), hcloseErrno.trans (by decide)⟩,
    ⟨hread.trans (by decide), hreadErrno.trans (by decide)⟩,
    hleaving (some ⟨73⟩) (.close ⟨0⟩) _ rfl⟩

end Session

end TracedPipe
