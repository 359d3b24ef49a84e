import TracedPipe.Proofs.Session.Register
import TracedPipe.Proofs.Session.Transparency
import TracedPipe.Proofs.Tracing.Channels

/-!
# The channels of tracing

What the log and the observer get does not depend on the other of the two, and each gets whole
lines.

Main statements: `Session.channels_independent`, `Session.whole_lines`.
-/

namespace TracedPipe

/-!
## The channels do not influence each other

Two runs take the same steps, except that one channel of tracing is set in other ways. Then the
other channel shows the same in both.

* Where the loggers differ (`Step.Relogged`), the sessions differ in the logger and in errno
  (`Session.SameButLog`), and everything that hooks and callbacks are told stays, panics included.
* Where the hooks differ (`Step.Rehooked`) and none of them panics, the sessions differ in the slot
  and in errno (`Session.SameButHook`), and the records of the caller's own calls stay; a hook's own
  call may add one that says that something was closed.

In both cases the two sessions stand on the same host, so each step makes the same system calls in
both. That is what one step keeps; `Session.lockstep` takes it along two runs. The entries that are
compared are all that a step makes, also where its answer does not show them
(`Session.answerInFull`).
-/

/-! ### Steps that differ in one channel -/

/-- The same step, or two that set the logger. -/
inductive Step.Relogged : Step → Step → Prop where
  | refl (step : Step) : Relogged step step
  | setLog (log other : Log) : Relogged (.setLog log) (.setLog other)

/-- The same step, or two that set or remove a hook. -/
inductive Step.Rehooked : Step → Step → Prop where
  | refl (step : Step) : Rehooked step step
  | setHook (hook other : Option Hook) : Rehooked (.setHook hook) (.setHook other)

/-! ### Answers that differ in one channel -/

/-- The message that a step panicked with, if it did. -/
def Reply.panic? : Reply → Option String
  | .panicked message => some message
  | _ => none

/-- **Two answers show the same of what observers were told,** and of panics. -/
structure Answer.SameTold (a b : Answer) : Prop where
  entries : b.entries.filterMap Entry.told? = a.entries.filterMap Entry.told?
  panic : b.reply.panic? = a.reply.panic?

/-- **Two answers show the same records of the caller's own calls;** any other record says that
something was closed. -/
structure Answer.SameRecords (a b : Answer) : Prop where
  own : Entry.recordsOf false b.entries = Entry.recordsOf false a.entries
  ofHooks : ∀ text, text ∈ Entry.recordsOf true a.entries ∨ text ∈ Entry.recordsOf true b.entries →
    text = Event.closedInvalid.line

/-! ### Hooks that do not panic -/

/-- The hook does not panic when it is told of an event; nor when it is dropped, where that
matters. -/
def Hook.Calm (drops : Prop) (hook : Hook) : Prop :=
  hook.panic = none ∧ (drops → hook.dropPanic = none)

/-- If the observer is a hook, it is a calm one. -/
def Tracing.Calm (drops : Prop) (t : Tracing) : Prop :=
  ∀ hook, t.observer = some (.hook hook) → hook.Calm drops

namespace Tracing

variable {t : Tracing} {drops : Prop}

theorem Calm.panic_eq_none (h : t.Calm drops) : t.panic = none := by
  unfold panic
  split
  · next hook hobserver => exact (h hook hobserver).1
  · rfl

theorem Calm.dropPanic_eq_none (h : t.Calm drops) (hdrops : drops) : t.slot.dropPanic = none := by
  show t.observer.bind Observer.dropPanic = none
  rcases hobserver : t.observer with _ | hook | errno
  · rfl
  · exact (h hook hobserver).2 hdrops
  · rfl

/-- A record outside any call is the caller's own. -/
theorem recordsOf_records_alone (t : Tracing) (ofHooks : Bool) (text : Bytes) :
    Entry.recordsOf ofHooks (t.records text) = if ofHooks then [] else t.log.texts text := by
  have halone := t.recordsOf_records ofHooks text []
  rw [List.append_nil] at halone
  rw [halone]
  cases ofHooks with
  | true => rfl
  | false => exact List.append_nil _

end Tracing

namespace Session

variable {s t : Session} {step other : Step}

/-! ### All entries of a step -/

/-- All entries that a step makes, whether its answer shows them or not. -/
def made (s : Session) : Step → List Entry
  | .stream reading d paces => (reading.run s d paces).entries
  | step => (s.step step).2.entries

/-- The answer to a step, with all entries that the step makes. -/
def answerInFull (s : Session) (step : Step) : Answer :=
  { (s.step step).2 with entries := s.made step }

/-- The answers to the steps of a run, with all entries that the steps make. -/
def answersInFull (s : Session) : List Step → List Answer
  | [] => []
  | step :: steps => s.answerInFull step :: (s.step step).1.answersInFull steps

theorem made_of_deed {deed : Deed} (h : step.deed? s.tracing.panic s.world.host = some deed) :
    s.made step = s.tracing.entriesOf s.world deed.calls := by
  cases step with
  | stream reading d paces =>
    obtain rfl := Option.some.inj h
    exact (reading.run_follows s d paces).calls.entries
  | _ =>
    show (s.step _).2.entries = s.tracing.entriesOf s.world deed.calls
    rw [step_of_deed h]
    rfl

/-- A step that concerns tracing shows all its entries. -/
theorem answerInFull_of_concernsTracing (h : step.concernsTracing = true) :
    s.answerInFull step = (s.step step).2 := by
  cases step with
  | stream reading d paces => cases h
  | _ => rfl

/-- An answer shows all entries that its step makes, or none. -/
theorem answer_eq (s : Session) (step : Step) :
    (s.step step).2 = { s.answerInFull step with
      entries := if step.showsEntries then s.made step else [] } := by
  cases step with
  | stream reading d paces =>
    have hdeed : (Step.stream reading d paces).deed? s.tracing.panic s.world.host = some _ := rfl
    rw [answerInFull, made_of_deed hdeed, step_of_deed hdeed]
    rfl
  | _ => rfl

/-! ### Two runs in lockstep -/

/-- **Two runs in lockstep:** what each step keeps between them and shows of them, their answers
show all along. -/
theorem lockstep {keeps : Session → Session → Prop} {related : Step → Step → Prop}
    {same : Answer → Answer → Prop}
    (hstep : ∀ {s t : Session} {step other : Step}, keeps s t → related step other →
      keeps (s.step step).1 (t.step other).1 ∧ same (s.answerInFull step) (t.answerInFull other))
    (h : keeps s t) {steps others : List Step} (hsteps : List.Forall₂ related steps others) :
    List.Forall₂ same (s.answersInFull steps) (t.answersInFull others) := by
  induction hsteps generalizing s t with
  | nil => exact .nil
  | cons hrelated _ ih =>
    obtain ⟨hkeeps, hsame⟩ := hstep h hrelated
    exact .cons hsame (ih hkeeps)

/-- Two sessions on one host, whose observers panic alike, are on one host after the same step, and
after steps that concern tracing. -/
theorem host_of_same (hhost : t.world.host = s.world.host)
    (hpanic : t.tracing.panic = s.tracing.panic)
    (hsteps : other = step ∨ step.concernsTracing = true ∧ other.concernsTracing = true) :
    (t.step other).1.world.host = (s.step step).1.world.host := by
  have hconcerns (hstep : step.concernsTracing = true) (hother : other.concernsTracing = true) :
      (t.step other).1.world.host = (s.step step).1.world.host := by
    rw [host_step_of_concernsTracing hstep, host_step_of_concernsTracing hother, hhost]
  -- The same step does the same to the host, with any settings under which the observers panic
  -- alike; two that concern tracing do nothing to it.
  rcases hsteps with rfl | ⟨hstep, hother⟩
  · cases hconcerning : other.concernsTracing with
    | true => exact hconcerns hconcerning hconcerning
    | false =>
      have hagree : Agree s t other := agree other hhost (by rw [hpanic, hhost]) fun h => by
        rw [hconcerning] at h
        cases h
      exact hagree.host
  · exact hconcerns hstep hother

/-! ### Other loggers -/

/-- Two sessions that differ in the logger and in errno at most. -/
structure SameButLog (s t : Session) : Prop where
  host : t.world.host = s.world.host
  slot : t.tracing.slot = s.tracing.slot

namespace SameButLog

theorem observer (h : SameButLog s t) : t.tracing.observer = s.tracing.observer :=
  congrArg Slot.observer h.slot

theorem panic (h : SameButLog s t) : t.tracing.panic = s.tracing.panic := by
  unfold Tracing.panic
  rw [h.observer]

/-- **Setting the logger in other ways** changes nothing else. -/
theorem keep (h : SameButLog s t) (hsteps : step.Relogged other) :
    SameButLog (s.step step).1 (t.step other).1 := by
  refine ⟨?_, ?_⟩
  · refine host_of_same h.host h.panic ?_
    cases hsteps with
    | refl => exact .inl rfl
    | setLog => exact .inr ⟨rfl, rfl⟩
  · rw [tracing_step, tracing_step]
    have hreplaced (observer : Option Observer) :
        t.tracing.slot.replace observer = s.tracing.slot.replace observer := by rw [h.slot]
    cases hsteps with
    | setLog => exact h.slot
    | refl =>
      cases step with
      | setHook hook => exact hreplaced _
      | installCallback errno => exact hreplaced _
      | removeCallback => exact hreplaced _
      | _ => exact h.slot

/-- Nobody is told of a step that concerns tracing; if it panics, it does so as it drops the
observer that was there. -/
theorem sameTold_of_concernsTracing (h : SameButLog s t) (hstep : step.concernsTracing = true) :
    (s.answerInFull step).SameTold (t.answerInFull step) := by
  have hdrop : t.tracing.slot.dropPanic = s.tracing.slot.dropPanic :=
    congrArg Slot.dropPanic h.slot
  rw [answerInFull_of_concernsTracing hstep, answerInFull_of_concernsTracing hstep]
  -- At most the step makes a record, before the observer is dropped or after it.
  have hrecords (u v : Tracing) (text : Bytes) :
      (v.records text).filterMap Entry.told? = (u.records text).filterMap Entry.told? :=
    (v.told?_records text).trans (u.told?_records text).symm
  cases step with
  | setHook hook =>
    rw [step_setHook, step_setHook, hdrop]
    cases s.tracing.slot.dropPanic <;> exact ⟨rfl, rfl⟩
  | installCallback errno =>
    rw [step_installCallback, step_installCallback, hdrop]
    cases s.tracing.slot.dropPanic <;> exact ⟨hrecords _ _ _, rfl⟩
  | removeCallback =>
    rw [step_removeCallback, step_removeCallback, hdrop]
    cases s.tracing.slot.dropPanic with
    | none => exact ⟨hrecords _ _ _, rfl⟩
    | some message => exact ⟨rfl, rfl⟩
  | hasObserver => exact ⟨rfl, rfl⟩
  | setLog log => exact ⟨rfl, rfl⟩
  | _ => cases hstep

/-- **What observers are told** is the same with another logger. -/
theorem sameTold (h : SameButLog s t) (hsteps : step.Relogged other) :
    (s.answerInFull step).SameTold (t.answerInFull other) := by
  cases hsteps with
  | setLog => exact ⟨rfl, rfl⟩
  | refl =>
    induction step using Step.by_deed s.tracing.panic s.world.host with
    | deed step deed hdeed =>
      -- The observers panic alike and the host is the same, so the step does the same in both.
      have hother : step.deed? t.tracing.panic t.world.host = some deed := by
        rw [h.panic, h.host]
        exact hdeed
      refine ⟨?_, ?_⟩
      · show (t.made step).filterMap Entry.told? = (s.made step).filterMap Entry.told?
        rw [made_of_deed hdeed, made_of_deed hother, Tracing.told?_entriesOf,
          Tracing.told?_entriesOf, h.observer]
      · rw [answerInFull, answerInFull, step_of_deed hdeed, step_of_deed hother]
        rfl
    | setHook hook => exact h.sameTold_of_concernsTracing rfl
    | installCallback errno => exact h.sameTold_of_concernsTracing rfl
    | removeCallback => exact h.sameTold_of_concernsTracing rfl
    | _ => exact ⟨rfl, rfl⟩

end SameButLog

/-! ### Other hooks -/

/-- A step that sets a hook sets a calm one. -/
def SetsCalmly (drops : Prop) (step : Step) : Prop :=
  ∀ hook, step = .setHook (some hook) → hook.Calm drops

theorem calm_step {drops : Prop} (h : s.tracing.Calm drops) (hstep : SetsCalmly drops step) :
    (s.step step).1.tracing.Calm drops := by
  intro hook hobserver
  rw [observer_step] at hobserver
  cases step with
  | setHook given =>
    cases given with
    | none => cases hobserver
    | some given =>
      obtain rfl := Observer.hook.inj (Option.some.inj hobserver)
      exact hstep _ rfl
  | installCallback errno => cases hobserver
  | removeCallback => cases hobserver
  | _ => exact h hook hobserver

/-- Two sessions that differ in the slot and in errno at most, and whose observers are calm. -/
structure SameButHook (drops : Prop) (s t : Session) : Prop where
  host : t.world.host = s.world.host
  log : t.tracing.log = s.tracing.log
  calm : s.tracing.Calm drops
  otherCalm : t.tracing.Calm drops

/-- The same step, or two that set or remove a hook, and if so a calm one; drops matter to a step
that removes a callback. -/
structure RehookedCalmly (drops : Prop) (step other : Step) : Prop where
  rehooked : step.Rehooked other
  calm : SetsCalmly drops step
  otherCalm : SetsCalmly drops other
  removal : step = .removeCallback → drops

namespace SameButHook

variable {drops : Prop}

/-- **Setting calm hooks in other ways** changes nothing else. -/
theorem keep (h : SameButHook drops s t) (hsteps : RehookedCalmly drops step other) :
    SameButHook drops (s.step step).1 (t.step other).1 := by
  refine ⟨?_, ?_, calm_step h.calm hsteps.calm, calm_step h.otherCalm hsteps.otherCalm⟩
  · refine host_of_same h.host (h.otherCalm.panic_eq_none.trans h.calm.panic_eq_none.symm) ?_
    cases hsteps.rehooked with
    | refl => exact .inl rfl
    | setHook => exact .inr ⟨rfl, rfl⟩
  · rw [tracing_step, tracing_step]
    cases hsteps.rehooked with
    | setHook => exact h.log
    | refl =>
      cases step with
      | setLog log => rfl
      | _ => exact h.log

/-- A record outside any call is the same with other hooks. -/
theorem sameRecords_of_text {a b : Answer} {u v : Tracing} (h : v.log = u.log) (text : Bytes)
    (ha : a.entries = u.records text) (hb : b.entries = v.records text) : a.SameRecords b := by
  refine ⟨?_, fun line hmem => ?_⟩
  · rw [ha, hb, Tracing.recordsOf_records_alone, Tracing.recordsOf_records_alone, h]
  · rw [ha, hb, Tracing.recordsOf_records_alone, Tracing.recordsOf_records_alone] at hmem
    exact absurd hmem (by simp)

/-- **The same calls are recorded alike,** whatever hook is told of them: only the call that a hook
makes itself adds a record. -/
theorem sameRecords_of_deed (h : SameButHook drops s t) {deed : Deed}
    (hdeed : step.deed? s.tracing.panic s.world.host = some deed) :
    (s.answerInFull step).SameRecords (t.answerInFull step) := by
  -- Neither observer panics, so the step makes the same calls in both sessions.
  have hother : step.deed? t.tracing.panic t.world.host = some deed := by
    rw [h.otherCalm.panic_eq_none, h.host, ← h.calm.panic_eq_none]
    exact hdeed
  have hs (ofHooks : Bool) : Entry.recordsOf ofHooks (s.made step)
      = deed.calls.flatMap fun call => s.tracing.textsOf ofHooks call.event := by
    rw [made_of_deed hdeed, Tracing.recordsOf_entriesOf h.calm.panic_eq_none]
  have ht (ofHooks : Bool) : Entry.recordsOf ofHooks (t.made step)
      = deed.calls.flatMap fun call => t.tracing.textsOf ofHooks call.event := by
    rw [made_of_deed hother, Tracing.recordsOf_entriesOf h.otherCalm.panic_eq_none]
  refine ⟨?_, fun text hmem => ?_⟩
  · show Entry.recordsOf false (t.made step) = Entry.recordsOf false (s.made step)
    -- The caller's own records are a matter of the log, which is the same.
    have htexts (event : Event) :
        t.tracing.textsOf false event = s.tracing.textsOf false event := by
      unfold Tracing.textsOf
      rw [h.log]
      rfl
    rw [hs, ht]
    simp only [htexts]
  · change text ∈ Entry.recordsOf true (s.made step) ∨
      text ∈ Entry.recordsOf true (t.made step) at hmem
    rw [hs, ht, List.mem_flatMap, List.mem_flatMap] at hmem
    -- The records of a hook's own call have one text, whichever session they are from.
    rcases hmem with ⟨call, -, hmem⟩ | ⟨call, -, hmem⟩
    · exact Tracing.eq_of_mem_textsOf hmem
    · exact Tracing.eq_of_mem_textsOf hmem

/-- **The records of the caller's own calls** are the same with other hooks. -/
theorem sameRecords (h : SameButHook drops s t) (hsteps : RehookedCalmly drops step other) :
    (s.answerInFull step).SameRecords (t.answerInFull other) := by
  -- Setting a hook makes no entries at all.
  have hnone {a b : Answer} (ha : a.entries = []) (hb : b.entries = []) : a.SameRecords b := by
    refine ⟨by rw [ha, hb], fun text hmem => ?_⟩
    rw [ha, hb] at hmem
    exact absurd hmem (by simp [Entry.recordsOf])
  have hset (now : Session) (hook : Option Hook) :
      (now.answerInFull (.setHook hook)).entries = [] := by
    rw [answerInFull_of_concernsTracing rfl, step_setHook]
  obtain ⟨hrehooked, -, -, hremoval⟩ := hsteps
  cases hrehooked with
  | setHook hook given => exact hnone (hset s hook) (hset t given)
  | refl =>
    induction step using Step.by_deed s.tracing.panic s.world.host with
    | deed step deed hdeed => exact h.sameRecords_of_deed hdeed
    | setHook hook => exact hnone (hset s hook) (hset t hook)
    | installCallback errno =>
      -- The record is the first thing that the step does.
      refine sameRecords_of_text h.log (ascii "Trace callback installed") ?_ ?_
      · rw [answerInFull_of_concernsTracing rfl, step_installCallback]
        cases s.tracing.slot.dropPanic <;> rfl
      · rw [answerInFull_of_concernsTracing rfl, step_installCallback]
        cases t.tracing.slot.dropPanic <;> rfl
    | removeCallback =>
      -- Only here does it matter that the drop does not panic: it would come before the record.
      have hdrop := h.calm.dropPanic_eq_none (hremoval rfl)
      have hotherDrop := h.otherCalm.dropPanic_eq_none (hremoval rfl)
      refine sameRecords_of_text (u := s.tracing.withObserver none)
        (v := t.tracing.withObserver none) h.log (ascii "Trace callback removed") ?_ ?_
      · rw [answerInFull_of_concernsTracing rfl, step_removeCallback, hdrop]
      · rw [answerInFull_of_concernsTracing rfl, step_removeCallback, hotherDrop]
    | _ => exact hnone rfl rfl

end SameButHook

/-! ### Runs -/

/-- Runs that set hooks in other ways do so calmly at every step, if no hook among them panics. -/
theorem forall₂_rehookedCalmly {steps others : List Step}
    (h : List.Forall₂ Step.Rehooked steps others)
    (hcalm : ∀ hook, .setHook (some hook) ∈ steps ++ others →
      hook.Calm (.removeCallback ∈ steps)) :
    List.Forall₂ (RehookedCalmly (.removeCallback ∈ steps)) steps others := by
  rw [List.forall₂_iff_zip] at h ⊢
  refine ⟨h.1, fun {step other} hmem => ?_⟩
  obtain ⟨hstep, hother⟩ := List.of_mem_zip hmem
  refine ⟨h.2 hmem, ?_, ?_, ?_⟩
  · rintro hook rfl
    exact hcalm hook (List.mem_append_left others hstep)
  · rintro hook rfl
    exact hcalm hook (List.mem_append_right steps hother)
  · rintro rfl
    exact hstep

/-- **The channels do not influence each other.** On any prepared host,

* runs that differ in their settings of the logger tell the observers the same, step by step, and
  panic with the same messages;
* runs that differ in the hooks they set, none of which panics when it is told of an event, have the
  same records of the caller's own calls, step by step, and no other record but that of a hook's own
  call. If a callback is removed in these runs, no hook may panic when it is dropped either.

The caller's own records of calls are one for each call, if the log takes debug records. An answer
shows all entries that its step makes, or none at all. -/
theorem channels_independent (changes : List Change) :
    let s := prepared changes
    (∀ steps others : List Step, List.Forall₂ Step.Relogged steps others →
      List.Forall₂ Answer.SameTold (s.answersInFull steps) (s.answersInFull others)) ∧
    (∀ steps others : List Step, List.Forall₂ Step.Rehooked steps others →
      (∀ hook, .setHook (some hook) ∈ steps ++ others →
        hook.panic = none ∧ (.removeCallback ∈ steps → hook.dropPanic = none)) →
      List.Forall₂ Answer.SameRecords (s.answersInFull steps) (s.answersInFull others)) ∧
    (∀ (now : Session) (step : Step) (deed : Deed), now.tracing.panic = none →
      step.deed? none now.world.host = some deed →
      Entry.recordsOf false (now.answerInFull step).entries
        = deed.calls.flatMap fun call => now.tracing.log.texts call.event.line) ∧
    ∀ (now : Session) (step : Step), (now.step step).2 = { now.answerInFull step with
      entries := if step.showsEntries then now.made step else [] } := by
  intro s
  refine ⟨?_, ?_, ?_, ?_⟩
  · -- Both runs start from one session, and each pair of steps keeps what they have in common.
    intro steps others hsteps
    have hstart : SameButLog s s := ⟨rfl, rfl⟩
    exact lockstep (fun h hrelated => ⟨h.keep hrelated, h.sameTold hrelated⟩) hstart hsteps
  · intro steps others hsteps hcalm
    -- Nobody is in the slot at the start, so nobody in it can panic.
    have hnobody : s.tracing.Calm (.removeCallback ∈ steps) := by
      rintro hook ⟨⟩
    have hstart : SameButHook (.removeCallback ∈ steps) s s := ⟨rfl, rfl, hnobody, hnobody⟩
    have hpairs := forall₂_rehookedCalmly hsteps hcalm
    exact lockstep (fun h hrelated => ⟨h.keep hrelated, h.sameRecords hrelated⟩) hstart hpairs
  · intro now step deed hpanic hdeed
    have hmade : (now.answerInFull step).entries = now.tracing.entriesOf now.world deed.calls := by
      rw [← hpanic] at hdeed
      exact made_of_deed hdeed
    rw [hmade, Tracing.recordsOf_entriesOf hpanic]
    rfl
  · intro now step
    exact now.answer_eq step

/-- Steps that open a file, read it to its end and close it, with the logger and the hook set as
given; a callback takes the place of the hook in between. -/
def channelSteps (log : Log) (hook : Option Hook) : List Step :=
  [.setLog log,
    .setHook hook,
    .openFile (.bytes (ascii "notes")),
    .stream (.toEnd []) ⟨0⟩ [.interrupted],
    .installCallback (some ⟨73⟩),
    .read (.c .null) ⟨0⟩ 4 .full,
    .removeCallback,
    .close ⟨0⟩]

/-- The answers to these steps where there is such a file. -/
def channelAnswers (log : Log) (hook : Option Hook) : List Answer :=
  (prepared [.file (ascii "notes") (ascii "hello")]).answersInFull (channelSteps log hook)

/-- A logger that takes all records and writes to errno. -/
def loudLog : Log := ⟨.trace, some ⟨71⟩⟩

/-- A hook that writes to errno and makes a call of its own. -/
def nestingHook : Hook := ⟨"hook", some ⟨72⟩, true, none, none⟩

theorem channels_independent_channelSteps :
    (List.Forall₂ Step.Relogged (channelSteps loudLog (some nestingHook))
        (channelSteps .off (some nestingHook)) ∧
      List.Forall₂ Answer.SameTold (channelAnswers loudLog (some nestingHook))
        (channelAnswers .off (some nestingHook))) ∧
    (List.Forall₂ Step.Rehooked (channelSteps loudLog (some nestingHook))
        (channelSteps loudLog none) ∧
      List.Forall₂ Answer.SameRecords (channelAnswers loudLog (some nestingHook))
        (channelAnswers loudLog none)) ∧
    (channelAnswers loudLog (some nestingHook)).map
        (fun answer => ((Entry.recordsOf false answer.entries).length,
          (Entry.recordsOf true answer.entries).length))
      = [(0, 0), (0, 0), (1, 1), (3, 3), (1, 0), (1, 0), (1, 0), (1, 0)] := by
  obtain ⟨htold, hrecords, -⟩ := channels_independent [.file (ascii "notes") (ascii "hello")]
  -- The runs differ in their first step, or in the second.
  have hlogs : List.Forall₂ Step.Relogged (channelSteps loudLog (some nestingHook))
      (channelSteps .off (some nestingHook)) :=
    .cons (.setLog _ _) (List.forall₂_same.mpr fun step _ => .refl step)
  have hhooks : List.Forall₂ Step.Rehooked (channelSteps loudLog (some nestingHook))
      (channelSteps loudLog none) :=
    .cons (.refl _) (.cons (.setHook _ _) (List.forall₂_same.mpr fun step _ => .refl step))
  have hcalm : ∀ hook,
      .setHook (some hook) ∈ channelSteps loudLog (some nestingHook) ++ channelSteps loudLog none →
      hook.panic = none ∧
        (.removeCallback ∈ channelSteps loudLog (some nestingHook) → hook.dropPanic = none) := by
    -- Only one hook is set, and it never panics.
    intro hook hmem
    have hnesting : hook = nestingHook := by simpa [channelSteps] using hmem
    rw [hnesting]
    exact ⟨rfl, fun _ => rfl⟩
  exact ⟨⟨hlogs, htold _ _ hlogs⟩, ⟨hhooks, hrecords _ _ hhooks hcalm⟩, by decide⟩

end Session

/-!
## One line on every channel

An event goes out as a line on up to two channels: the log takes a record of it, and the observer is
a hook, which has the event and its line with it, or a callback, which finds the line in memory. On
the way to a callback a line passes through places where it could lose something: it is cut at a
NUL, and the empty string stands in for a line that cannot be terminated. No line has a NUL, so
neither happens, and what comes out on all channels is the same line, whole (`Session.whole_lines`).

* `Entry.line?` — the line in an entry;
* `Tracing.lines` — the lines of an event on the channels that are open (`Tracing.line?_entries`).
-/

/-- The line that an entry has of an event: the text of a record, the line of the event that a hook
has in hand, the text that a callback reads from memory. -/
def Entry.line? : Entry → Option Bytes
  | .record text _ => some text
  | .hook _ _ event => some event.line
  | .callback line _ => some line
  | .nested _ _ => none

namespace Tracing

/-- How many channels are open: the log, if it takes debug records, and the observer, if there is
one. -/
def channels (t : Tracing) : Nat :=
  t.log.level.takesDebug.toNat + t.observer.isSome.toNat

/-- **The lines of an event:** its own line on each open channel, and then on each of them the line
of the call that a nesting hook makes. -/
def lines (t : Tracing) (event : Event) : List Bytes :=
  List.replicate t.channels event.line ++
    if t.nests then List.replicate t.channels Event.closedInvalid.line else []

theorem line?_records (t : Tracing) (text : Bytes) :
    (t.records text).filterMap Entry.line?
      = List.replicate t.log.level.takesDebug.toNat text := by
  unfold records
  cases t.log.level.takesDebug <;> rfl

/-- A record of a text and an entry of the observer with it are the text once on each channel. -/
theorem line?_records_cons {t : Tracing} {observer : Observer} (ho : t.observer = some observer)
    {text : Bytes} {entry : Entry} (hentry : entry.line? = some text) (rest : List Entry) :
    (t.records text ++ entry :: rest).filterMap Entry.line?
      = List.replicate t.channels text ++ rest.filterMap Entry.line? := by
  rw [List.filterMap_append, line?_records, List.filterMap_cons_some hentry, channels, ho,
    Option.isSome_some, Bool.toNat_true, List.replicate_succ', List.append_assoc,
    List.singleton_append]

/-- The call of a nesting hook has its line once on each channel, and what comes of it has none. -/
theorem line?_nestedEntries {t : Tracing} {hook : Hook} (ho : t.observer = some (.hook hook)) :
    (t.nestedEntries hook).filterMap Entry.line?
      = List.replicate t.channels Event.closedInvalid.line := by
  unfold nestedEntries
  rw [line?_records_cons ho rfl]
  cases hook.panic <;> exact List.append_nil _

/-- **The entries of an event have its lines.** -/
theorem line?_entries (t : Tracing) (e : Errno) (event : Event) :
    (t.entries e event).filterMap Entry.line? = t.lines event := by
  unfold entries entriesWith lines nests
  cases ho : t.observer with
  | none =>
    -- The log is the only channel then, and there is no hook to make a call.
    rw [List.append_nil, line?_records, channels, ho]
    exact (List.append_nil _).symm
  | some observer =>
    cases observer with
    | callback errno =>
      dsimp only
      rw [line?_records_cons ho rfl]
      rfl
    | hook hook =>
      dsimp only
      rw [line?_records_cons ho rfl]
      -- A nesting hook makes its call on the channels that it was told on.
      split
      · rw [line?_nestedEntries ho]
      · rfl

theorem line?_entriesOf (t : Tracing) (w : World) (calls : List SystemCall) :
    (t.entriesOf w calls).filterMap Entry.line? = calls.flatMap fun call => t.lines call.event := by
  induction calls generalizing w with
  | nil => rfl
  | cons call calls ih =>
    rw [entriesOf, List.filterMap_append, line?_entries, ih, List.flatMap_cons]

end Tracing

namespace Session

/-- The lines of a step that opens, reads or closes are those of its calls. -/
theorem lines_of_deed {s : Session} {step : Step} {deed : Deed}
    (h : step.deed? s.tracing.panic s.world.host = some deed) :
    (s.made step).filterMap Entry.line?
      = deed.calls.flatMap fun call => s.tracing.lines call.event := by
  rw [made_of_deed h, Tracing.line?_entriesOf]

/-- **Every channel has the whole line.**

* No event has a line with a NUL in it. So none is cut on its way to a callback, none is replaced by
  the empty string, and a callback that reads to the terminator has the whole line, whatever lies
  behind it in memory.
* A step that opens, reads or closes, in whichever form, makes calls, and each call announces one
  event. The text of its record, the line that a hook has of it and the line that a callback reads
  are the line of this event, whether the step shows its entries or not; and so it is with the
  closing that a nesting hook makes. -/
theorem whole_lines :
    (∀ event : Event,
      nul ∉ event.line ∧ cutLine event.line = event.line ∧
      terminated? (cutLine event.line) = some (event.line ++ [nul]) ∧
      terminatedLine event.line = event.line ++ [nul] ∧
      ∀ behind : Bytes, readLine (terminatedLine event.line ++ behind) = event.line) ∧
    (∀ (s : Session) (step : Step) (deed : Deed),
      step.deed? s.tracing.panic s.world.host = some deed →
      (s.made step).filterMap Entry.line?
        = deed.calls.flatMap fun call => s.tracing.lines call.event) := by
  refine ⟨?_, ?_⟩
  · -- No part of a line has a NUL, so cutting at the first one cuts nothing, and the one that ends
    -- it is found again.
    intro event
    have hnul := event.nul_notMem_line
    have hcut := cutLine_of_notMem hnul
    have hterminated := terminatedLine_of_notMem hnul
    refine ⟨hnul, hcut, ?_, hterminated, ?_⟩
    · rw [terminated?_cutLine, hcut]
    · intro behind
      rw [hterminated, List.append_assoc]
      exact readLine_append_nul hnul behind
  · intro s step deed hdeed
    exact lines_of_deed hdeed

/-- A session that logs, with a callback. -/
def calledBack : Session :=
  ((prepared []).run [.setLog ⟨.debug, none⟩, .installCallback none]).1

/-- The same with a hook in its place, which makes a call of its own and then panics. -/
def hookedInstead : Session :=
  (calledBack.step (.setHook (some ⟨"hook", none, true, some "enough", none⟩))).1

/-- Memory with a path in it that is no text, its terminator, and one byte more. -/
def notText : Bytes := ascii "caf" ++ [0xe9, nul, 0x21]

theorem whole_lines_calledBack :
    (calledBack.made (.openFile (.pointer (some notText)))).filterMap Entry.line?
      = List.replicate 2 (ascii "PJReader opened for read file caf" ++ Utf8.replacement) ∧
    (calledBack.made (.stream (.exactly 2) ⟨-1⟩ [])).filterMap Entry.line?
      = List.replicate 2 (ascii "PJReader read -1 bytes") ∧
    (hookedInstead.made (.close ⟨-1⟩)).filterMap Entry.line?
      = List.replicate 4 (ascii "PJReader closed file") := by
  obtain ⟨-, hlines⟩ := whole_lines
  refine ⟨?_, ?_, ?_⟩
  · rw [hlines _ _ _ rfl]
    decide +kernel
  · rw [hlines _ _ _ rfl]
    decide +kernel
  · rw [hlines _ _ _ rfl]
    decide +kernel

end Session

end TracedPipe
