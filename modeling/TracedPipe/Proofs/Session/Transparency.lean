import TracedPipe.Proofs.Session.Agreement

/-!
# Tracing is transparent

A session runs the same with tracing and without. Take out of a run all steps that set tracing or
ask for it: the others give the same answers, apart from the entries of tracing, and the host ends
up the same, descriptors, positions and queues included. The logger may write to errno at every
record, hooks and callbacks at every event, and hooks may make their call: none of this is seen, as
long as nothing panics.

There is one exception, which `Writer.logger` names. The record of a callback that is installed or
removed belongs to no call, so nothing puts errno back after it, and the replies that show errno
show what the logger wrote, until something else writes to errno.

* `Session.Untraces` — the invariant of the two runs, and what each step does to it;
* `Session.reports_untraced` — the two runs side by side;
* `Session.run_untraced` — the statement about whole runs on any prepared host.
-/

namespace TracedPipe

/-- Whether a write outlives the run without tracing. -/
def ErrnoWrite.isOutsideTracing (write : ErrnoWrite) : Bool := write.writer ≠ .logger

/-- What errno holds if the logger was not the last to write, with its writes or without. -/
theorem ErrnoWrite.last_filter {writes : List ErrnoWrite} (e : Errno)
    (h : ∀ write, writes.getLast? = some write → write.isOutsideTracing = true) :
    ErrnoWrite.last e (writes.filter ErrnoWrite.isOutsideTracing) = ErrnoWrite.last e writes := by
  rcases writes.eq_nil_or_concat' with rfl | ⟨earlier, write, rfl⟩
  · rfl
  · have hwrite := h write List.getLast?_concat
    rw [List.filter_append, List.filter_singleton, hwrite, cond_true, Session.last_append,
      Session.last_append]
    rfl

/-- What is seen of a step in a run: the step, its answer, and all that was written to errno by
then. -/
structure Report where
  step : Step
  answer : Answer
  history : List ErrnoWrite

/-- Whether the logger was the last to write to errno, outside any call. -/
def Report.showsLogger (r : Report) : Bool :=
  r.history.getLast?.any fun write => !write.isOutsideTracing

/-- Whether an answer that is given without tracing matches a report of the run with it. -/
structure Report.Matches (r : Report) (untraced : Answer) : Prop where
  entries : untraced.entries = []
  reply : untraced.reply = r.answer.reply.withErrno untraced.errno
  /-- Unless the logger wrote to errno last, nothing differs but the entries. -/
  answer : r.showsLogger = false → untraced = { r.answer with entries := [] }

namespace Session

variable {s p : Session}

/-- The reports of a run, where `earlier` was written to errno before it. -/
def reports (s : Session) (earlier : List ErrnoWrite) : List Step → List Report
  | [] => []
  | step :: steps =>
    let history := earlier ++ s.writes step
    ⟨step, (s.step step).2, history⟩ :: (s.step step).1.reports history steps

/-- The reports of a run show its answers. -/
theorem map_answer_reports (s : Session) (earlier : List ErrnoWrite) (steps : List Step) :
    (s.reports earlier steps).map Report.answer = (s.run steps).2 := by
  induction steps generalizing s earlier with
  | nil => rfl
  | cons step steps ih => exact congrArg ((s.step step).2 :: ·) (ih _ _)

/-! ### Steps that concern tracing -/

/-- Whatever the logger writes, it signs. -/
theorem filter_loggerWrites (t : Tracing) :
    t.loggerWrites.filter ErrnoWrite.isOutsideTracing = [] := by
  unfold Tracing.loggerWrites
  split
  · cases t.log.errno <;> rfl
  · rfl

/-- What a step that concerns tracing writes is gone without it. -/
theorem filter_writes_of_concernsTracing {step : Step} (h : step.concernsTracing = true) :
    (s.writes step).filter ErrnoWrite.isOutsideTracing = [] := by
  -- What such a step writes is written by the logger, and only with the record of a callback.
  cases step with
  | setHook hook =>
    rw [writes_setHook]
    rfl
  | installCallback errno =>
    unfold writes
    split
    · rfl
    · exact filter_loggerWrites s.tracing
  | removeCallback =>
    unfold writes
    split
    · rfl
    · exact filter_loggerWrites s.tracing
  | hasObserver => rfl
  | setLog log => rfl
  | _ => cases h

/-! ### The other steps -/

/-- All that the other steps write stays. -/
theorem filter_writes_of_not_concernsTracing {step : Step} (h : step.concernsTracing = false) :
    (s.writes step).filter ErrnoWrite.isOutsideTracing = s.writes step := by
  rw [List.filter_eq_self]
  intro write hwrite
  -- Other steps write the faults of their calls, and what the caller restores.
  induction step using Step.by_deed s.tracing.panic s.world.host with
  | deed step deed hdeed =>
    rw [writes_of_deed hdeed] at hwrite
    split at hwrite
    · exact absurd hwrite List.not_mem_nil
    · obtain ⟨e, -, rfl⟩ := List.mem_map.mp hwrite
      rfl
  | restore e =>
    obtain rfl := List.mem_singleton.mp hwrite
    rfl
  | check d => exact absurd hwrite List.not_mem_nil
  | checkResult result => exact absurd hwrite List.not_mem_nil
  | last => exact absurd hwrite List.not_mem_nil
  | change c => exact absurd hwrite List.not_mem_nil
  | _ => cases h

theorem entriesOf_off (w : World) (calls : List SystemCall) :
    Tracing.off.entriesOf w calls = [] := by
  induction calls generalizing w with
  | nil => rfl
  | cons call calls ih => exact ih (w.after call)

/-- Without tracing the other steps make no entries. -/
theorem entries_of_off {step : Step} (hoff : p.tracing = .off) (h : step.concernsTracing = false) :
    (p.step step).2.entries = [] := by
  induction step using Step.by_deed p.tracing.panic p.world.host with
  | deed step deed hdeed =>
    rw [step_of_deed hdeed, settle, hoff, entriesOf_off, ite_self]
  | setHook hook => cases h
  | installCallback errno => cases h
  | removeCallback => cases h
  | _ => rfl

/-- **A step that does not panic agrees with the same step without tracing.** -/
theorem agree_of_off {step : Step} (hhost : p.world.host = s.world.host) (hoff : p.tracing = .off)
    (hcalm : (s.step step).2.reply.isPanic = false) (h : step.concernsTracing = false) :
    Agree s p step := by
  have hpanic : p.tracing.panic = none := by rw [hoff]; rfl
  refine agree step hhost ?_ fun hconcerns => by rw [h] at hconcerns; cases hconcerns
  rw [hpanic, hhost]
  -- The deed is made where the observer may panic, so it has to be the calm one.
  cases hdeed : step.deed? s.tracing.panic s.world.host with
  | some deed =>
    rw [step_of_deed hdeed] at hcalm
    exact Step.deed?_of_calm hdeed hcalm
  | none =>
    induction step using Step.by_deed s.tracing.panic s.world.host with
    | deed step deed hsome => cases hdeed.symm.trans hsome
    | _ => rfl

/-! ### The simulation -/

/-- The invariant of the two runs: `p` stands where `s` stands, without tracing, and `earlier` was
written to errno in the run that led to `s`. -/
structure Untraces (s p : Session) (earlier : List ErrnoWrite) : Prop where
  host : p.world.host = s.world.host
  tracing : p.tracing = .off
  traced : s.world.errno = ErrnoWrite.last .success earlier
  errno : p.world.errno = ErrnoWrite.last .success (earlier.filter ErrnoWrite.isOutsideTracing)

namespace Untraces

variable {earlier : List ErrnoWrite} {step : Step}

/-- A step that concerns tracing is made with tracing only. -/
theorem skip (inv : Untraces s p earlier) (h : step.concernsTracing = true) :
    Untraces (s.step step).1 p (earlier ++ s.writes step) where
  host := inv.host.trans (host_step_of_concernsTracing h).symm
  tracing := inv.tracing
  traced := by rw [errno_step, last_append, inv.traced]
  errno := by
    rw [List.filter_append, filter_writes_of_concernsTracing h, List.append_nil]
    exact inv.errno

/-- Any other step is made in both runs. -/
theorem keep (inv : Untraces s p earlier) (hcalm : (s.step step).2.reply.isPanic = false)
    (h : step.concernsTracing = false) :
    Untraces (s.step step).1 (p.step step).1 (earlier ++ s.writes step) where
  host := (agree_of_off inv.host inv.tracing hcalm h).host
  tracing := by
    rw [tracing_step, Step.retrace_of_concernsTracing h]
    exact inv.tracing
  traced := by rw [errno_step, last_append, inv.traced]
  errno := by
    have hagree := agree_of_off inv.host inv.tracing hcalm h
    rw [List.filter_append, filter_writes_of_not_concernsTracing h, errno_step, hagree.writes,
      last_append, inv.errno]

/-- The two answers to such a step match. -/
theorem answers_match (inv : Untraces s p earlier) (hcalm : (s.step step).2.reply.isPanic = false)
    (h : step.concernsTracing = false) :
    Report.Matches ⟨step, (s.step step).2, earlier ++ s.writes step⟩ (p.step step).2 := by
  have hagree := agree_of_off inv.host inv.tracing hcalm h
  have hself : (s.step step).2.Agrees (s.step step).2 :=
    (agree step rfl rfl fun _ => rfl : Agree s s step).answer
  have hentries := entries_of_off inv.tracing h
  have hnext := inv.keep hcalm h
  refine ⟨hentries, hagree.answer, fun hlogger => ?_⟩
  -- Both errnos are last writes, and the logger's are not the last.
  have herrno : (p.step step).2.errno = (s.step step).2.errno := by
    rw [errno_answer, errno_answer, hnext.errno, hnext.traced]
    refine ErrnoWrite.last_filter .success fun write hwrite => ?_
    rw [Report.showsLogger, hwrite] at hlogger
    simpa using hlogger
  have hreply : (p.step step).2.reply = (s.step step).2.reply := by
    rw [hagree.answer, herrno]
    exact hself.symm
  calc (p.step step).2
      = ⟨(p.step step).2.reply, (p.step step).2.errno, (p.step step).2.entries⟩ := rfl
    _ = ⟨(s.step step).2.reply, (s.step step).2.errno, []⟩ := by rw [hreply, herrno, hentries]

end Untraces

/-! ### Runs -/

/-- The steps of a run that do not concern tracing. -/
def untraced (steps : List Step) : List Step := steps.filter fun step => !step.concernsTracing

/-- **The two runs go side by side.** -/
theorem reports_untraced (steps : List Step) {earlier : List ErrnoWrite}
    (inv : Untraces s p earlier)
    (hcalm : ∀ report ∈ s.reports earlier steps, report.answer.reply.isPanic = false) :
    (p.run (untraced steps)).1.world.host = (s.run steps).1.world.host ∧
    List.Forall₂ Report.Matches
      ((s.reports earlier steps).filter fun r => !r.step.concernsTracing)
      (p.run (untraced steps)).2 := by
  -- By induction on the traced run. `Untraces` carries it: the hosts are the same, and in each run
  -- errno holds the last of its own writes.
  induction steps generalizing s p earlier with
  | nil => exact ⟨inv.host, .nil⟩
  | cons step steps ih =>
    obtain ⟨hfirst, hothers⟩ := List.forall_mem_cons.mp hcalm
    cases h : step.concernsTracing with
    | true =>
      -- Only the traced session moves.
      obtain ⟨hhost, hanswers⟩ := ih (inv.skip h) hothers
      have hskip : untraced (step :: steps) = untraced steps := by
        rw [untraced, List.filter_cons_of_neg (by rw [h]; rintro ⟨⟩), untraced]
      rw [hskip, reports, List.filter_cons_of_neg (by rw [h]; rintro ⟨⟩)]
      exact ⟨hhost, hanswers⟩
    | false =>
      -- Both sessions move, and give one answer each.
      obtain ⟨hhost, hanswers⟩ := ih (inv.keep hfirst h) hothers
      have hkeep : untraced (step :: steps) = step :: untraced steps := by
        rw [untraced, List.filter_cons_of_pos (by rw [h]; rfl), untraced]
      rw [hkeep, reports, List.filter_cons_of_pos (by rw [h]; rfl)]
      exact ⟨hhost, .cons (inv.answers_match hfirst h) hanswers⟩

/-- **Tracing is transparent.** Of a run in which nothing panics take out the steps that concern
tracing, and start without: the host ends up the same, and each answer matches its report. It has no
entries, and differs in errno only as long as the logger was the last to write there, outside any
call. -/
theorem run_untraced (changes : List Change) (steps : List Step)
    (hcalm : ∀ answer ∈ ((prepared changes).run steps).2, answer.reply.isPanic = false) :
    ((prepared changes).run (untraced steps)).1.world.host
      = ((prepared changes).run steps).1.world.host ∧
    List.Forall₂ Report.Matches
      (((prepared changes).reports [] steps).filter fun r => !r.step.concernsTracing)
      ((prepared changes).run (untraced steps)).2 := by
  have hstart : Untraces (prepared changes) (prepared changes) [] := ⟨rfl, rfl, rfl, rfl⟩
  refine reports_untraced steps hstart ?_
  intro report hreport
  have hanswer : report.answer ∈ ((prepared changes).run steps).2 := by
    rw [← map_answer_reports (prepared changes) [] steps]
    exact List.mem_map_of_mem hreport
  exact hcalm report.answer hanswer

/-- A run with all that tracing can do short of a panic: a nesting hook and a logger that both write
to errno, then a callback in place of the hook, whose record is seen in errno. -/
def busySteps : List Step :=
  [.setLog ⟨.trace, some ⟨71⟩⟩,
    .setHook (some ⟨"first", some ⟨72⟩, true, none, none⟩),
    .openFile (.bytes (ascii "notes")),
    .read .buffer ⟨0⟩ 2 .full,
    .installCallback (some ⟨73⟩),
    .last,
    .stream (.toEnd []) ⟨0⟩ [.interrupted],
    .read (.c .null) ⟨9⟩ 4 .full,
    .last,
    .closeByC ⟨0⟩]

theorem run_untraced_busySteps :
    (∀ answer ∈ ((prepared [.file (ascii "notes") (ascii "hello")]).run busySteps).2,
      answer.reply.isPanic = false) ∧
    ((prepared [.file (ascii "notes") (ascii "hello")]).run (untraced busySteps)).1.world.host
      = ((prepared [.file (ascii "notes") (ascii "hello")]).run busySteps).1.world.host ∧
    List.Forall₂ Report.Matches
      (((prepared [.file (ascii "notes") (ascii "hello")]).reports [] busySteps).filter
        fun r => !r.step.concernsTracing)
      ((prepared [.file (ascii "notes") (ascii "hello")]).run (untraced busySteps)).2 :=
  ⟨by decide, run_untraced [.file (ascii "notes") (ascii "hello")] busySteps (by decide)⟩

end Session

end TracedPipe
