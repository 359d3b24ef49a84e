import TracedPipe.Proofs.Host.Queues
import TracedPipe.Proofs.Session.Lifecycle
import TracedPipe.Proofs.Stream.Gathered

/-!
# Streams of FIFOs

All that have a FIFO open read from one queue. As long as some end of it is open, the bytes that its
reads have handed over, one read after another and whoever made them, and the bytes that are still
in the queue are together the bytes that were written: none is lost, none comes twice, and none
overtakes another.

Two accounts are kept of a run: the reads that were made through descriptors on the FIFO
(`Session.readsFrom`), and the bytes that were written into it (`Session.writtenTo`). One step keeps
them in balance (`Session.balance_step`), and so does a run (`Session.balance_run`, by induction on
the steps). What a form of a read shows is what its calls took.

Main statement: `Session.fifo_streams`.
-/

namespace TracedPipe

/-- The bytes that a step writes into a FIFO. -/
def Step.written (host : Host) (id : NodeId) : Step → Bytes
  | .change c => c.written host id
  | _ => []

namespace Session

/-! ### The accounts of a run -/

/-- **The reads of a run that go through descriptors open on a node,** in their order. -/
def readsFrom (s : Session) (id : NodeId) : List Step → List SystemCall
  | [] => []
  | step :: steps =>
    (if (step.reads?.bind s.file?).map OpenFile.node = some id then s.calls step else []) ++
      (s.step step).1.readsFrom id steps

/-- **The bytes that a run writes into a FIFO,** in their order. -/
def writtenTo (s : Session) (id : NodeId) : List Step → Bytes
  | [] => []
  | step :: steps => step.written s.world.host id ++ (s.step step).1.writtenTo id steps

/-- Whether some end of a FIFO is open after each step of a run. -/
def staysOpen (s : Session) (id : NodeId) : List Step → Bool
  | [] => true
  | step :: steps =>
    (s.step step).1.world.host.hasEnd id && (s.step step).1.staysOpen id steps

variable {s : Session} {id : NodeId} {queue : Bytes}

/-- The reads of one step are a row of reads through a descriptor on the node, or there are none. -/
theorem readsFrom_cases (s : Session) (id : NodeId) (step : Step) :
    s.readsFrom id [step] = [] ∨ ∃ d, step.reads? = some d ∧
      (s.file? d).map OpenFile.node = some id ∧ s.readsFrom id [step] = s.calls step := by
  have hsingle : s.readsFrom id [step]
      = if (step.reads?.bind s.file?).map OpenFile.node = some id then s.calls step else [] :=
    List.append_nil _
  rw [hsingle]
  cases hreads : step.reads? with
  | none => exact .inl rfl
  | some d =>
    rw [Option.bind_some]
    by_cases hnode : (s.file? d).map OpenFile.node = some id
    · exact .inr ⟨d, rfl, hnode, if_pos hnode⟩
    · exact .inl (if_neg hnode)

theorem readsFrom_cons (s : Session) (id : NodeId) (step : Step) (steps : List Step) :
    s.readsFrom id (step :: steps)
      = s.readsFrom id [step] ++ (s.step step).1.readsFrom id steps := by
  rw [readsFrom, readsFrom, readsFrom, List.append_nil]

/-! ### The accounts balance -/

/-- A step that reads nothing leaves in the queue what was there, and what it writes. -/
theorem queue_act (h : s.world.host.HasQueue id queue) (step : Step)
    (hend : (step.act s.world.host).hasEnd id = true) :
    (step.act s.world.host).HasQueue id (queue ++ step.written s.world.host id) := by
  -- Only a change from outside writes to the FIFO. A close of the last end would empty it, and
  -- `hend` says that an end is left.
  have hnothing {after : Host} (hafter : after.HasQueue id queue) :
      after.HasQueue id (queue ++ []) := by rwa [List.append_nil]
  cases step with
  | openFile form =>
    rw [Step.act] at hend ⊢
    refine hnothing ?_
    cases form.path with
    | error fault => exact h
    | ok path => exact h.opening path
  | close d => exact hnothing (h.closing d hend)
  | closeByC d => exact hnothing (h.closing d hend)
  | change c => exact h.apply c hend
  | _ => exact hnothing h

/-- **One step keeps the accounts in balance:** what its reads take comes off the front of the
queue, and what it writes is added at the back. -/
theorem balance_step (h : s.world.host.HasQueue id queue) (step : Step)
    (hend : (s.step step).1.world.host.hasEnd id = true) :
    ∃ left, (s.step step).1.world.host.HasQueue id left ∧
      (s.readsFrom id [step]).flatMap SystemCall.data ++ left
        = queue ++ step.written s.world.host id := by
  cases hreads : step.reads? with
  | some d =>
    obtain ⟨hrow, hhost⟩ := s.calls_of_reads step hreads
    -- A step that reads writes nothing.
    have hwritten : step.written s.world.host id = [] := by
      cases step <;> first | rfl | cases hreads
    rw [hhost, hwritten, List.append_nil]
    -- Only reads through a descriptor on the FIFO are on its account; others leave it alone.
    by_cases hd : (s.file? d).map OpenFile.node = some id
    · obtain ⟨left, htaken, hleft⟩ := hrow.taken h hd
      refine ⟨left, hleft, ?_⟩
      rw [readsFrom, readsFrom, List.append_nil, hreads, Option.bind_some, if_pos hd]
      exact htaken
    · refine ⟨queue, (hrow.nodes_of_ne hd).trans h, ?_⟩
      rw [readsFrom, readsFrom, List.append_nil, hreads, Option.bind_some, if_neg hd]
      rfl
  | none =>
    have hhost := s.host_step step hreads
    rw [hhost] at hend
    refine ⟨queue ++ step.written s.world.host id, ?_, ?_⟩
    · rw [hhost]
      exact queue_act h step hend
    · rw [readsFrom, readsFrom, List.append_nil, hreads, Option.bind_none]
      rfl

/-- **A run keeps the accounts in balance,** as long as an end of the FIFO is open. -/
theorem balance_run (h : s.world.host.HasQueue id queue) (steps : List Step)
    (hopen : s.staysOpen id steps = true) :
    ∃ left, (s.run steps).1.world.host.HasQueue id left ∧
      (s.readsFrom id steps).flatMap SystemCall.data ++ left = queue ++ s.writtenTo id steps := by
  -- By induction on the run, with the balance of one step: what was read and what is left are what
  -- was there and what was written.
  induction steps generalizing s queue with
  | nil => exact ⟨queue, h, (List.append_nil queue).symm⟩
  | cons step steps ih =>
    rw [staysOpen, Bool.and_eq_true] at hopen
    obtain ⟨rest, hrest, hstep⟩ := balance_step h step hopen.1
    obtain ⟨left, hleft, hsteps⟩ := ih hrest hopen.2
    refine ⟨left, hleft, ?_⟩
    -- What the first step left in the queue is where the account of the others begins.
    rw [readsFrom_cons, writtenTo, List.flatMap_append]
    calc (s.readsFrom id [step]).flatMap SystemCall.data
          ++ ((s.step step).1.readsFrom id steps).flatMap SystemCall.data ++ left
        = (s.readsFrom id [step]).flatMap SystemCall.data
          ++ (rest ++ (s.step step).1.writtenTo id steps) := by rw [List.append_assoc, hsteps]
      _ = queue ++ (step.written s.world.host id ++ (s.step step).1.writtenTo id steps) := by
        rw [← List.append_assoc, hstep, List.append_assoc]

/-- No read of a run that failed has taken anything. -/
theorem data_of_fault_readsFrom (steps : List Step) {call : SystemCall}
    (hcall : call ∈ s.readsFrom id steps) (hfault : call.fault ≠ none) : call.data = [] := by
  induction steps generalizing s with
  | nil => exact absurd hcall List.not_mem_nil
  | cons step steps ih =>
    rw [readsFrom_cons, List.mem_append] at hcall
    rcases hcall with hfirst | hothers
    · rcases s.readsFrom_cases id step with hnone | ⟨d, hreads, -, hsome⟩
      · rw [hnone] at hfirst
        exact absurd hfirst List.not_mem_nil
      · rw [hsome] at hfirst
        exact (s.calls_of_reads step hreads).1.data_of_fault hfirst hfault
    · exact ih hothers

/-- If one of the reads of a step asked for bytes and got none, there is no writer, and the step has
taken all that was in the queue. -/
theorem drained_step (h : s.world.host.HasQueue id queue) (step : Step) {call : SystemCall}
    (hcall : call ∈ s.readsFrom id [step]) {d : Descriptor} {count : Nat} (hcount : 0 < count)
    (hevent : call.event = .read d count 0) :
    s.world.host.hasWriter id = false ∧
      (s.readsFrom id [step]).flatMap SystemCall.data = queue := by
  rcases s.readsFrom_cases id step with hnone | ⟨other, hreads, hnode, hsome⟩
  · rw [hnone] at hcall
    exact absurd hcall List.not_mem_nil
  · rw [hsome] at hcall ⊢
    exact (s.calls_of_reads step hreads).1.drained h hnode hcall hcount hevent

/-! ### What the caller gets -/

/-- The reply to a read shows the result and the data of its call. -/
theorem reply_read (s : Session) (form : ReadForm) (d : Descriptor) (count : Nat) (pace : Pace) :
    ∃ call, s.calls (.read form d count pace) = [call] ∧
      (s.step (.read form d count pace)).2.reply
        = s.tracing.shown (readReply form count ⟨call.result, call.data⟩) := by
  obtain ⟨hcalls, -, hreply, -⟩ := s.step_of_call (.read form d count pace) rfl rfl
  rw [form.returned_reading] at hreply
  exact ⟨_, hcalls, hreply⟩

/-- The data that a reading replies with are those of its calls. -/
theorem reply_stream {reading : Reading} {d : Descriptor} {paces : List Pace}
    {outcome : Except StreamError Nat} {data : Bytes}
    (h : (s.step (.stream reading d paces)).2.reply = .stream outcome data) :
    data = reading.given ((s.calls (.stream reading d paces)).flatMap SystemCall.data) := by
  have hreply : ((reading.passage s.tracing.panic s.world.host d paces).ending.reply
      (reading.passage s.tracing.panic s.world.host d paces).data) = .stream outcome data := by
    rw [← h, step_of_deed rfl]
    rfl
  have hcalls : s.calls (.stream reading d paces)
      = (reading.passage s.tracing.panic s.world.host d paces).calls := rfl
  rw [hcalls]
  -- Only a reading that is done shows bytes.
  cases hending : (reading.passage s.tracing.panic s.world.host d paces).ending with
  | done result =>
    rw [hending] at hreply
    obtain ⟨-, hdata⟩ := Reply.stream.inj hreply
    rw [← hdata]
    exact Reading.data_passage (by rw [hending]; rfl)
  | panicked message =>
    rw [hending] at hreply
    cases hreply
  | never =>
    rw [hending] at hreply
    cases hreply

/-- **FIFOs preserve the stream.** Let a FIFO have some bytes in its queue, and let any steps follow
that leave some end of it open all along. Then

* the bytes that its reads have handed over, in the order of the reads and through whatever
  descriptors, and the bytes that are left in the queue are together the bytes of the queue at first
  and all that was written since, in this order;
* a read that failed has taken none of them;
* the next read gets the front of what is left, or waits or fails as `Host.handed` says;
* if a read asks for bytes in the next step and gets none, then there is no writer, and with what
  this step has taken, everything that was written has been handed over;
* the caller gets what the calls took, by a read in any form and by a reading in any way. -/
theorem fifo_streams (s : Session) {id : NodeId} {queue : Bytes}
    (hqueue : s.world.host.HasQueue id queue) (steps : List Step)
    (hopen : s.staysOpen id steps = true) :
    let now := (s.run steps).1
    let reads := s.readsFrom id steps
    let got := reads.flatMap SystemCall.data
    let written := queue ++ s.writtenTo id steps
    ∃ left, (now.world.host.HasQueue id left ∧ got ++ left = written) ∧
      (∀ call ∈ reads, call.fault ≠ none → call.data = []) ∧
      (∀ (d : Descriptor) (count : Nat) (destination : Destination) (pace : Pace),
        (now.file? d).map OpenFile.node = some id →
        (now.world.host.reading d count destination pace).sight = .ofServed d count
          (Host.handed left (now.world.host.hasWriter id) count destination pace)) ∧
      (∀ (step : Step) (call : SystemCall) (d : Descriptor) (count : Nat),
        call ∈ now.readsFrom id [step] → 0 < count → call.event = .read d count 0 →
        now.world.host.hasWriter id = false ∧
          got ++ (now.readsFrom id [step]).flatMap SystemCall.data = written) ∧
      (∀ (form : ReadForm) (d : Descriptor) (count : Nat) (pace : Pace),
        ∃ call, now.calls (.read form d count pace) = [call] ∧
          (now.step (.read form d count pace)).2.reply
            = now.tracing.shown (readReply form count ⟨call.result, call.data⟩)) ∧
      ∀ (reading : Reading) (d : Descriptor) (paces : List Pace)
        (outcome : Except StreamError Nat) (data : Bytes),
        (now.step (.stream reading d paces)).2.reply = .stream outcome data →
        data = reading.given ((now.calls (.stream reading d paces)).flatMap SystemCall.data) := by
  intro now reads got written
  -- The balance of the whole run gives what is left; the rest is said of the session that the run
  -- leads to.
  obtain ⟨left, hleft, hbalance⟩ := balance_run hqueue steps hopen
  refine ⟨left, ⟨hleft, hbalance⟩, ?_, ?_, ?_, ?_, ?_⟩
  · intro call hcall hfault
    exact data_of_fault_readsFrom steps hcall hfault
  · intro d count destination pace hnode
    obtain ⟨file, hfile, rfl⟩ := Option.map_eq_some_iff.mp hnode
    exact Host.sight_reading_of_fifo hfile hleft count destination pace
  · -- A read that was asked for bytes and brought none says that nothing is left and nobody writes,
    -- so the balance is exhausted.
    intro step call d count hcall hcount hevent
    obtain ⟨hwriter, htaken⟩ := drained_step hleft step hcall hcount hevent
    refine ⟨hwriter, ?_⟩
    rw [htaken]
    exact hbalance
  · -- What the caller is shown of a read, by a call or by an adapter, are the bytes that this
    -- balance counts.
    intro form d count pace
    exact now.reply_read form d count pace
  · intro reading d paces outcome data hreply
    exact reply_stream hreply

/-- A session with a FIFO that has a writer, open on two descriptors. -/
def withPipe : Session :=
  ((prepared [.fifo (ascii "pipe"), .openWriter (ascii "pipe")]).run
    [.openFile (.bytes (ascii "pipe")), .openFile (.c (some (ascii "pipe" ++ [nul])))]).1

/-- Steps in which two readers and a writer share the FIFO, some reads fail, an observer panics for
a while, and the writer goes away. -/
def sharedPipe : List Step :=
  [.change (.write (ascii "pipe") (ascii "hello, ")),
    .read .buffer ⟨0⟩ 3 .full,
    .read (.c .null) ⟨1⟩ 4 .full,
    .change (.append (ascii "pipe") (ascii "wor")),
    .setHook (some ⟨"hook", some ⟨72⟩, true, some "told", none⟩),
    .read (.pointer .memory) ⟨1⟩ 2 .full,
    .setHook none,
    .read (.c .memory) ⟨0⟩ 2 .interrupted,
    .stream (.exactly 4) ⟨1⟩ [.interrupted, .short 0],
    .change (.write (ascii "pipe") (ascii "ld")),
    .change (.closeWriter (ascii "pipe")),
    .close ⟨1⟩]

theorem fifo_streams_sharedPipe :
    (withPipe.world.host.HasQueue 7 [] ∧ withPipe.staysOpen 7 sharedPipe = true) ∧
    (∃ left, (withPipe.run sharedPipe).1.world.host.HasQueue 7 left ∧
      (withPipe.readsFrom 7 sharedPipe).flatMap SystemCall.data ++ left = ascii "hello, world") ∧
    (withPipe.readsFrom 7 sharedPipe).flatMap SystemCall.data = ascii "hello, wo" ∧
    ((withPipe.run sharedPipe).1.world.host.hasWriter 7 = false ∧
      (withPipe.readsFrom 7 sharedPipe).flatMap SystemCall.data
        ++ ((withPipe.run sharedPipe).1.readsFrom 7 [.stream (.toEnd []) ⟨0⟩ []]).flatMap
          SystemCall.data = ascii "hello, world") := by
  have hqueue : withPipe.world.host.HasQueue 7 [] :=
    (by decide : withPipe.world.host.nodes[7]? = some (.fifo []))
  have hopen : withPipe.staysOpen 7 sharedPipe = true := by decide
  have hwritten : withPipe.writtenTo 7 sharedPipe = ascii "hello, world" := by decide
  obtain ⟨left, hbalance, -, -, hend, -, -⟩ := fifo_streams withPipe hqueue sharedPipe hopen
  rw [hwritten] at hbalance hend
  -- The reading to the end makes two reads, and the second of them finds nothing.
  have hlast : ∃ call ∈ (withPipe.run sharedPipe).1.readsFrom 7 [.stream (.toEnd []) ⟨0⟩ []],
      call.event = .read ⟨0⟩ 8192 0 := by decide
  obtain ⟨call, hcall, hevent⟩ := hlast
  have hdrained := hend _ call ⟨0⟩ 8192 hcall (by decide) hevent
  exact ⟨⟨hqueue, hopen⟩, ⟨left, hbalance⟩, by decide, hdrained⟩

end Session

end TracedPipe
