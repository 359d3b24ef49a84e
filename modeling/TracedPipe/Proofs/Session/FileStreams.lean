import TracedPipe.Proofs.Session.Lifecycle
import TracedPipe.Proofs.Session.Trail
import TracedPipe.Proofs.Stream.Gathered

/-!
# Reading files

What is read of a regular file, and why other reads have no part in it.

Main statement: `Session.file_streams`.
-/

namespace TracedPipe

/-!
## Runs with reads left out

What if some of the reads of a run had not been made? Then positions and queues differ, and so does
errno, but the outline of the host is the same at every point, and so are the settings of tracing
(`Session.SameOutline`). A step that is made in both runs keeps it so, as it does to an outline what
it does to the host; a read that is left out does not show in the outline in the first place.
-/

/-- The second row of steps is the first with some of the steps left out that read descriptors of
the given kind. -/
inductive Step.Thinned (others : Descriptor → Prop) : List Step → List Step → Prop where
  | nil : Thinned others [] []
  | keep (step : Step) {steps thinned : List Step} (h : Thinned others steps thinned) :
      Thinned others (step :: steps) (step :: thinned)
  | leave {step : Step} {d : Descriptor} {steps thinned : List Step}
      (hreads : step.reads? = some d) (hd : others d) (h : Thinned others steps thinned) :
      Thinned others (step :: steps) thinned

/-- All reads of the given kind can be left out. -/
theorem Step.Thinned.filter (others : Descriptor → Prop) [DecidablePred others]
    (steps : List Step) :
    Step.Thinned others steps (steps.filter fun step => !step.reads?.any (others ·)) := by
  induction steps with
  | nil => exact .nil
  | cons step steps ih =>
    rw [List.filter_cons]
    cases hreads : step.reads? with
    | none => exact .keep step ih
    | some d =>
      by_cases hd : others d
      · rw [if_neg (by simp [hd])]
        exact .leave hreads hd ih
      · rw [if_pos (by simp [hd])]
        exact .keep step ih

/-- A row of reads does not show in the outline. -/
theorem Host.Reads.outline {host : Host} {d : Descriptor} {paces : List Pace}
    {calls : List SystemCall} (h : host.Reads d paces calls) :
    (host.afterAll calls).outline = host.outline := by
  induction h with
  | nil host => rfl
  | cons _ _ ih => exact ih.trans (Host.outline_reading _ _ _ _ _)

/-- **A step that reads nothing does to an outline what it does to the host.** -/
theorem Step.outline_act (step : Step) (host : Host) :
    (step.act host).outline = (step.act host.outline).outline := by
  cases step with
  | openFile form =>
    rw [act, act]
    cases form.path with
    | error fault => exact host.outline_outline.symm
    | ok path =>
      dsimp only
      rw [Host.opening_outline, Host.outline_outline]
  | close d => exact host.outline_closing d
  | closeByC d => exact host.outline_closing d
  | change c => exact host.outline_apply c
  | _ => exact host.outline_outline.symm

namespace Session

/-- Two sessions that differ in errno, in positions and in the bytes of queues at most. -/
structure SameOutline (s t : Session) : Prop where
  host : s.world.host.outline = t.world.host.outline
  tracing : s.tracing = t.tracing

namespace SameOutline

variable {s t : Session}

theorem refl (s : Session) : s.SameOutline s := ⟨rfl, rfl⟩

/-- A step that is made in both sessions. -/
theorem step (h : s.SameOutline t) (step : Step) : (s.step step).1.SameOutline (t.step step).1 := by
  refine ⟨?_, ?_⟩
  · -- A read shows in neither outline; any other step does the same to both.
    cases hreads : step.reads? with
    | some d =>
      obtain ⟨hs, hshost⟩ := s.calls_of_reads step hreads
      obtain ⟨ht, hthost⟩ := t.calls_of_reads step hreads
      rw [hshost, hthost, hs.outline, ht.outline]
      exact h.host
    | none =>
      rw [s.host_step step hreads, t.host_step step hreads, step.outline_act, h.host,
        ← step.outline_act]
  · rw [tracing_step, tracing_step, h.tracing]

/-- A read that is made in one session only. -/
theorem leave (h : s.SameOutline t) {step : Step} {d : Descriptor} (hreads : step.reads? = some d) :
    (s.step step).1.SameOutline t := by
  obtain ⟨hs, hhost⟩ := s.calls_of_reads step hreads
  refine ⟨?_, ?_⟩
  · rw [hhost, hs.outline]
    exact h.host
  · have htracing : step.retrace s.tracing = s.tracing := by
      cases step <;> first | rfl | cases hreads
    rw [tracing_step, htracing]
    exact h.tracing

/-- **A run and the run with reads left out** lead to the same outline. -/
theorem run (h : s.SameOutline t) {others : Descriptor → Prop} {steps thinned : List Step}
    (hthinned : Step.Thinned others steps thinned) :
    (s.run steps).1.SameOutline (t.run thinned).1 := by
  induction hthinned generalizing s t with
  | nil => exact h
  | keep step _ ih => exact ih (h.step step)
  | leave hreads _ _ ih => exact ih (h.leave hreads)

end SameOutline

end Session

/-!
## Streams of regular files

A descriptor that was opened on a regular file hands over the content from its beginning on, as long
as nobody closes it and the file is left alone, whatever else happens in between. Two accounts lead
there.

* The position of the descriptor is the number of bytes that it has handed over: only its own reads
  move it, and each hands over the piece of the content that follows (`Session.pieces_run`).
* What its reads show depends on the content and on the position alone, so it is the same in a run
  in which other reads are left out (`Session.reads_of_thinned`).
-/

/-- Whether a step leaves a node alone, if it is a change from outside. -/
def Step.keeps (host : Host) (id : NodeId) : Step → Bool
  | .change c => (host.apply c).nodes[id]? = host.nodes[id]?
  | _ => true

namespace Session

/-! ### What a run shows of a descriptor -/

/-- What is seen of the calls of those steps of a run that read a descriptor. -/
def readsOf (s : Session) (d : Descriptor) : List Step → List Sight
  | [] => []
  | step :: steps =>
    (if step.reads? = some d then (s.calls step).map SystemCall.sight else []) ++
      (s.step step).1.readsOf d steps

/-- The replies to those steps of a run that read a descriptor. -/
def repliesOf (s : Session) (d : Descriptor) : List Step → List Reply
  | [] => []
  | step :: steps =>
    (if step.reads? = some d then [(s.step step).2.reply] else []) ++
      (s.step step).1.repliesOf d steps

/-- Whether the changes from outside in a run leave a node alone. -/
def keeps (s : Session) (id : NodeId) : List Step → Bool
  | [] => true
  | step :: steps => step.keeps s.world.host id && (s.step step).1.keeps id steps

variable {s t : Session} {d : Descriptor} {id : NodeId} {position : Nat} {content : Bytes}

/-! ### One step -/

/-- The file of a descriptor after a step that neither reads nor closes it. -/
theorem file?_step_of_others {file : OpenFile} (h : s.file? d = some file) (step : Step)
    (hreads : step.reads? ≠ some d) (hcloses : step.closes? ≠ some d) :
    (s.step step).1.file? d = some file := by
  rcases s.file?_step_cases step d with hsame | ⟨hfree, -⟩ | ⟨hclosed, -⟩ | ⟨hread, -⟩
  · rw [hsame, h]
  · rw [hfree] at h
    cases h
  · exact absurd hclosed hcloses
  · exact absurd hread hreads

/-- A regular file keeps its content in a step that is no change of it from outside. -/
theorem node_step_of_file (h : s.world.host.nodes[id]? = some (.file content)) (step : Step)
    (hkeeps : step.keeps s.world.host id = true) :
    (s.step step).1.world.host.nodes[id]? = some (.file content) := by
  -- A file is written to from outside only; what opens, reads and closes leaves its content.
  induction step using s.by_calls with
  | opening step path _ hhost =>
    rw [hhost]
    exact Host.node_opening_of_file h path
  | reading step other _ hcalls hhost =>
    rw [hhost]
    exact hcalls.node_of_file h
  | closing step other _ _ hhost =>
    rw [hhost]
    exact Host.node_closing_of_file h other
  | change c =>
    exact (of_decide_eq_true hkeeps).trans h
  | quiet step _ hhost =>
    rw [hhost]
    exact h

/-- A descriptor stays where it is in its file in a step that neither reads nor closes it. -/
theorem onFile_step_of_others (h : s.world.host.OnFile d id position content) (step : Step)
    (hreads : step.reads? ≠ some d) (hcloses : step.closes? ≠ some d)
    (hkeeps : step.keeps s.world.host id = true) :
    (s.step step).1.world.host.OnFile d id position content :=
  ⟨file?_step_of_others h.lookup step hreads hcloses, node_step_of_file h.node step hkeeps⟩

/-- A step that reads a descriptor hands over the next pieces of its file. -/
theorem pieces_step (h : s.world.host.OnFile d id position content) {step : Step}
    (hreads : step.reads? = some d) (allowed : Pace → Prop)
    (hpaces : ∀ pace ∈ step.paces, allowed pace) (hfull : allowed .full) :
    (s.step step).1.world.host.OnFile d id
        (position + (Sight.delivered ((s.calls step).map SystemCall.sight)).length) content ∧
      Host.Pieces d content allowed position ((s.calls step).map SystemCall.sight) := by
  obtain ⟨hcalls, hhost⟩ := s.calls_of_reads step hreads
  rw [hhost]
  exact hcalls.pieces h allowed hpaces hfull

/-- **Sessions that agree about a file see the same of a step that reads it.** -/
theorem step_of_file (hs : s.world.host.OnFile d id position content)
    (ht : t.world.host.OnFile d id position content) (htracing : s.tracing = t.tracing)
    {step : Step}
    (hreads : step.reads? = some d) :
    (s.step step).2.reply = (t.step step).2.reply ∧
      (s.calls step).map SystemCall.sight = (t.calls step).map SystemCall.sight := by
  cases step with
  | read form given count pace =>
    obtain rfl := Option.some.inj hreads
    have hsight := hs.sight_reading ht count form.destination pace
    have hresult : (s.world.host.reading given count form.destination pace).result
        = (t.world.host.reading given count form.destination pace).result :=
      congrArg Sight.result hsight
    have hdata : (s.world.host.reading given count form.destination pace).data
        = (t.world.host.reading given count form.destination pace).data :=
      congrArg Sight.data hsight
    -- The reply is made of what the call showed, so it is the same as well.
    obtain ⟨hscalls, -, hsreply, -⟩ := s.step_of_call (.read form given count pace) rfl rfl
    obtain ⟨htcalls, -, htreply, -⟩ := t.step_of_call (.read form given count pace) rfl rfl
    refine ⟨?_, ?_⟩
    · rw [hsreply, htreply, htracing, hresult, hdata]
    · rw [hscalls, htcalls, List.map_singleton, List.map_singleton, hsight]
  | stream way given paces =>
    obtain rfl := Option.some.inj hreads
    -- A reading sees what its reads show and nothing else, and it makes them of the same file.
    have hseen := way.passage_of_file hs ht s.tracing.panic paces
    simp only [Passage.seen, Prod.mk.injEq] at hseen
    obtain ⟨hcalls, hdata, hending⟩ := hseen
    have hsdeed : (Step.stream way given paces).deed? s.tracing.panic s.world.host = some _ := rfl
    have htdeed : (Step.stream way given paces).deed? t.tracing.panic t.world.host = some _ := rfl
    obtain ⟨hscalls, -⟩ := s.calls_of_deed _ hsdeed
    obtain ⟨htcalls, -⟩ := t.calls_of_deed _ htdeed
    refine ⟨?_, ?_⟩
    · rw [step_of_deed hsdeed, step_of_deed htdeed, ← htracing, settle, settle]
      dsimp only
      rw [hdata, hending]
    · rw [hscalls, htcalls, ← htracing]
      exact hcalls
  | _ => cases hreads

/-! ### Whole runs -/

/-- **A run hands over consecutive pieces of a file,** and the descriptor has moved on by as
much. -/
theorem pieces_run (h : s.world.host.OnFile d id position content) (steps : List Step)
    (hcloses : ∀ step ∈ steps, step.closes? ≠ some d) (hkeeps : s.keeps id steps = true)
    (allowed : Pace → Prop)
    (hpaces : ∀ step ∈ steps, step.reads? = some d → ∀ pace ∈ step.paces, allowed pace)
    (hfull : allowed .full) :
    (s.run steps).1.world.host.OnFile d id
        (position + (Sight.delivered (s.readsOf d steps)).length) content ∧
      Host.Pieces d content allowed position (s.readsOf d steps) := by
  -- By induction on the run; what carries it is that the descriptor stays on the file, at the
  -- position that the reads so far have reached.
  induction steps generalizing s position with
  | nil => exact ⟨h, .nil position⟩
  | cons step steps ih =>
    rw [List.forall_mem_cons] at hcloses hpaces
    rw [keeps, Bool.and_eq_true] at hkeeps
    rw [readsOf, run]
    by_cases hreads : step.reads? = some d
    · -- The rest of the run starts where this step leaves the position.
      obtain ⟨hfirst, hpieces⟩ := pieces_step h hreads allowed (hpaces.1 hreads) hfull
      obtain ⟨hrest, hothers⟩ := ih hfirst hcloses.2 hkeeps.2 hpaces.2
      rw [if_pos hreads, Sight.delivered_append, List.length_append, ← Nat.add_assoc]
      exact ⟨hrest, hpieces.append hothers⟩
    · -- Other steps leave this descriptor where it is.
      have hfirst := onFile_step_of_others h step hreads hcloses.1 hkeeps.1
      rw [if_neg hreads, List.nil_append]
      exact ih hfirst hcloses.2 hkeeps.2 hpaces.2

/-- **Reads of other descriptors can be left out:** the reads of this one show the same. -/
theorem reads_of_thinned (hsame : s.SameOutline t) (hs : s.world.host.OnFile d id position content)
    (ht : t.world.host.OnFile d id position content) {steps thinned : List Step}
    (hthinned : Step.Thinned (· ≠ d) steps thinned)
    (hcloses : ∀ step ∈ steps, step.closes? ≠ some d) (hkeeps : s.keeps id steps = true) :
    s.readsOf d steps = t.readsOf d thinned ∧ s.repliesOf d steps = t.repliesOf d thinned := by
  -- Both sessions have the same outline throughout, and both stand at the same place of the file.
  induction hthinned generalizing s t position with
  | nil => exact ⟨rfl, rfl⟩
  | @keep step steps thinned _ ih =>
    rw [List.forall_mem_cons] at hcloses
    rw [keeps, Bool.and_eq_true] at hkeeps
    rw [readsOf, readsOf, repliesOf, repliesOf]
    have hnext := hsame.step step
    by_cases hreads : step.reads? = some d
    · -- A read of the descriptor shows the same in both runs, and moves both positions alike.
      obtain ⟨hreply, hcalls⟩ := step_of_file hs ht hsame.tracing hreads
      obtain ⟨hsnext, -⟩ := pieces_step hs hreads (fun _ => True) (fun _ _ => trivial) trivial
      obtain ⟨htnext, -⟩ := pieces_step ht hreads (fun _ => True) (fun _ _ => trivial) trivial
      rw [← hcalls] at htnext
      obtain ⟨hreadsRest, hrepliesRest⟩ := ih hnext hsnext htnext hcloses.2 hkeeps.2
      rw [hreply, hcalls, hreadsRest, hrepliesRest]
      exact ⟨rfl, rfl⟩
    · have hsnext := onFile_step_of_others hs step hreads hcloses.1 hkeeps.1
      -- The other run has the same files after this step, as it has the same outline.
      have htnext : (t.step step).1.world.host.OnFile d id position content :=
        ⟨file?_step_of_others ht.lookup step hreads hcloses.1,
          Host.node_of_outline hnext.host hsnext.node⟩
      simp only [if_neg hreads, List.nil_append]
      exact ih hnext hsnext htnext hcloses.2 hkeeps.2
  | @leave step other steps thinned hother hne _ ih =>
    -- A read of another descriptor was left out. It moves that descriptor alone, so the other run
    -- stays at the same place without it.
    rw [List.forall_mem_cons] at hcloses
    rw [keeps, Bool.and_eq_true] at hkeeps
    have hreads : step.reads? ≠ some d := by
      rw [hother]
      exact fun heq => hne (Option.some.inj heq)
    have hsnext := onFile_step_of_others hs step hreads hcloses.1 hkeeps.1
    rw [readsOf, repliesOf, if_neg hreads, if_neg hreads]
    exact ih (hsame.leave hother) hsnext ht hcloses.2 hkeeps.2

/-! ### The next read -/

/-- **A step reads a file on:** from a position in its content it gets a piece of the given length,
which is all that changes, but for the position, which moves on by as much. -/
structure ReadsOn (s : Session) (step : Step) (d : Descriptor) (id : NodeId) (position n : Nat)
    (reply : Reply) : Prop where
  reply : (s.step step).2.reply = s.tracing.shown reply
  host : (s.step step).1.world.host = { s.world.host with
    table := s.world.host.table.update d ⟨id, position + n⟩ }

variable {count : Nat}

/-- **A read into memory that is not interrupted** puts the next piece of the file to the front of
its buffer, and leaves the rest of the buffer alone. -/
theorem read_of_file (h : s.world.host.OnFile d id position content) {form : ReadForm}
    (hform : form.destination = .memory) (hcount : count ≤ Host.maxTransfer) :
    let n := min count (content.length - position)
    s.ReadsOn (.read form d count .full) d id position n (.read n (some
      ⟨(content.drop position).take n, if count ≤ largestBuffer then some true else none⟩)) := by
  have hreading := h.reading_full hcount
  obtain ⟨-, hhost, hreply, -⟩ := s.step_of_call (.read form d count .full) rfl rfl
  rw [form.returned_reading] at hreply
  rw [hform, hreading] at hreply hhost
  refine ⟨?_, hhost⟩
  rw [hreply, readReply, hform, ReadMemory.ofRead, Buffer.restIntact_eq_true]

/-- **A single read of a stream that is not interrupted** does so too. -/
theorem once_of_file (h : s.world.host.OnFile d id position content) {paces : List Pace}
    (hpaces : paces.headD .full = .full) (hcount : count ≤ Host.maxTransfer) :
    let n := min count (content.length - position)
    s.ReadsOn (.stream (.once count) d paces) d id position n (.stream (.ok n)
      ((content.drop position).take n ++ Buffer.ofSize (count - n))) := by
  have hreading := h.reading_full hcount
  have hlength : ((content.drop position).take (min count (content.length - position))).length
      = min count (content.length - position) := by
    rw [List.length_take, List.length_drop, Nat.min_assoc, Nat.min_self]
  -- The bytes are at the front of the buffer, and what is behind them keeps its filling.
  have hstore : Buffer.store ((content.drop position).take (min count (content.length - position)))
        (Buffer.ofSize count)
      = (content.drop position).take (min count (content.length - position))
        ++ Buffer.ofSize (count - min count (content.length - position)) := by
    rw [Buffer.store, hlength, Buffer.ofSize, List.drop_replicate]
    rfl
  have hdeed : (Step.stream (.once count) d paces).deed? s.tracing.panic s.world.host
      = some _ := rfl
  obtain ⟨-, hhost⟩ := s.calls_of_deed _ hdeed
  -- An observer that panics leaves the read of the host as it was, and hides the reply.
  refine ⟨?_, ?_⟩
  · rw [step_of_deed hdeed, settle, Reading.passage, hpaces, hreading]
    unfold Passage.single Tracing.shown
    cases s.tracing.panic with
    | some message => rfl
    | none =>
      dsimp only [ReadingEnd.reply]
      rw [hlength, hstore]
  · rw [hhost, Reading.passage, hpaces, hreading]
    unfold Passage.single
    cases s.tracing.panic <;> rfl

/-- **A read of nothing, and a read at the end,** give nothing and change nothing. -/
theorem read_nothing_of_file (h : s.world.host.OnFile d id position content) {pace : Pace}
    (hnothing : count = 0 ∨ content.length ≤ position ∧ pace ≠ .interrupted) (form : ReadForm) :
    (s.step (.read form d count pace)).2.reply
        = s.tracing.shown (readReply form count ⟨0, []⟩) ∧
      (s.step (.read form d count pace)).1.world.host = s.world.host := by
  have hreading := h.reading_eq count form.destination pace
  rw [Host.served_nothing hnothing] at hreading
  obtain ⟨-, hhost, hreply, -⟩ := s.step_of_call (.read form d count pace) rfl rfl
  rw [form.returned_reading, hreading] at hreply
  rw [hreading] at hhost
  refine ⟨hreply, ?_⟩
  rw [hhost]
  dsimp only
  rw [List.length_nil, Nat.add_zero, Table.update_self h.lookup]

/-! ### From an open on -/

/-- The lowest descriptor that is free. -/
def nextFree (s : Session) : Descriptor := ⟨s.world.host.table.lowestFree⟩

/-- The path of an open leads to a regular file. -/
structure FindsFile (s : Session) (form : OpenForm) (id : NodeId) (content : Bytes) : Prop where
  path : ∃ path, form.path = .ok (some path) ∧
    Path.resolve s.world.host.nodes s.world.host.scratch path.bytes = .ok id
  node : s.world.host.nodes[id]? = some (.file content)

namespace FindsFile

variable {form : OpenForm}

/-- An open of a regular file takes the lowest free descriptor. -/
theorem opens (h : s.FindsFile form id content) : s.Opens (.openFile form) s.nextFree id := by
  obtain ⟨path, hform, hpath⟩ := h.path
  exact opens_of_opening hform (Host.opening_of_file hpath h.node)

/-- After it the descriptor stands at the beginning of the file. -/
theorem onFile (h : s.FindsFile form id content) :
    (s.step (.openFile form)).1.world.host.OnFile s.nextFree id 0 content := by
  have hfile := h.opens.files s.nextFree
  rw [if_pos rfl] at hfile
  exact ⟨hfile, node_step_of_file h.node (.openFile form) rfl⟩

/-- Reads that were left out do not change where a path leads. -/
theorem of_sameOutline (h : s.FindsFile form id content) (hsame : s.SameOutline t) :
    t.FindsFile form id content := by
  obtain ⟨path, hform, hpath⟩ := h.path
  have hnodes : s.world.host.nodes.outline = t.world.host.nodes.outline :=
    congrArg Host.nodes hsame.host
  have hscratch : s.world.host.scratch = t.world.host.scratch := by
    have hparts := congrArg Host.scratch hsame.host
    exact hparts
  refine ⟨⟨path, hform, ?_⟩, Host.node_of_outline hsame.host h.node⟩
  rw [← Path.resolve_outline, ← hnodes, ← hscratch, Path.resolve_outline]
  exact hpath

end FindsFile

/-- Reads that were left out do not change which descriptor is the next. -/
theorem nextFree_of_sameOutline (hsame : s.SameOutline t) : t.nextFree = s.nextFree := by
  have htable : s.world.host.table.outline = t.world.host.table.outline :=
    congrArg Host.table hsame.host
  unfold nextFree
  rw [← Table.lowestFree_outline, ← htable, Table.lowestFree_outline]

/-- **Streams of regular files are exact and independent.** Let a file be opened after any steps,
and let any steps follow that do not close its descriptor, while no change from outside touches the
file. Then

* the open takes the lowest free descriptor;
* what the descriptor has handed over is the front of the content, and that is where it stands;
* it is as much of it as was asked for, if there is so much and the system did not cut a read short;
* the next read that is not interrupted gives as much as is asked for, as far as there is so much:
  it puts the piece that follows to the front of its buffer and leaves the rest of the buffer alone,
  and nothing else changes but for the position; so does a single read of the stream;
* a read of nothing and a read at the end give nothing and change nothing;
* all that is seen of the reads of the descriptor stays the same if reads of other open files are
  left out, before the open or after it. -/
theorem file_streams (start : Session) (before during : List Step) {form : OpenForm} {id : NodeId}
    {content : Bytes} (hfile : (start.run before).1.FindsFile form id content)
    (hcloses : ∀ step ∈ during, step.closes? ≠ some (start.run before).1.nextFree)
    (hkeeps : ((start.run before).1.step (.openFile form)).1.keeps id during = true) :
    let s := (start.run before).1
    let d := s.nextFree
    let opened := (s.step (.openFile form)).1
    let now := (opened.run during).1
    let reads := opened.readsOf d during
    let got := Sight.delivered reads
    s.Opens (.openFile form) d id ∧
    (now.file? d = some ⟨id, got.length⟩ ∧ got = content.take got.length) ∧
    ((∀ step ∈ during, step.reads? = some d → ∀ n, .short n ∉ step.paces) →
      (∀ sight ∈ reads, sight.requested ≤ Host.maxTransfer) →
      got = content.take (Sight.requestedOf reads)) ∧
    (∀ (way : ReadForm) (count : Nat), way.destination = .memory → count ≤ Host.maxTransfer →
      let n := min count (content.length - got.length)
      now.ReadsOn (.read way d count .full) d id got.length n (.read n (some
        ⟨(content.drop got.length).take n, if count ≤ largestBuffer then some true else none⟩))) ∧
    (∀ (count : Nat) (paces : List Pace), paces.headD .full = .full → count ≤ Host.maxTransfer →
      let n := min count (content.length - got.length)
      now.ReadsOn (.stream (.once count) d paces) d id got.length n (.stream (.ok n)
        ((content.drop got.length).take n ++ Buffer.ofSize (count - n)))) ∧
    (∀ (way : ReadForm) (count : Nat) (pace : Pace),
      (count = 0 ∨ content.length ≤ got.length ∧ pace ≠ .interrupted) →
      (now.step (.read way d count pace)).2.reply = now.tracing.shown (readReply way count ⟨0, []⟩) ∧
      (now.step (.read way d count pace)).1.world.host = now.world.host) ∧
    ∀ before' during' : List Step, Step.Thinned (fun _ => True) before before' →
      Step.Thinned (· ≠ d) during during' →
      let s' := (start.run before').1
      let opened' := (s'.step (.openFile form)).1
      s'.Opens (.openFile form) d id ∧
      opened'.readsOf d during' = reads ∧
      opened'.repliesOf d during' = opened.repliesOf d during := by
  intro s d opened now reads got
  have hopened : opened.world.host.OnFile d id 0 content := hfile.onFile
  -- With no condition on the paces: every read continues where the last one stopped, so what they
  -- brought is a prefix of the file, and the position is its length.
  obtain ⟨hnow, hpieces⟩ := pieces_run hopened during hcloses hkeeps (fun _ => True)
    (fun _ _ _ _ _ => trivial) trivial
  have hgot := hpieces.delivered_eq
  rw [Nat.zero_add] at hnow
  rw [List.drop_zero] at hgot
  refine ⟨hfile.opens, ⟨hnow.lookup, hgot⟩, ?_, ?_, ?_, ?_, ?_⟩
  · intro hpaces hcounts
    -- Reads that are not cut short bring all they ask for while there is any.
    obtain ⟨-, hwhole⟩ := pieces_run hopened during hcloses hkeeps
      (fun pace => ∀ n, pace ≠ .short n)
      (fun step hmem hreads pace hpace n heq => hpaces step hmem hreads n (heq ▸ hpace))
      (by rintro n ⟨⟩)
    have hall := hwhole.delivered_in_full (fun _ hpace => hpace) hcounts
    rwa [List.drop_zero] at hall
  · -- The session is on the file at a known position, which is all that a next read depends on.
    intro way count hway hcount
    exact read_of_file hnow hway hcount
  · intro count paces hpaces hcount
    exact once_of_file hnow hpaces hcount
  · intro way count pace hnothing
    exact read_nothing_of_file hnow hnothing way
  · intro before' during' hbefore hduring s' opened'
    -- Leaving out reads of other descriptors changes no outline, so the open finds the same file
    -- and the same number; the reads of that number are then those of the longer run.
    have hsame : s.SameOutline s' := (SameOutline.refl start).run hbefore
    have hnext : s'.nextFree = d := nextFree_of_sameOutline hsame
    have hfile' := hfile.of_sameOutline hsame
    have hopens' := hfile'.opens
    have hopened' := hfile'.onFile
    rw [hnext] at hopens' hopened'
    obtain ⟨hreads, hreplies⟩ := reads_of_thinned (hsame.step (.openFile form)) hopened hopened'
      hduring hcloses hkeeps
    exact ⟨hopens', hreads.symm, hreplies.symm⟩

/-- A session with a file of twelve bytes. -/
def withNotes : Session := prepared [.file (ascii "notes") (ascii "hello, world")]

/-- Steps that open the file twice, read one of the two and close it. -/
def earlierSteps : List Step :=
  [.openFile (.bytes (ascii "notes")),
    .read .buffer ⟨0⟩ 3 .full,
    .openFile (.c (some (ascii "notes" ++ [nul]))),
    .close ⟨0⟩]

/-- Steps that read two descriptors of the file in turns, under a hook that panics for a while; the
second is closed and opened again in between. -/
def turnsOfReads : List Step :=
  [.read .buffer ⟨0⟩ 4 .full,
    .read (.c .memory) ⟨1⟩ 2 .full,
    .setHook (some ⟨"hook", some ⟨72⟩, true, some "told", none⟩),
    .read (.pointer .memory) ⟨0⟩ 3 .full,
    .change (.append (ascii "other") (ascii "more")),
    .read .buffer ⟨0⟩ 9 .interrupted,
    .setHook none,
    .close ⟨1⟩,
    .openFile (.bytes (ascii "notes")),
    .stream (.toEnd []) ⟨1⟩ [],
    .stream (.once 2) ⟨0⟩ []]

/-- The session in which the file is open, and these steps are to follow. -/
def openedNotes : Session :=
  ((withNotes.run earlierSteps).1.step (.openFile (.bytes (ascii "notes")))).1

theorem file_streams_turnsOfReads :
    ((withNotes.run earlierSteps).1.FindsFile (.bytes (ascii "notes")) 7 (ascii "hello, world") ∧
      (∀ step ∈ turnsOfReads, step.closes? ≠ some (withNotes.run earlierSteps).1.nextFree) ∧
      openedNotes.keeps 7 turnsOfReads = true) ∧
    Sight.delivered (openedNotes.readsOf ⟨0⟩ turnsOfReads) = ascii "hello, wo" ∧
    (openedNotes.run turnsOfReads).1.ReadsOn (.read .buffer ⟨0⟩ 9 .full) ⟨0⟩ 7 9 3
      (.read 3 (some ⟨ascii "rld", some true⟩)) ∧
    (let alone := ((withNotes.run [.openFile (.bytes (ascii "notes")),
        .openFile (.c (some (ascii "notes" ++ [nul]))), .close ⟨0⟩]).1.step
          (.openFile (.bytes (ascii "notes")))).1;
      alone.readsOf ⟨0⟩ (turnsOfReads.filter fun step => !step.reads?.any (· ≠ ⟨0⟩))
        = openedNotes.readsOf ⟨0⟩ turnsOfReads) := by
  have hfile : (withNotes.run earlierSteps).1.FindsFile (.bytes (ascii "notes")) 7
      (ascii "hello, world") :=
    ⟨⟨Pathname.upToTerminator (ascii "notes"), by rfl, by rfl⟩, by decide⟩
  have hcloses : ∀ step ∈ turnsOfReads,
      step.closes? ≠ some (withNotes.run earlierSteps).1.nextFree := by decide
  have hkeeps : openedNotes.keeps 7 turnsOfReads = true := by decide
  have hnumber : (withNotes.run earlierSteps).1.nextFree = ⟨0⟩ := by decide
  -- Of the file, the reads in turns ask for nine bytes, and no pace among them is short.
  obtain ⟨-, -, hfull, hnext, -, -, hindependent⟩ :=
    file_streams withNotes earlierSteps turnsOfReads hfile hcloses hkeeps
  rw [hnumber] at hfull hnext hindependent
  have hgot : Sight.delivered (openedNotes.readsOf ⟨0⟩ turnsOfReads) = ascii "hello, wo" := by
    have hrequested : Sight.requestedOf (openedNotes.readsOf ⟨0⟩ turnsOfReads) = 9 := by decide
    have hpaces : ∀ step ∈ turnsOfReads, step.reads? = some ⟨0⟩ → ∀ n, .short n ∉ step.paces := by
      have hwhole : ∀ step ∈ turnsOfReads, ∀ pace ∈ step.paces,
          pace = .full ∨ pace = .interrupted := by decide
      intro step hmem _ n hshort
      rcases hwhole step hmem _ hshort with h | h <;> cases h
    calc Sight.delivered (openedNotes.readsOf ⟨0⟩ turnsOfReads)
        = (ascii "hello, world").take (Sight.requestedOf (openedNotes.readsOf ⟨0⟩ turnsOfReads)) :=
          hfull hpaces (by decide)
      _ = ascii "hello, wo" := by rw [hrequested]; rfl
  -- Three bytes are left, and a read of nine brings those.
  have hread := hnext .buffer 9 rfl (by decide)
  unfold openedNotes at hgot hread ⊢
  rw [hgot] at hread
  -- Both runs are thinned to the reads of this descriptor.
  have hearlier : Step.Thinned (fun _ => True) earlierSteps [.openFile (.bytes (ascii "notes")),
      .openFile (.c (some (ascii "notes" ++ [nul]))), .close ⟨0⟩] :=
    .filter (fun _ => True) earlierSteps
  obtain ⟨-, hreads, -⟩ := hindependent _ _ hearlier (.filter (· ≠ ⟨0⟩) turnsOfReads)
  exact ⟨⟨hfile, hcloses, hkeeps⟩, hgot, hread, hreads⟩

end Session

end TracedPipe
