import TracedPipe.Proofs.Host.Changes
import TracedPipe.Proofs.Host.FileReads

/-!
# The queues of FIFOs

A FIFO is one queue for all that have it open. Bytes come in at its back by changes from outside
(`Change.written`), and they go out at its front by reads (`Host.handed`, `Host.reading_of_fifo`),
through whatever descriptor. Nothing else touches them, as long as one end of the FIFO is open: a
descriptor or a writer (`Host.hasEnd`). Each change from outside adds what it writes
(`Host.HasQueue.apply`), and each row of reads takes what it hands over (`Host.Reads.taken`).

A read that asked for bytes and got none, but did not fail, has found the queue empty and no writer
left (`Host.Reads.drained`).
-/

namespace TracedPipe

/-- The bytes that a change writes into a FIFO. -/
def Change.written (host : Host) (id : NodeId) : Change → Bytes
  | .file path data =>
    if Path.find host.nodes host.scratch path = .ok (.node id) then data else []
  | .append path data =>
    if Path.find host.nodes host.scratch path = .ok (.node id) then data else []
  | .write path data => if host.writers.lookup path = some id then data else []
  | _ => []

/-- An item that a function leaves as it is stays where it is, whatever item is modified. -/
theorem getElem?_modify_of_fixed {α : Type} {l : List α} {n : Nat} {a : α} (h : l[n]? = some a)
    {f : α → α} (hf : f a = a) (m : Nat) : (l.modify m f)[n]? = some a := by
  rw [List.getElem?_modify, h]
  show some (if m = n then f a else a) = some a
  split
  · rw [hf]
  · rfl

namespace Host

variable {host : Host} {id : NodeId} {queue : Bytes}

/-- Whether some end of a FIFO is open. -/
def hasEnd (host : Host) (id : NodeId) : Bool := host.table.hasOpen id || host.hasWriter id

/-- A node is a FIFO with these bytes in its queue. -/
def HasQueue (host : Host) (id : NodeId) (queue : Bytes) : Prop :=
  host.nodes[id]? = some (.fifo queue)

/-! ### What leaves a queue alone -/

theorem hasEnd_release (host : Host) (other id : NodeId) :
    (host.release other).hasEnd id = host.hasEnd id := by
  unfold release
  split
  · split <;> rfl
  · rfl

namespace HasQueue

/-- A FIFO that still has an end keeps its bytes, whichever node is let go of. -/
theorem release (h : host.HasQueue id queue) (hend : host.hasEnd id = true) (other : NodeId) :
    (host.release other).HasQueue id queue := by
  unfold Host.release
  split
  · by_cases hother : other = id
    · subst hother
      unfold hasEnd at hend
      rw [if_pos hend]
      exact h
    · split
      · exact h
      · exact (List.getElem?_set_ne hother).trans h
  · exact h

theorem addEntry (h : host.HasQueue id queue) (directory : NodeId) (name : Bytes) (node : NodeId) :
    ({ host with nodes := host.nodes.addEntry directory name node } : Host).HasQueue id queue :=
  getElem?_modify_of_fixed h rfl directory

theorem removeEntry (h : host.HasQueue id queue) (directory : NodeId) (name : Bytes) :
    ({ host with nodes := host.nodes.removeEntry directory name } : Host).HasQueue id queue :=
  getElem?_modify_of_fixed h rfl directory

theorem setParent (h : host.HasQueue id queue) (directory parent : NodeId) :
    ({ host with nodes := host.nodes.setParent directory parent } : Host).HasQueue id queue :=
  getElem?_modify_of_fixed h rfl directory

theorem addNode (h : host.HasQueue id queue) (directory : NodeId) (name : Bytes) (node : Node) :
    (host.addNode directory name node).HasQueue id queue := by
  obtain ⟨hbound, -⟩ := List.getElem?_eq_some_iff.mp h
  have hlonger : (host.nodes ++ [node])[id]? = some (.fifo queue) :=
    (List.getElem?_append_left hbound).trans h
  exact getElem?_modify_of_fixed hlonger rfl directory

theorem modifyFile (h : host.HasQueue id queue) (other : NodeId) (f : Bytes → Bytes) :
    (host.modifyFile other f).HasQueue id queue :=
  getElem?_modify_of_fixed h rfl other

/-- Bytes that are added to a queue come after those that are in it. -/
theorem modifyQueue (h : host.HasQueue id queue) (other : NodeId) (data : Bytes) :
    (host.modifyQueue other (· ++ data)).HasQueue id
      (queue ++ if other = id then data else []) := by
  unfold HasQueue Host.modifyQueue
  dsimp only
  rw [List.getElem?_modify, h]
  dsimp only [Option.map_eq_map, Option.map_some]
  by_cases hother : other = id
  · rw [if_pos hother, if_pos hother]
  · rw [if_neg hother, if_neg hother, List.append_nil]

/-! ### Changes from outside -/

theorem create (h : host.HasQueue id queue) (path : Bytes) (node : NodeId → Node) :
    (host.create path node).HasQueue id queue := by
  unfold Host.create
  split
  · exact h
  · split
    · exact h
    · exact h.addNode _ _ _

theorem changeFile (h : host.HasQueue id queue) (path : Bytes) (f : Bytes → Bytes) :
    (host.changeFile path f).HasQueue id queue := by
  unfold Host.changeFile
  split
  · exact h.modifyFile _ _
  · exact h

theorem removeName (h : host.HasQueue id queue) (path : Bytes) (allowed : Node → Bool) :
    (host.removeName path allowed).HasQueue id queue := by
  unfold Host.removeName
  split
  · exact h
  · split
    · split
      · exact h.removeEntry _ _
      · exact h
    · exact h

theorem renameTo (h : host.HasQueue id queue) (path target : Bytes) :
    (host.renameTo path target).HasQueue id queue := by
  unfold Host.renameTo
  split
  · dsimp only
    split
    · exact h
    · split
      · exact h
      · split
        · exact h
        · exact ((h.removeEntry _ _).addEntry _ _ _).setParent _ _
  · exact h

theorem linkTo (h : host.HasQueue id queue) (path target : Bytes) :
    (host.linkTo path target).HasQueue id queue := by
  unfold Host.linkTo
  split
  · split
    · exact h
    · exact h.addEntry _ _ _
  · exact h

theorem openWriter (h : host.HasQueue id queue) (path : Bytes)
    (hend : (host.openWriter path).hasEnd id = true) :
    (host.openWriter path).HasQueue id queue := by
  unfold Host.openWriter at hend ⊢
  split at hend
  · exact h
  · dsimp only at hend ⊢
    split at hend
    · -- The writer that had the path before is closed.
      rw [hasEnd_release] at hend
      refine HasQueue.release ?_ hend _
      exact h
    · exact h

theorem closeWriter (h : host.HasQueue id queue) (path : Bytes)
    (hend : (host.closeWriter path).hasEnd id = true) :
    (host.closeWriter path).HasQueue id queue := by
  unfold Host.closeWriter at hend ⊢
  split at hend
  · exact h
  · rw [hasEnd_release] at hend
    refine HasQueue.release ?_ hend _
    exact h

/-- Bytes that are written through a path get into the queue if the path leads to the FIFO. -/
theorem writeThrough (h : host.HasQueue id queue) (path data : Bytes) (kept : Bytes → Bytes)
    (hend : (host.writeThrough path data kept).hasEnd id = true) :
    (host.writeThrough path data kept).HasQueue id
      (queue ++ if Path.find host.nodes host.scratch path = .ok (.node id) then data else []) := by
  unfold Host.writeThrough at hend ⊢
  cases hfind : Path.find host.nodes host.scratch path with
  -- Nothing is written where the path leads nowhere, and a new file is no FIFO.
  | error e => simpa using h
  | ok found =>
    cases found with
    | vacant directory name => simpa using h.addNode directory name (.file data)
    | node other =>
      -- Whoever writes lets go of the node in the end, so the queue has to have another end that
      -- keeps it: `hend` speaks of the host after that.
      rw [hfind] at hend
      dsimp only at hend ⊢
      rw [hasEnd_release] at hend
      have hsame : (Except.ok (Path.Found.node other) : Except Errno Path.Found) = .ok (.node id)
          ↔ other = id := by simp
      simp only [hsame]
      exact ((h.modifyFile other _).modifyQueue other data).release hend other

/-- **A change from outside adds to the queue what it writes,** if it leaves the FIFO an end. -/
theorem apply (h : host.HasQueue id queue) (c : Change) (hend : (host.apply c).hasEnd id = true) :
    (host.apply c).HasQueue id (queue ++ c.written host id) := by
  -- Most changes write to no FIFO at all.
  have hnothing {after : Host} (hafter : after.HasQueue id queue) :
      after.HasQueue id (queue ++ []) := by rwa [List.append_nil]
  cases c with
  | file path data => exact h.writeThrough path data _ hend
  | append path data => exact h.writeThrough path data _ hend
  | overwrite path offset data => exact hnothing (h.changeFile path _)
  | truncate path length => exact hnothing (h.changeFile path _)
  | makeDirectory path => exact hnothing (h.create path _)
  | removeDirectory path => exact hnothing (h.removeName path _)
  | remove path => exact hnothing (h.removeName path _)
  | rename path target => exact hnothing (h.renameTo path target)
  | link path target => exact hnothing (h.create path _)
  | hardLink path target => exact hnothing (h.linkTo path target)
  | socket path => exact hnothing (h.create path _)
  | fifo path => exact hnothing (h.create path _)
  | openWriter path => exact hnothing (h.openWriter path hend)
  | closeWriter path => exact hnothing (h.closeWriter path hend)
  -- A writer writes to the FIFO that it opened, wherever its path leads by now.
  | write path data =>
    rw [Host.apply, Change.written]
    cases host.writers.lookup path with
    | none => exact hnothing h
    | some other =>
      simp only [Option.some.injEq]
      exact h.modifyQueue other data

/-! ### Opening and closing -/

theorem opening (h : host.HasQueue id queue) (path : Option Pathname) :
    (host.opening path).host.HasQueue id queue := by
  rcases host.opening_cases path with ⟨e, hfail⟩ | ⟨given, node, -, -, hopen⟩
  · rw [hfail]
    exact h
  · rw [hopen]
    exact h

theorem closing (h : host.HasQueue id queue) (d : Descriptor)
    (hend : (host.closing d).host.hasEnd id = true) : (host.closing d).host.HasQueue id queue := by
  rw [closing_eq] at hend ⊢
  cases hfile : host.table.lookup d with
  | none => exact h
  | some file =>
    rw [hfile] at hend
    dsimp only at hend ⊢
    rw [hasEnd_release] at hend
    refine HasQueue.release ?_ hend _
    exact h

end HasQueue

/-! ### Reading -/

/-- **What a read of a FIFO gives:** it waits for bytes as long as there is a writer, until a signal
comes; and bytes that are there need memory to go to. -/
def handed (queue : Bytes) (hasWriter : Bool) (count : Nat) (destination : Destination)
    (pace : Pace) : Except Errno Bytes :=
  if count = 0 then .ok []
  else if pace = .interrupted then .error .interrupted
  else if queue = [] then
    if hasWriter then .error .interrupted else .ok []
  else if destination = .null then .error .badAddress
  else .ok (queue.take (most count pace))

/-- What is handed over is the front of the queue. -/
theorem append_drop_of_handed {hasWriter : Bool} {count : Nat} {destination : Destination}
    {pace : Pace} {data : Bytes} (h : handed queue hasWriter count destination pace = .ok data) :
    data ++ queue.drop data.length = queue := by
  have htaken (n : Nat) : queue.take n ++ queue.drop (queue.take n).length = queue := by
    rw [List.length_take, ← List.drop_eq_drop_min, List.take_append_drop]
  unfold handed at h
  -- Whatever is handed over is taken off the front of the queue, be it nothing.
  split at h
  · obtain rfl := Except.ok.inj h
    exact htaken 0
  · split at h
    · cases h
    · split at h
      · split at h
        · cases h
        · obtain rfl := Except.ok.inj h
          exact htaken 0
      · split at h
        · cases h
        · obtain rfl := Except.ok.inj h
          exact htaken _

/-- **Nothing is handed over to somebody who asks** only where there is nothing, and nobody to
write. -/
theorem eq_nil_of_handed_nil {hasWriter : Bool} {count : Nat} {destination : Destination}
    {pace : Pace} (hcount : 0 < count)
    (h : handed queue hasWriter count destination pace = .ok []) :
    queue = [] ∧ hasWriter = false := by
  unfold handed at h
  -- With something asked for, nothing is handed over only where the queue is empty; and then a
  -- writer would have made the read wait.
  rw [if_neg (Nat.ne_of_gt hcount)] at h
  split at h
  · cases h
  · split at h
    · next hempty =>
      split at h
      · cases h
      · next hwriter => exact ⟨hempty, Bool.eq_false_iff.mpr hwriter⟩
    · next hsome =>
      split at h
      · cases h
      · -- One byte at least would have been taken.
        rcases List.take_eq_nil_iff.mp (Except.ok.inj h) with hzero | hempty
        · exact absurd hzero (Nat.ne_of_gt (most_pos hcount pace))
        · exact absurd hempty hsome

variable {d : Descriptor} {file : OpenFile}

theorem read_of_fifo (hfile : host.table.lookup d = some file)
    (hqueue : host.HasQueue file.node queue) (count : Nat) (destination : Destination)
    (pace : Pace) :
    host.read d count destination pace
      = (handed queue (host.hasWriter file.node) count destination pace).map fun data =>
        (data,
          { host with nodes := host.nodes.set file.node (.fifo (queue.drop data.length)) }) := by
  -- A read of a FIFO looks at the queue, and leaves it without what was taken off its front.
  have hnode : host.nodes[file.node]? = some (.fifo queue) := hqueue
  have hnothing : { host with
      nodes := host.nodes.set file.node (.fifo (queue.drop ([] : Bytes).length)) } = host := by
    rw [List.length_nil, List.drop_zero, set_of_getElem? hnode]
  have hahead (n : Nat) : host.ahead file n
      = if queue = [] ∧ host.hasWriter file.node then none else some queue := by
    unfold ahead
    rw [hnode]
  have hconsume (n : Nat) : host.consume d file n
      = { host with nodes := host.nodes.set file.node (.fifo (queue.drop n)) } := by
    unfold consume
    rw [hnode]
  unfold read handed
  rw [hfile]
  simp only [hnode, hahead, hconsume]
  by_cases hcount : count = 0
  · rw [if_pos hcount, if_pos hcount, Except.map, hnothing]
  · rw [if_neg hcount, if_neg hcount]
    by_cases hpace : pace = .interrupted
    · rw [if_pos hpace, if_pos hpace, Except.map]
    · rw [if_neg hpace, if_neg hpace]
      by_cases hempty : queue = []
      · -- An empty queue: it depends on whether there is a writer to wait for.
        subst hempty
        cases host.hasWriter file.node with
        | true => rfl
        | false =>
          simp only [Bool.false_eq_true, and_false, if_false, List.take_nil, if_true, Except.map,
            hnothing]
      · -- There are bytes, and memory for them or not.
        rw [if_neg (fun hboth => hempty hboth.1), if_neg hempty]
        dsimp only
        by_cases hnull : destination = .null
        · rw [if_pos hnull, if_pos hnull, if_neg (take_ne_nil Nat.one_pos hempty), if_pos hnull,
            Except.map]
        · have hpiece := take_ne_nil (most_pos (Nat.pos_of_ne_zero hcount) pace) hempty
          unfold most at hpiece ⊢
          rw [if_neg hnull, if_neg hnull, if_neg hpiece, if_neg hnull, Except.map]

/-- **A read of a FIFO in closed form.** -/
theorem reading_of_fifo (hfile : host.table.lookup d = some file)
    (hqueue : host.HasQueue file.node queue) (count : Nat) (destination : Destination)
    (pace : Pace) :
    host.reading d count destination pace
      = match handed queue (host.hasWriter file.node) count destination pace with
        | .ok data => ⟨.read d count data.length, data.length, data, none,
            { host with nodes := host.nodes.set file.node (.fifo (queue.drop data.length)) }⟩
        | .error e => ⟨.read d count World.failure, World.failure, [], some e, host⟩ := by
  unfold reading
  rw [read_of_fifo hfile hqueue]
  cases handed queue (host.hasWriter file.node) count destination pace <;> rfl

/-- What is seen of a read of a FIFO. -/
theorem sight_reading_of_fifo (hfile : host.table.lookup d = some file)
    (hqueue : host.HasQueue file.node queue) (count : Nat) (destination : Destination)
    (pace : Pace) :
    (host.reading d count destination pace).sight
      = .ofServed d count (handed queue (host.hasWriter file.node) count destination pace) := by
  rw [reading_of_fifo hfile hqueue]
  cases handed queue (host.hasWriter file.node) count destination pace <;> rfl

/-- A read that asked for bytes and got none, but did not fail, has found no bytes and no writer. -/
theorem empty_of_result_reading (hfile : host.table.lookup d = some file)
    (hqueue : host.HasQueue file.node queue) {count : Nat} {destination : Destination} {pace : Pace}
    (hcount : 0 < count) (hresult : (host.reading d count destination pace).result = 0) :
    queue = [] ∧ host.hasWriter file.node = false := by
  rw [reading_of_fifo hfile hqueue] at hresult
  cases hhanded : handed queue (host.hasWriter file.node) count destination pace with
  | error e =>
    rw [hhanded] at hresult
    cases hresult
  | ok data =>
    rw [hhanded] at hresult
    have hnil : data = [] := List.length_eq_zero_iff.mp (Int.ofNat_eq_zero.mp hresult)
    rw [hnil] at hhanded
    exact eq_nil_of_handed_nil hcount hhanded

/-- **A read takes what it hands over off the front of the queue.** -/
theorem HasQueue.reading (h : host.HasQueue id queue)
    (hd : (host.table.lookup d).map OpenFile.node = some id) (count : Nat)
    (destination : Destination) (pace : Pace) :
    ∃ left, (host.reading d count destination pace).data ++ left = queue ∧
      (host.reading d count destination pace).host.HasQueue id left := by
  obtain ⟨file, hfile, rfl⟩ := Option.map_eq_some_iff.mp hd
  obtain ⟨hbound, -⟩ := List.getElem?_eq_some_iff.mp h
  rw [reading_of_fifo hfile h]
  cases hhanded : handed queue (host.hasWriter file.node) count destination pace with
  | error e => exact ⟨queue, rfl, h⟩
  | ok data =>
    exact ⟨queue.drop data.length, append_drop_of_handed hhanded, List.getElem?_set_self hbound⟩

/-- Reads leave the writers alone. -/
theorem hasWriter_reading (host : Host) (d : Descriptor) (count : Nat) (destination : Destination)
    (pace : Pace) (id : NodeId) :
    (host.reading d count destination pace).host.hasWriter id = host.hasWriter id := by
  cases hfile : host.table.lookup d with
  | none => rw [reading_of_not_open hfile]
  | some file =>
    rw [(reading_of_open hfile count destination pace).2]
    unfold consume
    split <;> rfl

namespace Reads

variable {paces : List Pace} {calls : List SystemCall}

/-- **A row of reads takes what it hands over off the front of the queue.** -/
theorem taken (hreads : host.Reads d paces calls) (h : host.HasQueue id queue)
    (hd : (host.table.lookup d).map OpenFile.node = some id) :
    ∃ left, calls.flatMap SystemCall.data ++ left = queue ∧
      (host.afterAll calls).HasQueue id left := by
  induction hreads generalizing queue with
  | nil host => exact ⟨queue, rfl, h⟩
  | @cons host count destination pace calls _ others ih =>
    obtain ⟨rest, hfirst, hrest⟩ := h.reading hd count destination pace
    -- The descriptor is still open on the FIFO, so the others take what this one left.
    have hstill := ((host.lookup_reading d count destination pace).1 d).trans hd
    obtain ⟨left, hothers, hleft⟩ := ih hrest hstill
    refine ⟨left, ?_, hleft⟩
    rw [List.flatMap_cons, List.append_assoc, hothers, hfirst]

/-- A read of a row that failed wrote nothing. -/
theorem data_of_fault (hreads : host.Reads d paces calls) {call : SystemCall} (hcall : call ∈ calls)
    (hfault : call.fault ≠ none) : call.data = [] := by
  induction hreads with
  | nil host => exact absurd hcall List.not_mem_nil
  | @cons host count destination pace calls _ others ih =>
    rcases List.mem_cons.mp hcall with rfl | hmem
    · obtain ⟨e, he⟩ := Option.ne_none_iff_exists'.mp hfault
      exact host.data_reading_of_fault d count destination pace he
    · exact ih hmem

/-- **The end of the stream:** if one of the reads of a row asked for bytes and got none, then
nobody could write, and the row has handed over all that was there. -/
theorem drained (hreads : host.Reads d paces calls) (h : host.HasQueue id queue)
    (hd : (host.table.lookup d).map OpenFile.node = some id) {call : SystemCall}
    (hcall : call ∈ calls) {other : Descriptor} {count : Nat} (hcount : 0 < count)
    (hevent : call.event = .read other count 0) :
    host.hasWriter id = false ∧ calls.flatMap SystemCall.data = queue := by
  -- By induction on the row: the read that found nothing is its first one or a later one.
  induction hreads generalizing queue with
  | nil host => exact absurd hcall List.not_mem_nil
  | @cons host asked destination pace calls hpace others ih =>
    obtain ⟨rest, hfirst, hrest⟩ := h.reading hd asked destination pace
    have hstill := ((host.lookup_reading d asked destination pace).1 d).trans hd
    rcases List.mem_cons.mp hcall with rfl | hmem
    · obtain ⟨file, hfile, rfl⟩ := Option.map_eq_some_iff.mp hd
      rw [host.event_reading] at hevent
      obtain ⟨-, hasked, hresult⟩ := Event.read.inj hevent
      obtain ⟨hempty, hwriter⟩ := empty_of_result_reading hfile h (hasked ▸ hcount) hresult
      -- Nothing was there, so neither this read nor those after it got anything.
      obtain ⟨left, hothers, -⟩ := others.taken hrest hstill
      refine ⟨hwriter, ?_⟩
      rw [hempty] at hfirst ⊢
      obtain ⟨hdata, rfl⟩ := List.append_eq_nil_iff.mp hfirst
      obtain ⟨hrow, -⟩ := List.append_eq_nil_iff.mp hothers
      rw [List.flatMap_cons, hdata, hrow, List.append_nil]
    · obtain ⟨hwriter, hothers⟩ := ih hrest hstill hmem
      -- What the first read got counts as well. It opens and closes nothing, so the writers are the
      -- same ones.
      rw [hasWriter_reading] at hwriter
      refine ⟨hwriter, ?_⟩
      rw [List.flatMap_cons, hothers, hfirst]

end Reads

end Host

end TracedPipe
