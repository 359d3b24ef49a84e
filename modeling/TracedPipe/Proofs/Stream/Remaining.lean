import TracedPipe.Proofs.Host.OpenFiles
import TracedPipe.Stream.Reading

/-!
# What a stream has left

An open regular file and a FIFO that nobody has open for writing hold a stream that ends: the bytes
from the position on, or the bytes in the queue (`Host.stream?`). A read takes bytes off its front,
and that is all it does to the host (`Host.advance`, `Host.stream?_advance`).

`Host.reading_of_stream` says how many: as many as were asked for, as the system hands over at once,
and as there are. A signal that comes first leaves all of them where they are.
-/

namespace TracedPipe.Host

variable {host : Host} {d : Descriptor} {r : Bytes}

/-- **What the stream of a descriptor has left,** if it is a stream that ends without waiting. -/
def stream? (host : Host) (d : Descriptor) : Option Bytes :=
  match host.table.lookup d with
  | none => none
  | some file =>
    match host.nodes[file.node]? with
    | some (.file content) => some (content.drop file.position)
    | some (.fifo queue) => if host.hasWriter file.node then none else some queue
    | _ => none

/-- The host after `n` bytes were taken from a descriptor. -/
def advance (host : Host) (d : Descriptor) (n : Nat) : Host :=
  match host.table.lookup d with
  | none => host
  | some file => host.consume d file n

/-- A stream is that of a file from its position on, or that of a queue without a writer. -/
theorem stream?_cases (h : host.stream? d = some r) :
    ∃ file, host.table.lookup d = some file ∧
      ((∃ content, host.nodes[file.node]? = some (.file content) ∧
          r = content.drop file.position) ∨
        host.nodes[file.node]? = some (.fifo r) ∧ host.hasWriter file.node = false) := by
  unfold stream? at h
  split at h
  · cases h
  · next file hlookup =>
    -- Only a file and a FIFO without a writer have a stream that is fixed by the host.
    refine ⟨file, hlookup, ?_⟩
    split at h
    · next content hnode => exact .inl ⟨content, hnode, (Option.some.inj h).symm⟩
    · next queue hnode =>
      split at h
      · cases h
      · next hwriter =>
        obtain rfl := Option.some.inj h
        exact .inr ⟨hnode, eq_false_of_ne_true hwriter⟩
    · cases h

/-! ### Taking bytes off the front -/

theorem advance_zero (host : Host) (d : Descriptor) : host.advance d 0 = host := by
  unfold advance
  split
  · rfl
  · next file hlookup => exact consume_zero hlookup

/-- A file that was read on stands further on in the table. -/
theorem advance_of_file {file : OpenFile} {content : Bytes}
    (hlookup : host.table.lookup d = some file)
    (hnode : host.nodes[file.node]? = some (.file content)) (n : Nat) :
    host.advance d n
      = { host with table := host.table.update d ⟨file.node, file.position + n⟩ } := by
  unfold advance
  rw [hlookup]
  dsimp only
  unfold consume
  rw [hnode]

/-- Bytes that were read are gone from the queue. -/
theorem advance_of_fifo {file : OpenFile} {queue : Bytes}
    (hlookup : host.table.lookup d = some file)
    (hnode : host.nodes[file.node]? = some (.fifo queue)) (n : Nat) :
    host.advance d n = { host with nodes := host.nodes.set file.node (.fifo (queue.drop n)) } := by
  unfold advance
  rw [hlookup]
  dsimp only
  unfold consume
  rw [hnode]

theorem lookup_advance_of_file {file : OpenFile} {content : Bytes}
    (hlookup : host.table.lookup d = some file)
    (hnode : host.nodes[file.node]? = some (.file content)) (n : Nat) (other : Descriptor) :
    (host.advance d n).table.lookup other
      = if other = d then some ⟨file.node, file.position + n⟩ else host.table.lookup other := by
  rw [advance_of_file hlookup hnode]
  exact Table.lookup_update hlookup _ other

theorem node_advance_of_fifo {file : OpenFile} {queue : Bytes}
    (hlookup : host.table.lookup d = some file)
    (hnode : host.nodes[file.node]? = some (.fifo queue)) (n : Nat) :
    (host.advance d n).nodes[file.node]? = some (.fifo (queue.drop n)) := by
  obtain ⟨hbound, -⟩ := List.getElem?_eq_some_iff.mp hnode
  rw [advance_of_fifo hlookup hnode]
  exact List.getElem?_set_self hbound

/-- **Taking bytes takes them off the front of the stream.** -/
theorem stream?_advance (h : host.stream? d = some r) (n : Nat) :
    (host.advance d n).stream? d = some (r.drop n) := by
  obtain ⟨file, hlookup, ⟨content, hnode, rfl⟩ | ⟨hnode, hwriter⟩⟩ := stream?_cases h
  · have hnext := lookup_advance_of_file hlookup hnode n d
    have hnodes : (host.advance d n).nodes = host.nodes := by rw [advance_of_file hlookup hnode]
    rw [if_pos rfl] at hnext
    unfold stream?
    simp only [hnext, hnodes, hnode, List.drop_drop]
  · have hnext : (host.advance d n).table.lookup d = some file := by
      rw [advance_of_fifo hlookup hnode]
      exact hlookup
    have hwriters : (host.advance d n).hasWriter file.node = false := by
      rw [advance_of_fifo hlookup hnode]
      exact hwriter
    unfold stream?
    simp only [hnext, node_advance_of_fifo hlookup hnode, hwriters, Bool.false_eq_true, if_false]

/-- Bytes taken one row after another are taken at once. -/
theorem advance_advance (h : host.stream? d = some r) (m n : Nat) :
    (host.advance d m).advance d n = host.advance d (m + n) := by
  obtain ⟨file, hlookup, ⟨content, hnode, -⟩ | ⟨hnode, -⟩⟩ := stream?_cases h
  · -- A file keeps its content, and its position moves twice.
    have hnext := lookup_advance_of_file hlookup hnode m d
    have hnodes : (host.advance d m).nodes = host.nodes := by rw [advance_of_file hlookup hnode]
    rw [if_pos rfl] at hnext
    have hnode' : (host.advance d m).nodes[file.node]? = some (.file content) := by
      rw [hnodes, hnode]
    rw [advance_of_file hnext hnode', advance_of_file hlookup hnode, advance_of_file hlookup hnode]
    dsimp only
    rw [Table.update_update, Nat.add_assoc]
  · -- A FIFO loses the first `m` bytes of its queue, and then the next `n`.
    have hnext : (host.advance d m).table.lookup d = some file := by
      rw [advance_of_fifo hlookup hnode]
      exact hlookup
    rw [advance_of_fifo hnext (node_advance_of_fifo hlookup hnode m),
      advance_of_fifo hlookup hnode, advance_of_fifo hlookup hnode]
    dsimp only
    rw [List.set_set, List.drop_drop]

/-! ### Reads of a stream -/

/-- The most bytes that one read hands over. -/
def most (count : Nat) (pace : Pace) : Nat := min (pace.limit count) maxTransfer

theorem most_pos {count : Nat} (h : 0 < count) (pace : Pace) : 0 < most count pace := by
  unfold most maxTransfer Pace.limit
  cases pace <;> dsimp only <;> omega

theorem most_zero (pace : Pace) : most 0 pace = 0 := by
  unfold most Pace.limit
  cases pace <;> simp

/-- Without a short pace, all that one read can hand over is handed over at once. -/
theorem most_of_whole {count : Nat} (hcount : count ≤ maxTransfer) {pace : Pace}
    (hpace : ∀ n, pace ≠ .short n) : most count pace = count := by
  unfold most Pace.limit
  cases pace with
  | short n => exact absurd rfl (hpace n)
  | _ => exact Nat.min_eq_left hcount

/-- The bytes of a stream are there without waiting. -/
theorem ahead_of_stream {file : OpenFile} (h : host.stream? d = some r)
    (hlookup : host.table.lookup d = some file) (count : Nat) : host.ahead file count = some r := by
  obtain ⟨_, hsame, hnode⟩ := stream?_cases h
  obtain rfl := Option.some.inj (hlookup.symm.trans hsame)
  unfold ahead
  rcases hnode with ⟨content, hnode, rfl⟩ | ⟨hnode, hwriter⟩
  · rw [hnode]
  · rw [hnode]
    exact if_neg fun hwaits => by rw [hwriter] at hwaits; cases hwaits.2

/-- A stream is no directory. -/
theorem node_ne_directory_of_stream {file : OpenFile} (h : host.stream? d = some r)
    (hlookup : host.table.lookup d = some file) (parent : NodeId)
    (entries : List (Bytes × NodeId)) :
    host.nodes[file.node]? ≠ some (.directory parent entries) := by
  obtain ⟨_, hsame, hnode⟩ := stream?_cases h
  obtain rfl := Option.some.inj (hlookup.symm.trans hsame)
  rcases hnode with ⟨content, hnode, -⟩ | ⟨hnode, -⟩
  · rw [hnode]
    rintro ⟨⟩
  · rw [hnode]
    rintro ⟨⟩

/-- How the system call of such a read ends. -/
theorem read_of_stream (h : host.stream? d = some r) (count : Nat) (pace : Pace) :
    host.read d count .memory pace =
      if count ≠ 0 ∧ pace = .interrupted then .error .interrupted
      else .ok (r.take (most count pace), host.advance d (r.take (most count pace)).length) := by
  obtain ⟨file, hlookup, -⟩ := stream?_cases h
  have hnothing : host.advance d ([] : Bytes).length = host := host.advance_zero d
  unfold read
  rw [hlookup]
  dsimp only
  split
  · next parent entries hnode =>
    -- What `d` refers to has a stream, so it is not a directory.
    exact absurd hnode (node_ne_directory_of_stream h hlookup parent entries)
  · -- A read of no bytes succeeds at once, whatever the pace: it takes nothing, and that is what
    -- `most` says too.
    by_cases hcount : count = 0
    · have hmost : most count pace = 0 := by
        unfold most Pace.limit
        cases pace <;> dsimp only <;> omega
      rw [if_pos hcount, if_neg (fun hboth => hboth.1 hcount), hmost, List.take_zero, hnothing]
    · -- Otherwise a signal may come first; if it does not, the bytes ahead are those of the stream,
      -- because no read of it waits for a writer.
      by_cases hpace : pace = .interrupted
      · rw [if_neg hcount, if_pos hpace, if_pos ⟨hcount, hpace⟩]
      · have hmemory : ¬Destination.memory = Destination.null := nofun
        rw [if_neg hcount, if_neg hpace, if_neg hmemory, if_neg (fun hboth => hpace hboth.2),
          ahead_of_stream h hlookup]
        dsimp only
        split
        · next hend =>
          -- At the end of the stream nothing is taken.
          rw [show r.take (most count pace) = [] from hend, hnothing]
        · unfold advance
          rw [hlookup]
          rfl

/-- **A read of a stream** is ended by a signal before it took anything, or it takes what it gets
off the front. -/
theorem reading_of_stream (h : host.stream? d = some r) (count : Nat) (pace : Pace) :
    host.reading d count .memory pace =
      if count ≠ 0 ∧ pace = .interrupted then
        ⟨.read d count World.failure, World.failure, [], some .interrupted, host⟩
      else
        ⟨.read d count (r.take (most count pace)).length, (r.take (most count pace)).length,
          r.take (most count pace), none, host.advance d (r.take (most count pace)).length⟩ := by
  have hread := read_of_stream h count pace
  unfold reading
  by_cases hsignal : count ≠ 0 ∧ pace = .interrupted
  · rw [if_pos hsignal] at hread ⊢
    rw [hread]
  · rw [if_neg hsignal] at hread ⊢
    rw [hread]

end TracedPipe.Host
