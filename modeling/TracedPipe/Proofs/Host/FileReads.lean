import TracedPipe.Proofs.Host.OpenFiles
import TracedPipe.Proofs.Stream.Remaining

/-!
# Reads of a regular file

What a read of a regular file gives depends on the content of the file and on the position in it,
and on nothing else of the host (`Host.served`). All that it changes is the position
(`Host.OnFile.reading_eq`).

So a row of such reads hands over consecutive pieces of the content (`Host.Pieces`). Together they
are one piece (`Host.Pieces.delivered_eq`), and if the system cuts none of them short, it is as much
as was asked for, or all that there is (`Host.Pieces.delivered_in_full`). And two hosts that agree
about the file see the same reads (`Host.OnFile.sight_reading`).
-/

namespace TracedPipe

/-! ### What is seen of a call -/

/-- What the caller of a system call gets to see: everything but the host. -/
structure Sight where
  event : Event
  result : Int
  data : Bytes
  fault : Option Errno
deriving DecidableEq

/-- What is seen of a call. -/
def SystemCall.sight (call : SystemCall) : Sight :=
  ⟨call.event, call.result, call.data, call.fault⟩

@[simp] theorem SystemCall.data_sight (call : SystemCall) : call.sight.data = call.data := rfl

namespace Sight

/-- What is seen of a read that was served. -/
def ofServed (d : Descriptor) (count : Nat) : Except Errno Bytes → Sight
  | .ok data => ⟨.read d count data.length, data.length, data, none⟩
  | .error e => ⟨.read d count World.failure, World.failure, [], some e⟩

/-- How much a read that succeeded was asked for. -/
def requested (sight : Sight) : Nat :=
  match sight.event, sight.fault with
  | .read _ count _, none => count
  | _, _ => 0

/-- The bytes that a row of reads handed over. -/
def delivered (sights : List Sight) : Bytes := sights.flatMap Sight.data

/-- How much the reads of a row that succeeded were asked for, all in all. -/
def requestedOf : List Sight → Nat
  | [] => 0
  | sight :: sights => sight.requested + requestedOf sights

@[simp] theorem delivered_append (xs ys : List Sight) :
    delivered (xs ++ ys) = delivered xs ++ delivered ys :=
  List.flatMap_append

@[simp] theorem delivered_cons (x : Sight) (xs : List Sight) :
    delivered (x :: xs) = x.data ++ delivered xs := rfl

@[simp] theorem requestedOf_cons (x : Sight) (xs : List Sight) :
    requestedOf (x :: xs) = x.requested + requestedOf xs := rfl

end Sight

/-! ### Pieces of a content -/

/-- What was taken and what is taken after it are one piece. -/
theorem take_drop_append (content : Bytes) (p m n : Nat) :
    (content.drop p).take m ++ (content.drop (p + m)).take n = (content.drop p).take (m + n) := by
  rw [List.take_add, List.drop_drop]

/-- As much as was taken is gone, and that is as much as was to be taken, unless nothing is left. -/
theorem drop_length_piece (content : Bytes) (p m : Nat) :
    content.drop (p + ((content.drop p).take m).length) = content.drop (p + m) := by
  rw [List.length_take, List.length_drop]
  rcases Nat.le_total m (content.length - p) with hm | hm
  · rw [Nat.min_eq_left hm]
  · rw [Nat.min_eq_right hm, List.drop_eq_nil_of_le (by omega), List.drop_eq_nil_of_le (by omega)]

namespace Host

/-- **What a read of a regular file gives,** from a position in its content: a signal may come
first, and bytes that are there need memory to go to. -/
def served (content : Bytes) (position count : Nat) (destination : Destination) (pace : Pace) :
    Except Errno Bytes :=
  if count ≠ 0 ∧ pace = .interrupted then .error .interrupted
  else if destination = .null ∧ count ≠ 0 ∧ position < content.length then .error .badAddress
  else .ok ((content.drop position).take (most count pace))

/-- What is served, if anything is. -/
theorem eq_take_of_served {content data : Bytes} {position count : Nat} {destination : Destination}
    {pace : Pace} (h : served content position count destination pace = .ok data) :
    data = (content.drop position).take (most count pace) := by
  unfold served at h
  split at h
  · cases h
  · split at h
    · cases h
    · exact (Except.ok.inj h).symm

/-- **Nothing is asked for or nothing is left:** then nothing is served, whatever the memory. -/
theorem served_nothing {content : Bytes} {position count : Nat} {pace : Pace}
    (h : count = 0 ∨ content.length ≤ position ∧ pace ≠ .interrupted) (destination : Destination) :
    served content position count destination pace = .ok [] := by
  have hcalm : ¬(count ≠ 0 ∧ pace = .interrupted) := by
    rintro ⟨hcount, hpace⟩
    exact h.elim hcount fun hend => hend.2 hpace
  have hlittle : ¬(destination = .null ∧ count ≠ 0 ∧ position < content.length) := by
    rintro ⟨-, hcount, hsome⟩
    exact h.elim hcount fun hend => Nat.not_lt.mpr hend.1 hsome
  unfold served
  rw [if_neg hcalm, if_neg hlittle]
  rcases h with rfl | ⟨hend, -⟩
  · rw [most_zero, List.take_zero]
  · rw [List.drop_eq_nil_of_le hend, List.take_nil]

theorem served_full (content : Bytes) (position : Nat) {count : Nat}
    (hcount : count ≤ maxTransfer) :
    served content position count .memory .full = .ok ((content.drop position).take count) := by
  have hcalm : ¬(count ≠ 0 ∧ Pace.full = .interrupted) := by
    rintro ⟨-, ⟨⟩⟩
  have hmemory : ¬(Destination.memory = .null ∧ count ≠ 0 ∧ position < content.length) := by
    rintro ⟨⟨⟩, -⟩
  unfold served
  rw [if_neg hcalm, if_neg hmemory, most_of_whole hcount (by rintro n ⟨⟩)]

/-- A descriptor that is open on a regular file, at a position in its content. -/
structure OnFile (host : Host) (d : Descriptor) (id : NodeId) (position : Nat) (content : Bytes) :
    Prop where
  lookup : host.table.lookup d = some ⟨id, position⟩
  node : host.nodes[id]? = some (.file content)

namespace OnFile

variable {host : Host} {d : Descriptor} {id : NodeId} {position : Nat} {content : Bytes}

theorem read_eq (h : host.OnFile d id position content) (count : Nat) (destination : Destination)
    (pace : Pace) :
    host.read d count destination pace
      = (served content position count destination pace).map fun data =>
        (data, { host with table := host.table.update d ⟨id, position + data.length⟩ }) := by
  -- What a read of this file looks at and leaves behind: the rest of the content, and the position.
  have hstays : { host with table := host.table.update d ⟨id, position + ([] : Bytes).length⟩ }
      = host := by
    rw [List.length_nil, Nat.add_zero, Table.update_self h.lookup]
  have hconsume (n : Nat) : host.consume d ⟨id, position⟩ n
      = { host with table := host.table.update d ⟨id, position + n⟩ } := by
    unfold consume
    rw [h.node]
  have hahead (n : Nat) : host.ahead ⟨id, position⟩ n = some (content.drop position) := by
    unfold ahead
    rw [h.node]
  by_cases hnothing : count = 0 ∨ content.length ≤ position ∧ pace ≠ .interrupted
  · -- Nothing is taken, be it that nothing is asked for or that nothing is left.
    rw [served_nothing hnothing, Except.map, hstays]
    unfold read
    rw [h.lookup]
    simp only [h.node, hahead]
    rcases hnothing with hzero | ⟨hend, hpace⟩
    · rw [if_pos hzero]
    · rw [if_neg hpace, List.drop_eq_nil_of_le hend, List.take_nil, if_pos rfl, ite_self]
  · -- Something is asked for, and there is something, unless a signal comes first.
    have hzero : count ≠ 0 := fun hzero => hnothing (.inl hzero)
    unfold read served
    rw [h.lookup]
    simp only [h.node, hahead, hconsume]
    rw [if_neg hzero]
    by_cases hpace : pace = .interrupted
    · rw [if_pos hpace, if_pos ⟨hzero, hpace⟩, Except.map]
    · have hsome : position < content.length :=
        Nat.lt_of_not_le fun hend => hnothing (.inr ⟨hend, hpace⟩)
      have hrest : content.drop position ≠ [] := by
        rw [Ne, List.drop_eq_nil_iff]
        exact Nat.not_le_of_lt hsome
      have hcalm : ¬(count ≠ 0 ∧ pace = .interrupted) := fun hboth => hpace hboth.2
      rw [if_neg hpace, if_neg hcalm]
      by_cases hnull : destination = .null
      · -- The one byte that is looked at has no place to go to.
        rw [if_pos hnull, if_pos hnull, if_neg (take_ne_nil Nat.one_pos hrest),
          if_pos ⟨hnull, hzero, hsome⟩, Except.map]
      · have hpiece := take_ne_nil (most_pos (Nat.pos_of_ne_zero hzero) pace) hrest
        have hmemory : ¬(destination = .null ∧ count ≠ 0 ∧ position < content.length) :=
          fun hboth => hnull hboth.1
        unfold most at hpiece ⊢
        rw [if_neg hnull, if_neg hnull, if_neg hpiece, if_neg hmemory, Except.map]

/-- **A read of a regular file in closed form.** -/
theorem reading_eq (h : host.OnFile d id position content) (count : Nat) (destination : Destination)
    (pace : Pace) :
    host.reading d count destination pace
      = match served content position count destination pace with
        | .ok data => ⟨.read d count data.length, data.length, data, none,
            { host with table := host.table.update d ⟨id, position + data.length⟩ }⟩
        | .error e => ⟨.read d count World.failure, World.failure, [], some e, host⟩ := by
  unfold reading
  rw [h.read_eq]
  cases served content position count destination pace <;> rfl

/-- **A read into memory that no signal interrupts and the system does not cut short** gives as much
as was asked for, as far as there is so much. -/
theorem reading_full (h : host.OnFile d id position content) {count : Nat}
    (hcount : count ≤ maxTransfer) :
    let n := min count (content.length - position)
    host.reading d count .memory .full = ⟨.read d count n, n, (content.drop position).take n, none,
      { host with table := host.table.update d ⟨id, position + n⟩ }⟩ := by
  have hlength : ((content.drop position).take count).length
      = min count (content.length - position) := by
    rw [List.length_take, List.length_drop]
  have hpiece : (content.drop position).take (min count (content.length - position))
      = (content.drop position).take count := by
    rw [← List.length_drop, ← List.take_eq_take_min]
  dsimp only
  rw [h.reading_eq, served_full content position hcount, hpiece]
  dsimp only
  rw [hlength]

/-- After a read the descriptor is on the file as many bytes further on as were read. -/
theorem reading (h : host.OnFile d id position content) (count : Nat) (destination : Destination)
    (pace : Pace) :
    (host.reading d count destination pace).host.OnFile d id
      (position + (host.reading d count destination pace).data.length) content := by
  rw [h.reading_eq]
  cases served content position count destination pace with
  | error e => exact h
  | ok data =>
    refine ⟨?_, h.node⟩
    have hlookup := Table.lookup_update h.lookup ⟨id, position + data.length⟩ d
    rwa [if_pos rfl] at hlookup

/-- What is seen of a read of a regular file. -/
theorem sight_reading_eq (h : host.OnFile d id position content) (count : Nat)
    (destination : Destination) (pace : Pace) :
    (host.reading d count destination pace).sight
      = .ofServed d count (served content position count destination pace) := by
  rw [h.reading_eq]
  cases served content position count destination pace <;> rfl

/-- **Hosts that agree about the file see the same read.** -/
theorem sight_reading {other : Host} (h : host.OnFile d id position content)
    (hother : other.OnFile d id position content) (count : Nat) (destination : Destination)
    (pace : Pace) :
    (host.reading d count destination pace).sight
      = (other.reading d count destination pace).sight := by
  rw [h.sight_reading_eq, hother.sight_reading_eq]

end OnFile

/-! ### The content stays

A read takes bytes from a queue, never from a file, and a queue is all that a close may empty. -/

section Content

variable {host : Host} {id : NodeId} {content : Bytes}

theorem node_consume_of_file (h : host.nodes[id]? = some (.file content)) (d : Descriptor)
    (file : OpenFile) (n : Nat) : (host.consume d file n).nodes[id]? = some (.file content) := by
  unfold consume
  split
  · exact h
  · next queue hqueue =>
    have hne : file.node ≠ id := by
      rintro rfl
      rw [h] at hqueue
      cases hqueue
    exact (List.getElem?_set_ne hne).trans h
  · exact h

theorem node_release_of_file (h : host.nodes[id]? = some (.file content)) (other : NodeId) :
    (host.release other).nodes[id]? = some (.file content) := by
  unfold release
  split
  · next queue hqueue =>
    have hne : other ≠ id := by
      rintro rfl
      rw [h] at hqueue
      cases hqueue
    split
    · exact h
    · exact (List.getElem?_set_ne hne).trans h
  · exact h

theorem node_reading_of_file (h : host.nodes[id]? = some (.file content)) (d : Descriptor)
    (count : Nat) (destination : Destination) (pace : Pace) :
    (host.reading d count destination pace).host.nodes[id]? = some (.file content) := by
  cases hfile : host.table.lookup d with
  | none =>
    rw [reading_of_not_open hfile]
    exact h
  | some file =>
    rw [(reading_of_open hfile count destination pace).2]
    exact node_consume_of_file h d file _

theorem node_opening_of_file (h : host.nodes[id]? = some (.file content))
    (path : Option Pathname) : (host.opening path).host.nodes[id]? = some (.file content) := by
  rcases host.opening_cases path with ⟨e, hfail⟩ | ⟨given, node, -, -, hopen⟩
  · rw [hfail]
    exact h
  · rw [hopen]
    exact h

theorem node_closing_of_file (h : host.nodes[id]? = some (.file content)) (d : Descriptor) :
    (host.closing d).host.nodes[id]? = some (.file content) := by
  rw [closing_eq]
  cases host.table.lookup d with
  | none => exact h
  | some file =>
    refine node_release_of_file ?_ file.node
    exact h

theorem Reads.node_of_file {d : Descriptor} {paces : List Pace} {calls : List SystemCall}
    (hreads : host.Reads d paces calls) (h : host.nodes[id]? = some (.file content)) :
    (host.afterAll calls).nodes[id]? = some (.file content) := by
  induction hreads with
  | nil host => exact h
  | cons _ _ ih => exact ih (node_reading_of_file h _ _ _ _)

end Content

/-! ### Rows of reads -/

/-- **A row of reads of a content,** each from where the one before it ended, and each served at a
pace that is allowed. -/
inductive Pieces (d : Descriptor) (content : Bytes) (allowed : Pace → Prop) :
    Nat → List Sight → Prop where
  | nil (position : Nat) : Pieces d content allowed position []
  | cons {position count : Nat} {destination : Destination} {pace : Pace} {sight : Sight}
      {sights : List Sight} (hpace : allowed pace)
      (hsight : sight = .ofServed d count (served content position count destination pace))
      (others : Pieces d content allowed (position + sight.data.length) sights) :
      Pieces d content allowed position (sight :: sights)

namespace Pieces

variable {d : Descriptor} {content : Bytes} {allowed : Pace → Prop} {position : Nat}
  {sights others : List Sight}

/-- Two rows of which the second begins where the first ends. -/
theorem append (h : Pieces d content allowed position sights)
    (hothers : Pieces d content allowed (position + (Sight.delivered sights).length) others) :
    Pieces d content allowed position (sights ++ others) := by
  induction h with
  | nil position => exact hothers
  | @cons position count destination pace sight sights hpace hsight _ ih =>
    rw [Sight.delivered_cons, List.length_append, ← Nat.add_assoc] at hothers
    exact .cons hpace hsight (ih hothers)

/-- **Consecutive pieces are one piece.** -/
theorem delivered_eq (h : Pieces d content allowed position sights) :
    Sight.delivered sights
      = (content.drop position).take (Sight.delivered sights).length := by
  induction h with
  | nil position => rfl
  | @cons position count destination pace sight sights _ hsight _ ih =>
    have hfirst : sight.data = (content.drop position).take sight.data.length := by
      rw [hsight]
      cases hserved : served content position count destination pace with
      | error e => rfl
      | ok data =>
        dsimp only [Sight.ofServed]
        rw [eq_take_of_served hserved, List.length_take, ← List.take_eq_take_min]
    rw [Sight.delivered_cons, List.length_append, ← take_drop_append, ← hfirst, ← ih]

/-- **Pieces that are not cut short** are as much as was asked for, as far as there is so much. -/
theorem delivered_in_full (h : Pieces d content allowed position sights)
    (hallowed : ∀ pace, allowed pace → ∀ n, pace ≠ .short n)
    (hcounts : ∀ sight ∈ sights, sight.requested ≤ maxTransfer) :
    Sight.delivered sights = (content.drop position).take (Sight.requestedOf sights) := by
  induction h with
  | nil position => rfl
  | @cons position count destination pace sight sights hpace hsight _ ih =>
    rw [List.forall_mem_cons] at hcounts
    have hfirst : sight.data = (content.drop position).take sight.requested := by
      have hcount := hcounts.1
      rw [hsight] at hcount ⊢
      cases hserved : served content position count destination pace with
      | error e => rfl
      | ok data =>
        -- No pace cuts the read short and no limit does, so it gives all that it was asked for, as
        -- far as there is that much.
        rw [hserved] at hcount
        have hwhole : most count pace = count := most_of_whole hcount (hallowed pace hpace)
        have hpiece := eq_take_of_served hserved
        rwa [hwhole] at hpiece
    -- A read may have given less than it was asked for, but then it was at the end, and nothing is
    -- left behind either position.
    have hgone : content.drop (position + sight.data.length)
        = content.drop (position + sight.requested) := by
      rw [hfirst]
      exact drop_length_piece content position _
    rw [Sight.delivered_cons, Sight.requestedOf_cons, ih hcounts.2, hgone, hfirst, take_drop_append]

end Pieces

/-- **A row of reads of a regular file** hands over consecutive pieces, and moves the position on by
as much. -/
theorem Reads.pieces {host : Host} {d : Descriptor} {paces : List Pace} {calls : List SystemCall}
    {id : NodeId} {position : Nat} {content : Bytes} (hreads : host.Reads d paces calls)
    (h : host.OnFile d id position content) (allowed : Pace → Prop)
    (hpaces : ∀ pace ∈ paces, allowed pace) (hfull : allowed .full) :
    (host.afterAll calls).OnFile d id
        (position + (Sight.delivered (calls.map SystemCall.sight)).length) content ∧
      Pieces d content allowed position (calls.map SystemCall.sight) := by
  induction hreads generalizing position with
  | nil host => exact ⟨h, .nil position⟩
  | @cons host count destination pace calls hpace _ ih =>
    -- The rest of the row starts where this read leaves the position.
    obtain ⟨hafter, hpieces⟩ := ih (h.reading count destination pace)
    have hallowed : allowed pace := hpace.elim (hpaces pace) fun heq => heq ▸ hfull
    rw [List.map_cons, Sight.delivered_cons, SystemCall.data_sight, List.length_append,
      ← Nat.add_assoc]
    exact ⟨hafter, .cons hallowed (h.sight_reading_eq count destination pace) hpieces⟩

end Host

end TracedPipe
