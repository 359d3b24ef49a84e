import TracedPipe.Proofs.Host.SystemCall

/-!
# Open files under calls

What a single call does to the open files, and what a row of calls does.
-/

namespace TracedPipe

/-!
## What calls do to the open files

A descriptor stands for the open file in its row of the table, if there is one. Each of the three
calls is put here in a form that says all it can do to the rows:

* `Host.opening_cases` — an open fails and changes nothing, or takes the lowest free row;
* `Host.reading_cases` — a read of an open file fails and changes nothing, or moves that file along;
* `Host.closing_eq` — a close succeeds if and only if the descriptor is open, and then frees its
  row.

What becomes of the file of every other descriptor is read off them (`Host.lookup_put_lowestFree`,
`Host.lookup_reading`, `Host.lookup_closing`), so that no later proof opens a call again.
-/

/-- An item put in place of itself changes nothing. -/
theorem set_of_getElem? {α : Type} {l : List α} {n : Nat} {a : α} (h : l[n]? = some a) :
    l.set n a = l := by
  obtain ⟨hn, rfl⟩ := List.getElem?_eq_some_iff.mp h
  exact List.set_getElem_self hn

/-- As long as something is there, something is taken. -/
theorem take_ne_nil {α : Type} {l : List α} {n : Nat} (hn : 0 < n) (h : l ≠ []) :
    l.take n ≠ [] := by
  rw [Ne, List.take_eq_nil_iff]
  rintro (hzero | hnil)
  · exact absurd hzero (Nat.ne_of_gt hn)
  · exact h hnil

namespace Table

variable {table : Table}

/-! ### The file of a descriptor after a change to one row -/

theorem descriptor_eq_iff {m n : Nat} : (⟨Int.ofNat m⟩ : Descriptor) = ⟨(n : Int)⟩ ↔ m = n := by
  rw [Descriptor.mk.injEq]
  exact Int.ofNat_inj

theorem lookup_put {n : Nat} (h : n ≤ table.length) (file : OpenFile) (d : Descriptor) :
    (table.put n file).lookup d = if d = ⟨n⟩ then some file else table.lookup d := by
  obtain ⟨m | m⟩ := d
  · simp only [descriptor_eq_iff]
    exact row?_put h file m
  · rfl

/-- An open descriptor is the number of a row. -/
theorem exists_row_of_lookup {d : Descriptor} {file : OpenFile} (h : table.lookup d = some file) :
    ∃ n : Nat, d = ⟨(n : Int)⟩ ∧ table.row? n = some file := by
  obtain ⟨n | n⟩ := d
  · exact ⟨n, rfl, h⟩
  · cases h

theorem lookup_update {d : Descriptor} {former : OpenFile} (h : table.lookup d = some former)
    (file : OpenFile) (other : Descriptor) :
    (table.update d file).lookup other = if other = d then some file else table.lookup other := by
  obtain ⟨n, rfl, hrow⟩ := exists_row_of_lookup h
  obtain ⟨m | m⟩ := other
  · simp only [descriptor_eq_iff]
    exact row?_update hrow file m
  · rfl

theorem lookup_clear {d : Descriptor} {former : OpenFile} (h : table.lookup d = some former)
    (other : Descriptor) :
    (table.clear d).lookup other = if other = d then none else table.lookup other := by
  obtain ⟨n, rfl, -⟩ := exists_row_of_lookup h
  obtain ⟨m | m⟩ := other
  · simp only [descriptor_eq_iff]
    exact row?_clear table n m
  · rfl

theorem update_self {d : Descriptor} {file : OpenFile} (h : table.lookup d = some file) :
    table.update d file = table := by
  obtain ⟨n, rfl, hrow⟩ := exists_row_of_lookup h
  exact set_of_getElem? (Option.join_eq_some_iff.mp hrow)

/-- The later of two updates counts. -/
theorem update_update (table : Table) (d : Descriptor) (file other : OpenFile) :
    (table.update d file).update d other = table.update d other :=
  List.set_set _

end Table

namespace Host

variable {host : Host} {d : Descriptor} {file : OpenFile}

/-! ### Opening -/

/-- How an open can end: if it succeeds, its path leads to the node of the new file. -/
theorem openFile_cases (host : Host) (path : Option Bytes) :
    (∃ e, host.openFile path = .error e) ∨
    ∃ given id, path = some given ∧ Path.resolve host.nodes host.scratch given = .ok id ∧
      host.openFile path = .ok (⟨host.table.lowestFree⟩,
        { host with table := host.table.put host.table.lowestFree ⟨id, 0⟩ }) := by
  unfold openFile
  cases path with
  | none => exact .inl ⟨_, rfl⟩
  | some path =>
    dsimp only
    cases hpath : Path.resolve host.nodes host.scratch path with
    | error e => exact .inl ⟨e, rfl⟩
    | ok id =>
      dsimp only
      -- The node decides: a socket and a FIFO without a writer refuse, all others are opened.
      split
      · exact .inl ⟨_, rfl⟩
      · split
        · exact .inr ⟨path, id, rfl, hpath, rfl⟩
        · exact .inl ⟨_, rfl⟩
      · exact .inr ⟨path, id, rfl, hpath, rfl⟩

/-- **What an open can do:** it fails and changes nothing, or it puts the file that its path leads
to into the lowest free row, at its beginning. -/
theorem opening_cases (host : Host) (path : Option Pathname) :
    (∃ e, host.opening path = ⟨.opened path .invalid, World.failure, [], some e, host⟩) ∨
    ∃ given id, path = some given ∧
      Path.resolve host.nodes host.scratch given.bytes = .ok id ∧
      host.opening path = ⟨.opened path ⟨host.table.lowestFree⟩, host.table.lowestFree, [], none,
        { host with table := host.table.put host.table.lowestFree ⟨id, 0⟩ }⟩ := by
  unfold opening
  rcases host.openFile_cases (path.map Pathname.bytes) with ⟨e, h⟩ | ⟨bytes, id, hbytes, hpath, h⟩
  · rw [h]
    exact .inl ⟨e, rfl⟩
  · obtain ⟨given, rfl, rfl⟩ := Option.map_eq_some_iff.mp hbytes
    rw [h]
    exact .inr ⟨given, id, rfl, hpath, rfl⟩

/-- **An open succeeds on a regular file,** with the lowest free descriptor. -/
theorem opening_of_file {path : Pathname} {id : NodeId} {content : Bytes}
    (hpath : Path.resolve host.nodes host.scratch path.bytes = .ok id)
    (hnode : host.nodes[id]? = some (.file content)) :
    host.opening (some path) =
      ⟨.opened (some path) ⟨host.table.lowestFree⟩, host.table.lowestFree, [], none,
        { host with table := host.table.put host.table.lowestFree ⟨id, 0⟩ }⟩ := by
  have hopen : host.openFile (some path.bytes) = .ok (⟨host.table.lowestFree⟩,
      { host with table := host.table.put host.table.lowestFree ⟨id, 0⟩ }) := by
    unfold openFile
    simp only [hpath, hnode]
  unfold opening
  rw [Option.map_some, hopen]

/-- The open files after an open that succeeds. -/
theorem lookup_put_lowestFree (host : Host) (file : OpenFile) (d : Descriptor) :
    (host.table.put host.table.lowestFree file).lookup d
      = if d = ⟨host.table.lowestFree⟩ then some file else host.table.lookup d :=
  Table.lookup_put host.table.lowestFree_le_length file d

/-! ### Closing -/

/-- Letting go of a node leaves the table alone. -/
@[simp] theorem table_release (host : Host) (id : NodeId) :
    (host.release id).table = host.table := by
  unfold release
  split
  · split <;> rfl
  · rfl

/-- **A close succeeds if and only if its descriptor is open.** It frees the row, and lets go of the
node. -/
theorem closing_eq (host : Host) (d : Descriptor) :
    host.closing d =
      match host.table.lookup d with
      | none => ⟨.closed d World.failure, World.failure, [], some .badDescriptor, host⟩
      | some file =>
        ⟨.closed d 0, 0, [], none,
          { host with table := host.table.clear d }.release file.node⟩ := by
  unfold closing close
  cases host.table.lookup d <;> rfl

/-- Letting go of a node leaves the other nodes alone. -/
theorem nodes_release_of_ne (host : Host) {id other : NodeId} (h : other ≠ id) :
    (host.release id).nodes[other]? = host.nodes[other]? := by
  unfold release
  split
  · split
    · rfl
    · exact List.getElem?_set_ne (Ne.symm h)
  · rfl

/-- The open files after a close of a descriptor that is open. -/
theorem lookup_closing (h : host.table.lookup d = some file) (other : Descriptor) :
    (host.closing d).host.table.lookup other
      = if other = d then none else host.table.lookup other := by
  rw [closing_eq, h]
  dsimp only
  rw [table_release]
  exact Table.lookup_clear h other

/-! ### Reading -/

/-- **A descriptor that is not open cannot be read,** whatever is asked for. -/
theorem reading_of_not_open (h : host.table.lookup d = none) (count : Nat)
    (destination : Destination) (pace : Pace) :
    host.reading d count destination pace
      = ⟨.read d count World.failure, World.failure, [], some .badDescriptor, host⟩ := by
  unfold reading read
  rw [h]

/-- Taking no bytes leaves the host as it is. -/
theorem consume_zero (h : host.table.lookup d = some file) : host.consume d file 0 = host := by
  unfold consume
  split
  · rw [Nat.add_zero, Table.update_self h]
  · next queue hnode => rw [List.drop_zero, set_of_getElem? hnode]
  · rfl

/-- The open files after some bytes were taken: the file of the descriptor is the same file, and no
other one moved. -/
theorem lookup_consume (h : host.table.lookup d = some file) (n : Nat) :
    ∃ position, ∀ other, (host.consume d file n).table.lookup other
      = if other = d then some ⟨file.node, position⟩ else host.table.lookup other := by
  have hsame (other : Descriptor) : host.table.lookup other
      = if other = d then some ⟨file.node, file.position⟩ else host.table.lookup other := by
    split
    · next heq => rw [heq, h]
    · rfl
  unfold consume
  split
  · exact ⟨file.position + n, fun other => Table.lookup_update h _ other⟩
  · exact ⟨file.position, hsame⟩
  · exact ⟨file.position, hsame⟩

/-- Taking bytes from a node leaves the other nodes alone. -/
theorem nodes_consume_of_ne (host : Host) (d : Descriptor) (n : Nat) {id : NodeId}
    (h : id ≠ file.node) : (host.consume d file n).nodes[id]? = host.nodes[id]? := by
  unfold consume
  split
  · rfl
  · exact List.getElem?_set_ne (Ne.symm h)
  · rfl

/-- What a read looks at is the front of what a larger one would have looked at. -/
theorem take_ahead {n m : Nat} {bytes : Bytes} (h : host.ahead file n = some bytes) (hn : n ≤ m) :
    bytes.take n <+: (host.ahead file m).getD [] := by
  unfold ahead at h ⊢
  split at h
  · -- The file has what it has, however far one looks.
    obtain rfl := Option.some.inj h
    exact List.take_prefix _ _
  · split at h
    · cases h
    · next hwriter =>
      -- The queue of a FIFO is shown whole, if it is shown at all.
      obtain rfl := Option.some.inj h
      rw [if_neg hwriter]
      exact List.take_prefix _ _
  · -- Of the zeros there are as many as are looked at, so fewer of them are a prefix of more.
    obtain rfl := Option.some.inj h
    rw [List.take_replicate, Nat.min_self]
    exact ⟨List.replicate (m - n) 0, by
      rw [List.replicate_append_replicate, Nat.add_sub_cancel' hn, Option.getD_some]⟩
  · -- Nothing else has bytes ahead.
    obtain rfl := Option.some.inj h
    exact ⟨[], by simp⟩

/-- How a read of an open file can end. -/
theorem read_cases (h : host.table.lookup d = some file) (count : Nat) (destination : Destination)
    (pace : Pace) :
    (∃ e, host.read d count destination pace = .error e) ∨
    ∃ data : Bytes, data.length ≤ min count maxTransfer ∧
      data <+: (host.ahead file count).getD [] ∧
      host.read d count destination pace = .ok (data, host.consume d file data.length) := by
  -- A read that gives no bytes moves the file along by none.
  have hnone : ∃ data : Bytes, data.length ≤ min count maxTransfer ∧
      data <+: (host.ahead file count).getD [] ∧
      (.ok ([], host) : Except Errno (Bytes × Host))
        = .ok (data, host.consume d file data.length) :=
    ⟨[], Nat.zero_le _, List.nil_prefix, by rw [List.length_nil, consume_zero h]⟩
  unfold read
  rw [h]
  dsimp only
  -- The questions of the read in its order: a directory, nothing asked for, a signal, nothing to be
  -- seen yet, and then the bytes ahead.
  split
  · exact .inl ⟨_, rfl⟩
  · split
    · exact .inr hnone
    · split
      · exact .inl ⟨_, rfl⟩
      · split
        · exact .inl ⟨_, rfl⟩
        · next bytes hahead =>
          by_cases hnull : destination = .null
          · -- The one byte looked at is not handed over.
            rw [if_pos hnull, if_pos hnull]
            split
            · exact .inr hnone
            · exact .inl ⟨_, rfl⟩
          · rw [if_neg hnull] at hahead ⊢
            rw [if_neg hnull]
            split
            · exact .inr hnone
            · -- What the pace allows is no more than what was asked for.
              have hlimit : pace.limit count ≤ count := by
                unfold Pace.limit
                split <;> omega
              have hlength := List.length_take_le (min (pace.limit count) maxTransfer) bytes
              exact .inr ⟨_, by omega, take_ahead hahead (by omega), rfl⟩

/-- **What a read can do to an open file:** it fails and changes nothing, or it takes bytes off the
front of what is ahead, no more than it was asked for, and no more than a single read hands over. -/
theorem reading_cases (h : host.table.lookup d = some file) (count : Nat)
    (destination : Destination) (pace : Pace) :
    (∃ e, host.reading d count destination pace
      = ⟨.read d count World.failure, World.failure, [], some e, host⟩) ∨
    ∃ data : Bytes, data.length ≤ min count maxTransfer ∧
      data <+: (host.ahead file count).getD [] ∧
      host.reading d count destination pace
        = ⟨.read d count data.length, data.length, data, none,
            host.consume d file data.length⟩ := by
  unfold reading
  rcases read_cases h count destination pace with ⟨e, hread⟩ | ⟨data, hlength, hahead, hread⟩
  · rw [hread]
    exact .inl ⟨e, rfl⟩
  · rw [hread]
    exact .inr ⟨data, hlength, hahead, rfl⟩

/-- What a read of an open file writes is what it takes, the front of what is ahead; a read that
fails takes nothing. -/
theorem reading_of_open (h : host.table.lookup d = some file) (count : Nat)
    (destination : Destination) (pace : Pace) :
    (host.reading d count destination pace).data <+: (host.ahead file count).getD [] ∧
      (host.reading d count destination pace).host
        = host.consume d file (host.reading d count destination pace).data.length := by
  rcases reading_cases h count destination pace with ⟨e, hread⟩ | ⟨data, -, hahead, hread⟩
  · rw [hread]
    exact ⟨List.nil_prefix, (consume_zero h).symm⟩
  · rw [hread]
    exact ⟨hahead, rfl⟩

/-- A read writes no more bytes than it was asked for, and no more than a single read hands over. -/
theorem length_data_reading (host : Host) (d : Descriptor) (count : Nat)
    (destination : Destination) (pace : Pace) :
    (host.reading d count destination pace).data.length ≤ min count maxTransfer := by
  cases h : host.table.lookup d with
  | none =>
    rw [reading_of_not_open h]
    exact Nat.zero_le _
  | some file =>
    rcases reading_cases h count destination pace with ⟨e, hread⟩ | ⟨data, hlength, -, hread⟩
    · rw [hread]
      exact Nat.zero_le _
    · rw [hread]
      exact hlength

/-- The result of a read: how many bytes it wrote, or that it failed. -/
theorem result_reading (host : Host) (d : Descriptor) (count : Nat) (destination : Destination)
    (pace : Pace) :
    (host.reading d count destination pace).result =
      match (host.reading d count destination pace).fault with
      | none => ((host.reading d count destination pace).data.length : Int)
      | some _ => World.failure := by
  unfold reading
  cases host.read d count destination pace <;> rfl

/-- **The results that a system may give** to a read of up to `count` bytes: that the read failed,
or a number of bytes, no more than it was asked for, and no more than a single read hands over. -/
def MayReturn (count : Nat) (result : Int) : Prop :=
  result = World.failure ∨ 0 ≤ result ∧ result ≤ min count maxTransfer

/-- The host gives such a result to every read. -/
theorem mayReturn_reading (host : Host) (d : Descriptor) (count : Nat) (destination : Destination)
    (pace : Pace) : MayReturn count (host.reading d count destination pace).result := by
  have hlength := host.length_data_reading d count destination pace
  rw [MayReturn, host.result_reading]
  cases (host.reading d count destination pace).fault with
  | some e => exact .inl rfl
  | none => exact .inr ⟨Int.natCast_nonneg _, Int.ofNat_le.mpr hlength⟩

/-- A read that fails writes nothing. -/
theorem data_reading_of_fault (host : Host) (d : Descriptor) (count : Nat)
    (destination : Destination) (pace : Pace) {e : Errno}
    (h : (host.reading d count destination pace).fault = some e) :
    (host.reading d count destination pace).data = [] := by
  unfold reading at h ⊢
  cases hread : host.read d count destination pace with
  | ok outcome =>
    rw [hread] at h
    cases h
  | error e => rfl

/-- The open files after a read: no descriptor is opened or closed, and no other file moved. -/
theorem lookup_reading (host : Host) (d : Descriptor) (count : Nat) (destination : Destination)
    (pace : Pace) :
    (∀ other, ((host.reading d count destination pace).host.table.lookup other).map OpenFile.node
      = (host.table.lookup other).map OpenFile.node) ∧
    ∀ other, other ≠ d → (host.reading d count destination pace).host.table.lookup other
      = host.table.lookup other := by
  cases h : host.table.lookup d with
  | none =>
    rw [reading_of_not_open h]
    exact ⟨fun _ => rfl, fun _ _ => rfl⟩
  | some file =>
    rcases reading_cases h count destination pace with ⟨e, hread⟩ | ⟨data, -, -, hread⟩
    · rw [hread]
      exact ⟨fun _ => rfl, fun _ _ => rfl⟩
    · rw [hread]
      obtain ⟨position, hlookup⟩ := lookup_consume h data.length
      refine ⟨fun other => ?_, fun other hother => ?_⟩
      · -- The node of the file that is moved along stays what it was.
        rw [hlookup]
        split
        · next heq => rw [heq, h]; rfl
        · rfl
      · rw [hlookup, if_neg hother]

/-- A read leaves the nodes alone that its descriptor is not open on. -/
theorem nodes_reading_of_ne (host : Host) (d : Descriptor) (count : Nat)
    (destination : Destination) (pace : Pace) {id : NodeId}
    (hid : (host.table.lookup d).map OpenFile.node ≠ some id) :
    (host.reading d count destination pace).host.nodes[id]? = host.nodes[id]? := by
  cases h : host.table.lookup d with
  | none => rw [reading_of_not_open h]
  | some file =>
    rw [h] at hid
    rcases reading_cases h count destination pace with ⟨e, hread⟩ | ⟨data, -, -, hread⟩
    · rw [hread]
    · rw [hread]
      exact host.nodes_consume_of_ne d data.length fun heq => hid (congrArg some heq.symm)

end Host

/-!
## Rows of calls on a host

The host after a row of calls is the one that the last of them left (`Host.afterAll`). A row of
reads of one descriptor (`Host.Reads`) opens and closes nothing, and moves no other file.
-/

namespace Host

/-- The host after a row of system calls. -/
def afterAll (host : Host) (calls : List SystemCall) : Host :=
  calls.foldl (fun _ call => call.host) host

@[simp] theorem afterAll_cons (host : Host) (call : SystemCall) (calls : List SystemCall) :
    host.afterAll (call :: calls) = call.host.afterAll calls := rfl

/-- The calls of a row are reads of a descriptor, each made on the host that the one before it left,
and served at one of the given paces or in full. -/
inductive Reads (d : Descriptor) (paces : List Pace) : Host → List SystemCall → Prop where
  | nil (host : Host) : Reads d paces host []
  | cons {host : Host} {count : Nat} {destination : Destination} {pace : Pace}
      {calls : List SystemCall} (hpace : pace ∈ paces ∨ pace = .full)
      (others : Reads d paces (host.reading d count destination pace).host calls) :
      Reads d paces host (host.reading d count destination pace :: calls)

namespace Reads

variable {host : Host} {d : Descriptor} {paces : List Pace} {calls : List SystemCall}

theorem single (host : Host) (d : Descriptor) (count : Nat) (destination : Destination)
    {pace : Pace} (hpace : pace ∈ paces ∨ pace = .full) :
    Reads d paces host [host.reading d count destination pace] :=
  .cons hpace (.nil _)

/-- The first of a row of reads is served at the first pace, or in full if there is none. -/
theorem pace_headD (paces : List Pace) :
    paces.headD .full ∈ paces ∨ paces.headD .full = .full := by
  cases paces with
  | nil => exact .inr rfl
  | cons pace paces => exact .inl List.mem_cons_self

/-- The reads after the first are served at the paces after the first. -/
theorem of_tail (h : Reads d paces.tail host calls) : Reads d paces host calls := by
  induction h with
  | nil host => exact .nil host
  | cons hpace _ ih => exact .cons (hpace.imp_left List.mem_of_mem_tail) ih

/-- Reads leave every descriptor the file that it stands for. -/
theorem node_lookup (h : Reads d paces host calls) (other : Descriptor) :
    ((host.afterAll calls).table.lookup other).map OpenFile.node
      = (host.table.lookup other).map OpenFile.node := by
  induction h with
  | nil host => rfl
  | @cons host count destination pace calls _ others ih =>
    rw [afterAll_cons, ih]
    exact (host.lookup_reading d count destination pace).1 other

/-- Reads move no other file. -/
theorem lookup_of_ne (h : Reads d paces host calls) {other : Descriptor} (hother : other ≠ d) :
    (host.afterAll calls).table.lookup other = host.table.lookup other := by
  induction h with
  | nil host => rfl
  | @cons host count destination pace calls _ others ih =>
    rw [afterAll_cons, ih]
    exact (host.lookup_reading d count destination pace).2 other hother

/-- Reads take bytes from the node of their descriptor, and leave the other nodes alone. -/
theorem nodes_of_ne (h : Reads d paces host calls) {id : NodeId}
    (hid : (host.table.lookup d).map OpenFile.node ≠ some id) :
    (host.afterAll calls).nodes[id]? = host.nodes[id]? := by
  induction h with
  | nil host => rfl
  | @cons host count destination pace calls _ others ih =>
    rw [afterAll_cons, ih (by rwa [(host.lookup_reading d count destination pace).1 d])]
    exact host.nodes_reading_of_ne d count destination pace hid

/-- Reads of a descriptor that is not open all fail, and change nothing. -/
theorem of_not_open (h : Reads d paces host calls) (hd : host.table.lookup d = none) :
    host.afterAll calls = host ∧
      ∀ call ∈ calls, call.result = World.failure ∧ call.fault = some .badDescriptor := by
  induction h with
  | nil host => exact ⟨rfl, fun call hmem => absurd hmem List.not_mem_nil⟩
  | @cons host count destination pace calls _ others ih =>
    rw [reading_of_not_open hd] at ih ⊢
    obtain ⟨hhost, hfail⟩ := ih hd
    refine ⟨hhost, fun call hmem => ?_⟩
    rcases List.mem_cons.mp hmem with rfl | hmem
    · exact ⟨rfl, rfl⟩
    · exact hfail call hmem

end Reads

end Host

/-- The host of a world after a row of calls. -/
theorem World.host_afterAll_eq (w : World) (calls : List SystemCall) :
    (w.afterAll calls).host = w.host.afterAll calls := by
  induction calls generalizing w with
  | nil => rfl
  | cons call calls ih => exact ih (w.after call)

end TracedPipe
