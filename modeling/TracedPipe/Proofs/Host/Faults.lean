import TracedPipe.Proofs.Host.OpenFiles

/-!
# Why calls fail

The reasons for which the host lets a call fail, and the code that goes with each of them. They are
all the reasons there are: `Host.fault_opening_iff`, `Host.fault_reading_iff`,
`Host.fault_closing_iff`.

A call that fails leaves the host as it was and writes nothing to memory, whatever the reason
(`Host.Spares`).
-/

namespace TracedPipe

/-- What a read is asked for, and how it is served. -/
structure Request where
  d : Descriptor
  count : Nat
  destination : Destination
  pace : Pace
deriving DecidableEq

/-- The call that serves a request. -/
def Host.serving (host : Host) (r : Request) : SystemCall :=
  host.reading r.d r.count r.destination r.pace

namespace Host

/-! ### The reasons -/

/-- **Why an open fails.** The path is that which the system is given. -/
inductive OpenFault (host : Host) : Option Pathname → Errno → Prop where
  /-- There is a null pointer in place of the path. -/
  | nullPointer : OpenFault host none .badAddress
  /-- The path leads nowhere. -/
  | unresolved {path : Pathname} {e : Errno}
      (hpath : Path.resolve host.nodes host.scratch path.bytes = .error e) :
      OpenFault host (some path) e
  /-- The path leads to a socket. -/
  | socket {path : Pathname} {id : NodeId}
      (hpath : Path.resolve host.nodes host.scratch path.bytes = .ok id)
      (hnode : host.nodes[id]? = some .socket) : OpenFault host (some path) .noDevice
  /-- The path leads to a FIFO, and the wait for a writer is interrupted. -/
  | noWriter {path : Pathname} {id : NodeId} {queue : Bytes}
      (hpath : Path.resolve host.nodes host.scratch path.bytes = .ok id)
      (hnode : host.nodes[id]? = some (.fifo queue)) (hwriter : host.hasWriter id = false) :
      OpenFault host (some path) .interrupted

/-- **Why a read fails.** -/
inductive ReadFault (host : Host) (r : Request) : Errno → Prop where
  /-- The descriptor is not open. -/
  | notOpen (hfile : host.table.lookup r.d = none) : ReadFault host r .badDescriptor
  /-- It is open on a directory. -/
  | directory {file : OpenFile} {parent : NodeId} {entries : List (Bytes × NodeId)}
      (hfile : host.table.lookup r.d = some file)
      (hnode : host.nodes[file.node]? = some (.directory parent entries)) :
      ReadFault host r .isDirectory
  /-- A signal comes before any byte. -/
  | signal {file : OpenFile} (hfile : host.table.lookup r.d = some file)
      (hnode : ∀ parent entries, host.nodes[file.node]? ≠ some (.directory parent entries))
      (hcount : r.count ≠ 0) (hpace : r.pace = .interrupted) : ReadFault host r .interrupted
  /-- It is open on a FIFO that has a writer and no bytes, and the wait for bytes is interrupted. -/
  | waiting {file : OpenFile} (hfile : host.table.lookup r.d = some file)
      (hnode : host.nodes[file.node]? = some (.fifo [])) (hwriter : host.hasWriter file.node = true)
      (hcount : r.count ≠ 0) (hpace : r.pace ≠ .interrupted) : ReadFault host r .interrupted
  /-- There are bytes, but no memory for them. -/
  | nullBuffer {file : OpenFile} {bytes : Bytes} (hfile : host.table.lookup r.d = some file)
      (hahead : host.ahead file 1 = some bytes) (hbytes : bytes ≠ []) (hcount : r.count ≠ 0)
      (hpace : r.pace ≠ .interrupted) (hdestination : r.destination = .null) :
      ReadFault host r .badAddress

variable {host : Host}

/-! ### A call fails for one of the reasons -/

/-- An open that fails has one of the reasons. -/
theorem openFault_of_openFile {path : Option Pathname} {e : Errno}
    (h : host.openFile (path.map Pathname.bytes) = .error e) : host.OpenFault path e := by
  cases path with
  | none =>
    cases h
    exact .nullPointer
  | some path =>
    rw [Option.map_some, openFile] at h
    cases hpath : Path.resolve host.nodes host.scratch path.bytes with
    | error fault =>
      rw [hpath] at h
      cases h
      exact .unresolved hpath
    | ok id =>
      rw [hpath] at h
      dsimp only at h
      -- The path leads to a node, so the reason lies in what kind of node it is.
      split at h
      · next hnode =>
        cases h
        exact .socket hpath hnode
      · next queue hnode =>
        split at h
        · -- A FIFO that has a writer is opened at once.
          cases h
        · next hwriter =>
          cases h
          exact .noWriter hpath hnode (Bool.eq_false_iff.mpr hwriter)
      · -- Every other node is opened.
        cases h

/-- For each of the reasons an open fails, with the code that goes with the reason. -/
theorem OpenFault.openFile_eq {path : Option Pathname} {e : Errno} (h : host.OpenFault path e) :
    host.openFile (path.map Pathname.bytes) = .error e := by
  cases h with
  | nullPointer => rfl
  | unresolved hpath => rw [Option.map_some, openFile, hpath]
  | socket hpath hnode => rw [Option.map_some, openFile, hpath]; dsimp only; rw [hnode]
  | noWriter hpath hnode hwriter =>
    rw [Option.map_some, openFile, hpath]
    dsimp only
    rw [hnode, hwriter]
    rfl

theorem fault_opening_iff {path : Option Pathname} {e : Errno} :
    (host.opening path).fault = some e ↔ host.OpenFault path e := by
  have herror : (host.opening path).fault = some e
      ↔ host.openFile (path.map Pathname.bytes) = .error e := by
    unfold opening
    cases host.openFile (path.map Pathname.bytes) <;> simp
  rw [herror]
  exact ⟨openFault_of_openFile, OpenFault.openFile_eq⟩

theorem fault_closing_iff {d : Descriptor} {e : Errno} :
    (host.closing d).fault = some e ↔ host.table.lookup d = none ∧ e = .badDescriptor := by
  rw [closing_eq]
  cases host.table.lookup d with
  | none => simp [eq_comm]
  | some file => simp

/-- A read that waits is one of an empty FIFO that has a writer. -/
theorem ahead_eq_none_iff {file : OpenFile} {count : Nat} :
    host.ahead file count = none
      ↔ host.nodes[file.node]? = some (.fifo []) ∧ host.hasWriter file.node = true := by
  unfold ahead
  split
  · next hnode => simp [hnode]
  · next queue hnode =>
    -- Of a FIFO nothing is ahead yet if it is empty and a writer may still fill it.
    rw [hnode]
    by_cases hempty : queue = [] ∧ host.hasWriter file.node = true
    · simp [hempty]
    · rw [if_neg hempty]
      simpa using hempty
  · next hnode => simp [hnode]
  · next hfifo _ =>
    simp only [reduceCtorEq, false_iff]
    rintro ⟨hnode, -⟩
    exact hfifo [] hnode

/-- A read that fails has one of the reasons. -/
theorem readFault_of_read {r : Request} {e : Errno}
    (h : host.read r.d r.count r.destination r.pace = .error e) : host.ReadFault r e := by
  unfold read at h
  cases hfile : host.table.lookup r.d with
  | none =>
    rw [hfile] at h
    cases h
    exact .notOpen hfile
  | some file =>
    rw [hfile] at h
    dsimp only at h
    -- From here on the cases are the questions that the read asks, in its order; where it answers
    -- with bytes, there is nothing to show.
    split at h
    · next parent entries hnode =>
      cases h
      exact .directory hfile hnode
    · next hnode =>
      split at h
      · cases h
      · next hcount =>
        split at h
        · next hpace =>
          cases h
          exact .signal hfile hnode hcount hpace
        · next hpace =>
          split at h
          · next hahead =>
            -- Nothing is known of what lies ahead, so the read would wait.
            cases h
            obtain ⟨hfifo, hwriter⟩ := ahead_eq_none_iff.mp hahead
            exact .waiting hfile hfifo hwriter hcount hpace
          · next bytes hahead =>
            by_cases hnull : r.destination = .null
            · -- Without memory the read looks one byte ahead, and fails if there is one.
              rw [if_pos hnull] at hahead
              rw [if_pos hnull, if_pos hnull] at h
              split at h
              · cases h
              · next hdata =>
                cases h
                refine .nullBuffer hfile hahead ?_ hcount hpace hnull
                rintro rfl
                exact hdata List.take_nil
            · -- With memory to write to, the bytes are handed over.
              rw [if_neg hnull, if_neg hnull] at h
              split at h <;> cases h

/-- For each of the reasons a read fails, with the code that goes with the reason. -/
theorem ReadFault.read_eq {r : Request} {e : Errno} (h : host.ReadFault r e) :
    host.read r.d r.count r.destination r.pace = .error e := by
  unfold read
  cases h with
  | notOpen hfile => rw [hfile]
  | directory hfile hnode => rw [hfile]; dsimp only; rw [hnode]
  | @signal file hfile hnode hcount hpace =>
    rw [hfile]
    dsimp only
    split
    · next parent entries hdirectory => exact absurd hdirectory (hnode parent entries)
    · rw [if_neg hcount, if_pos hpace]
  | @waiting file hfile hnode hwriter hcount hpace =>
    have hahead (n : Nat) : host.ahead file n = none := ahead_eq_none_iff.mpr ⟨hnode, hwriter⟩
    rw [hfile]
    dsimp only
    rw [hnode]
    dsimp only
    rw [if_neg hcount, if_neg hpace, hahead]
  | @nullBuffer file bytes hfile hahead hbytes hcount hpace hdestination =>
    rw [hfile]
    dsimp only
    split
    · next parent entries hdirectory =>
      -- A directory has no bytes ahead.
      rw [ahead, hdirectory] at hahead
      exact absurd (Option.some.inj hahead).symm hbytes
    · -- One byte ahead is enough for the read to miss its memory.
      rw [if_neg hcount, if_neg hpace, hdestination, if_pos rfl, hahead]
      dsimp only
      rw [if_neg (take_ne_nil Nat.one_pos hbytes), if_pos rfl]

theorem fault_reading_iff {r : Request} {e : Errno} :
    (host.serving r).fault = some e ↔ host.ReadFault r e := by
  have herror : (host.serving r).fault = some e
      ↔ host.read r.d r.count r.destination r.pace = .error e := by
    unfold serving reading
    cases host.read r.d r.count r.destination r.pace <;> simp
  rw [herror]
  exact ⟨readFault_of_read, ReadFault.read_eq⟩

/-! ### A call that fails spares the host and the memory -/

/-- A call that leaves the host as it was, and writes nothing to memory. -/
structure Spares (host : Host) (call : SystemCall) : Prop where
  host : call.host = host
  data : call.data = []

theorem spares_opening {path : Option Pathname} {e : Errno}
    (h : (host.opening path).fault = some e) : host.Spares (host.opening path) := by
  unfold opening at h ⊢
  split at h
  · cases h
  · exact ⟨rfl, rfl⟩

theorem spares_serving {r : Request} {e : Errno} (h : (host.serving r).fault = some e) :
    host.Spares (host.serving r) := by
  unfold serving reading at h ⊢
  split at h
  · cases h
  · exact ⟨rfl, rfl⟩

theorem spares_closing {d : Descriptor} {e : Errno} (h : (host.closing d).fault = some e) :
    host.Spares (host.closing d) := by
  unfold closing at h ⊢
  split at h
  · cases h
  · exact ⟨rfl, rfl⟩

/-! ### A call that fails says so -/

/-- The result of a read is negative if and only if the read fails. -/
theorem result_reading_neg_iff {d : Descriptor} {count : Nat} {destination : Destination}
    {pace : Pace} :
    (host.reading d count destination pace).result < 0
      ↔ (host.reading d count destination pace).fault ≠ none := by
  rw [host.result_reading]
  cases (host.reading d count destination pace).fault with
  | none => simp
  | some e => simp [World.failure]

/-- It is zero if and only if the read succeeds and hands over nothing. -/
theorem result_reading_eq_zero_iff {d : Descriptor} {count : Nat} {destination : Destination}
    {pace : Pace} :
    (host.reading d count destination pace).result = 0
      ↔ (host.reading d count destination pace).fault = none ∧
        (host.reading d count destination pace).data = [] := by
  rw [host.result_reading]
  cases (host.reading d count destination pace).fault with
  | none =>
    dsimp only
    rw [Int.natCast_eq_zero, List.length_eq_zero_iff]
    exact ⟨fun hdata => ⟨rfl, hdata⟩, fun h => h.2⟩
  | some e =>
    constructor
    · intro hzero
      cases hzero
    · rintro ⟨hnone, -⟩
      cases hnone

/-- The result of an open is negative if and only if the open fails. -/
theorem result_opening_neg_iff {path : Option Pathname} :
    (host.opening path).result < 0 ↔ (host.opening path).fault ≠ none := by
  rcases host.opening_cases path with ⟨e, hfail⟩ | ⟨given, id, -, -, hopen⟩
  · rw [hfail]
    simp [World.failure]
  · rw [hopen]
    simp

/-- So is that of a close. -/
theorem result_closing_neg_iff {d : Descriptor} :
    (host.closing d).result < 0 ↔ (host.closing d).fault ≠ none := by
  rw [closing_eq]
  cases host.table.lookup d with
  | none => simp [World.failure]
  | some file => simp

end Host

end TracedPipe
