import TracedPipe.Errno
import TracedPipe.Host.Path

/-!
# Hosts and system calls

The state of the operating system, and the three calls that this library makes of it.
-/

namespace TracedPipe

/-!
## The table of open files

Descriptor `n` is open if row `n` of the table holds an open file. Each open makes a file of its
own, with its own position, in the lowest row that is free.

* `Table.row?_lowestFree`, `Table.isSome_row?_of_lt_lowestFree` — the row that an open takes is
  free, and none below it is;
* `Table.row?_put`, `Table.row?_update`, `Table.row?_clear` — opening, reading and closing
  change the row they name and no other.
-/

/-- A file that was opened: what it is open on, and how far it was read. -/
structure OpenFile where
  node : NodeId
  position : Nat
deriving DecidableEq, Repr

/-- The open files, each in the row of its descriptor. -/
abbrev Table := List (Option OpenFile)

namespace Table

/-- The open file of a row. -/
def row? (table : Table) (n : Nat) : Option OpenFile := table[n]?.join

/-- The open file of a descriptor; a negative number has none. -/
def lookup (table : Table) (d : Descriptor) : Option OpenFile :=
  match d.number with
  | .ofNat n => table.row? n
  | .negSucc _ => none

/-- The lowest row that holds no open file. -/
def lowestFree (table : Table) : Nat := table.findIdx Option.isNone

/-- The table with a file in row `n`, which is one of its rows or the one after them. -/
def put (table : Table) (n : Nat) (file : OpenFile) : Table :=
  if n < table.length then table.set n (some file) else table ++ [some file]

/-- The table with the file of a descriptor replaced. -/
def update (table : Table) (d : Descriptor) (file : OpenFile) : Table :=
  table.set d.number.toNat (some file)

/-- The table without the file of a descriptor. -/
def clear (table : Table) (d : Descriptor) : Table := table.set d.number.toNat none

/-- Whether some descriptor is open on a node. -/
def hasOpen (table : Table) (id : NodeId) : Bool :=
  table.any fun row => row.any fun file => file.node = id

/-! ### Which rows an operation changes -/

@[simp] theorem row?_nil (n : Nat) : row? [] n = none := rfl

@[simp] theorem row?_cons_zero (row : Option OpenFile) (table : Table) :
    row? (row :: table) 0 = row := rfl

@[simp] theorem row?_cons_succ (row : Option OpenFile) (table : Table) (n : Nat) :
    row? (row :: table) (n + 1) = row? table n := rfl

/-- The row that an open takes is free. -/
theorem row?_lowestFree (table : Table) : table.row? table.lowestFree = none := by
  induction table with
  | nil => rfl
  | cons row table ih =>
    cases row with
    | none => rfl
    | some file => simpa [lowestFree, List.findIdx_cons] using ih

/-- No row below the one that an open takes is free. -/
theorem isSome_row?_of_lt_lowestFree {table : Table} {n : Nat} (h : n < table.lowestFree) :
    (table.row? n).isSome := by
  induction table generalizing n with
  | nil => simp [lowestFree] at h
  | cons row table ih =>
    cases row with
    | none => simp [lowestFree, List.findIdx_cons] at h
    | some file =>
      cases n with
      | zero => rfl
      | succ n =>
        simp only [lowestFree, List.findIdx_cons, Option.isNone_some, cond_false] at h
        exact ih (Nat.lt_of_succ_lt_succ h)

theorem lowestFree_le_length (table : Table) : table.lowestFree ≤ table.length :=
  List.findIdx_le_length

theorem row?_put {table : Table} {n : Nat} (h : n ≤ table.length) (file : OpenFile) (m : Nat) :
    (table.put n file).row? m = if m = n then some file else table.row? m := by
  unfold put row?
  split
  · next hn =>
    rw [List.getElem?_set]
    by_cases hm : m = n
    · simp [hm, hn]
    · simp [hm, Ne.symm hm]
  · next hn =>
    -- The row after the last one is the length of the table.
    have hlen : table.length = n := by omega
    subst hlen
    rw [List.getElem?_append]
    by_cases hm : m = table.length
    · simp [hm]
    · by_cases hlt : m < table.length
      · simp [hm, hlt]
      · simp [hm, hlt, List.getElem?_eq_none (show [some file].length ≤ m - table.length by
          simp; omega)]

theorem row?_update {table : Table} {n : Nat} {former : OpenFile} (h : table.row? n = some former)
    (file : OpenFile) (m : Nat) :
    (table.update ⟨(n : Int)⟩ file).row? m = if m = n then some file else table.row? m := by
  have hn : n < table.length := by
    rcases Nat.lt_or_ge n table.length with hlt | hge
    · exact hlt
    · simp [row?, List.getElem?_eq_none hge] at h
  unfold update row?
  rw [Int.toNat_natCast, List.getElem?_set]
  by_cases hm : m = n
  · simp [hm, hn]
  · simp [hm, Ne.symm hm]

theorem row?_clear (table : Table) (n m : Nat) :
    (table.clear ⟨(n : Int)⟩).row? m = if m = n then none else table.row? m := by
  unfold clear row?
  rw [Int.toNat_natCast, List.getElem?_set]
  by_cases hm : m = n
  · subst hm
    by_cases hlt : m < table.length
    · simp [hlt]
    · simp [hlt]
  · simp [hm, Ne.symm hm]

end Table

/-!
## The host

The part of the operating system that this library's calls can see: the nodes, the table of open
files, the directory that relative paths start from, and the ends of FIFOs that others hold open
for writing, each under the name it was opened by.

A FIFO keeps its bytes as long as some descriptor or some writer has it open (`Host.release`).
-/

/-- The state of the operating system. -/
structure Host where
  nodes : Nodes
  scratch : NodeId
  table : Table
  writers : List (Bytes × NodeId)
deriving DecidableEq, Repr

namespace Host

/-- A host with an empty scratch directory and the devices, and nothing open. -/
def fresh : Host where
  nodes := [
    .directory 0 [(ascii "dev", 1), (ascii "tmp", 5)],
    .directory 0 [(ascii "null", 2), (ascii "zero", 3), (ascii "full", 4)],
    .nullDevice,
    .zeroDevice,
    .zeroDevice,
    .directory 0 [(ascii "scratch", 6)],
    .directory 5 []]
  scratch := 6
  table := []
  writers := []

/-- Whether a FIFO is open for writing. -/
def hasWriter (host : Host) (id : NodeId) : Bool := host.writers.any (·.2 = id)

/-- Lets go of a node that an end was closed of: a FIFO that nothing has open loses its bytes. -/
def release (host : Host) (id : NodeId) : Host :=
  match host.nodes[id]? with
  | some (.fifo _) =>
    if host.table.hasOpen id || host.hasWriter id then host
    else { host with nodes := host.nodes.set id (.fifo []) }
  | _ => host

end Host

/-!
## The system calls

Opening, reading and closing, as the operating system answers them. A call that fails gives an error
code and leaves the host as it was; there is no new host to return.

Nothing else happens in a session while one of its calls runs, so a wait can only be ended by a
signal: a call that would have to wait fails as interrupted.

A read that could be served at once is served in one piece unless its `Pace` says otherwise: the
operating system may hand over less than there is, and it may let a signal come first.
-/

/-- The memory that a read is given. -/
inductive Destination where
  /-- Memory that can be written. -/
  | memory
  /-- A null pointer. -/
  | null
deriving DecidableEq, Repr

/-- How the operating system serves a read. -/
inductive Pace where
  /-- As many bytes as asked for and there. -/
  | full
  /-- At most one byte more than the given number. -/
  | short (atMost : Nat)
  /-- A signal comes before any byte is handed over. -/
  | interrupted
deriving DecidableEq, Repr

/-- The most bytes that one read at this pace hands over. -/
def Pace.limit (pace : Pace) (count : Nat) : Nat :=
  match pace with
  | .short n => min count (n + 1)
  | _ => count

namespace Host

/-- The most bytes that a single read hands over, whatever it is asked for. -/
def maxTransfer : Nat := 0x7ffff000

/-- **Opens a path for reading,** or the null pointer in place of one. The file opened takes the
lowest free descriptor. -/
def openFile (host : Host) (path : Option Bytes) : Except Errno (Descriptor × Host) :=
  match path with
  | none => .error .badAddress
  | some path =>
    match Path.resolve host.nodes host.scratch path with
    | .error e => .error e
    | .ok id =>
      let n := host.table.lowestFree
      let opened := (⟨n⟩, { host with table := host.table.put n ⟨id, 0⟩ })
      match host.nodes[id]? with
      | some .socket => .error .noDevice
      | some (.fifo _) => if host.hasWriter id then .ok opened else .error .interrupted
      | _ => .ok opened

/-- The bytes an open file has ahead of it for a read of up to `count` bytes; none if the read would
have to wait for them. -/
def ahead (host : Host) (file : OpenFile) (count : Nat) : Option Bytes :=
  match host.nodes[file.node]? with
  | some (.file content) => some (content.drop file.position)
  | some (.fifo queue) => if queue = [] ∧ host.hasWriter file.node then none else some queue
  | some .zeroDevice => some (List.replicate count 0)
  | _ => some []

/-- The host after `n` bytes were read from the open file of a descriptor: its position moves,
and the bytes leave a FIFO. -/
def consume (host : Host) (d : Descriptor) (file : OpenFile) (n : Nat) : Host :=
  match host.nodes[file.node]? with
  | some (.file _) =>
    { host with table := host.table.update d { file with position := file.position + n } }
  | some (.fifo queue) => { host with nodes := host.nodes.set file.node (.fifo (queue.drop n)) }
  | _ => host

/-- **Reads up to `count` bytes.** The checks come in this order: the descriptor must be open,
and not on a directory; a read of no bytes succeeds; then a signal or a wait may end it; bytes
that are there need memory to go to. -/
def read (host : Host) (d : Descriptor) (count : Nat) (destination : Destination) (pace : Pace) :
    Except Errno (Bytes × Host) :=
  match host.table.lookup d with
  | none => .error .badDescriptor
  | some file =>
    match host.nodes[file.node]? with
    | some (.directory _ _) => .error .isDirectory
    | _ =>
      if count = 0 then .ok ([], host)
      else if pace = .interrupted then .error .interrupted
      else
        -- A null pointer is found out at the first byte, so no more than one is looked at.
        let most := if destination = .null then 1 else min (pace.limit count) maxTransfer
        match host.ahead file most with
        | none => .error .interrupted
        | some bytes =>
          let data := bytes.take most
          if data = [] then .ok ([], host)
          else if destination = .null then .error .badAddress
          else .ok (data, host.consume d file data.length)

/-- **Closes a descriptor.** -/
def close (host : Host) (d : Descriptor) : Except Errno Host :=
  match host.table.lookup d with
  | none => .error .badDescriptor
  | some file => .ok ({ host with table := host.table.clear d }.release file.node)

end Host

/-!
## The world of a thread

The host and the thread's errno: all that a system call can change. A system call that fails
gives −1 and leaves its code in errno; one that succeeds leaves errno alone.
-/

/-- What a system call sees and changes. -/
structure World where
  host : Host
  errno : Errno
deriving DecidableEq

namespace World

/-- The result of a system call that failed. -/
def failure : Int := -1

/-- Opens a path, or the null pointer in place of one. -/
def openFile (w : World) (path : Option Bytes) : World × Descriptor :=
  match w.host.openFile path with
  | .ok (d, host) => ({ w with host }, d)
  | .error e => ({ w with errno := e }, ⟨failure⟩)

/-- Reads up to `count` bytes: the result of the call, and the bytes written to memory. -/
def read (w : World) (d : Descriptor) (count : Nat) (destination : Destination) (pace : Pace) :
    World × Int × Bytes :=
  match w.host.read d count destination pace with
  | .ok (data, host) => ({ w with host }, data.length, data)
  | .error e => ({ w with errno := e }, failure, [])

/-- Closes a descriptor. -/
def close (w : World) (d : Descriptor) : World × Int :=
  match w.host.close d with
  | .ok host => ({ w with host }, 0)
  | .error e => ({ w with errno := e }, failure)

/-- The invalid descriptor is never open: closing it fails and changes errno alone. -/
theorem close_invalid (w : World) :
    w.close .invalid = ({ w with errno := .badDescriptor }, failure) := rfl

end World

end TracedPipe
