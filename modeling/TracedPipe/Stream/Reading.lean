import TracedPipe.Errno
import TracedPipe.Session.Basic
import TracedPipe.Text.Basic

/-!
# Streams

Descriptors as streams of bytes: the buffers that are read into, the loop of reads that gathers
bytes, and the ways of reading that are built on it.
-/

namespace TracedPipe

/-!
## Buffers

The memory that a read writes to. Buffers hold `Buffer.filler` before they are read into, so that it
shows which part of them was written. A read writes to the front and nowhere else: storing data
keeps all that lies behind the data (`Buffer.drop_store`).
-/

namespace Buffer

/-- What a buffer holds before anything is read into it. -/
def filler : UInt8 := 0xaa

/-- A buffer of the given size. -/
def ofSize (size : Nat) : Bytes := List.replicate size filler

/-- Data written to the front of a buffer; the rest stays. -/
def store (data buffer : Bytes) : Bytes := data ++ buffer.drop data.length

/-- Whether a buffer of the given size still holds the filler after the data read into it. -/
def restIntact (size : Nat) (data : Bytes) : Bool :=
  ((store data (ofSize size)).drop data.length).all (· = filler)

theorem drop_store (data buffer : Bytes) :
    (store data buffer).drop data.length = buffer.drop data.length := by
  simp [store]

/-- **A read leaves the rest of its buffer alone.** -/
theorem restIntact_eq_true (size : Nat) (data : Bytes) : restIntact size data = true := by
  simp [restIntact, drop_store, ofSize]

end Buffer

/-!
## Gathering bytes from a descriptor

Reading a descriptor as a stream of bytes is one call after another: a *plan* says how many bytes to
ask for next, given how many there are, until it has enough or the stream ends. A read that a signal
interrupted is made again; any other failure ends the gathering.

`Gathering.run` is that loop. It stops by itself if the stream ends, or the plan asks for no
more; what never stops, such as gathering the endless zeros, is `Ended.never`.
-/

/-- What one read of a stream gives. -/
inductive Portion where
  /-- Bytes; none at the end of the stream. -/
  | data (bytes : Bytes)
  /-- The error of the system call. -/
  | failed (e : Errno)
  /-- An observer panicked. -/
  | panicked (message : String)
deriving DecidableEq

/-- One read of a descriptor as a stream: the result of the call decides whether it failed, and
errno holds the cause. -/
def Session.portion (s : Session) (d : Descriptor) (size : Nat) (pace : Pace) :
    Session × List Entry × Portion :=
  let call := s.read d size pace
  (call.session, call.entries,
    match call.ending with
    | .panicked message => .panicked message
    | .returned r =>
      match call.session.world.errno.check r.result with
      | .ok _ => .data r.data
      | .error e => .failed e)

/-- How a gathering ends. -/
inductive Ended where
  /-- The plan has enough. -/
  | enough
  /-- The stream ended before. -/
  | atEnd
  /-- A read failed. -/
  | failed (e : Errno)
  /-- An observer panicked. -/
  | panicked (message : String)
  /-- There is no end. -/
  | never
deriving DecidableEq

/-- What a gathering leaves behind. -/
structure Gathering where
  session : Session
  entries : List Entry
  data : Bytes
  ended : Ended
deriving DecidableEq

/-- How many bytes to ask for next, given how many were gathered; none if that is enough. -/
abbrev Plan := Nat → Option Nat

namespace Plan

/-- All of the given number of bytes, asking for what is missing. -/
def exactly (count : Nat) : Plan := fun got => if got < count then some (count - got) else none

/-- Up to the given number of bytes, one by one. -/
def singly (limit : Nat) : Plan := fun got => if got < limit then some 1 else none

/-- Everything, asking for one byte more than `size` says. -/
def everything (size : Nat → Nat) : Plan := fun got => some (size got + 1)

end Plan

namespace Gathering

/-- The gathering with entries and bytes of an earlier read in front. -/
def after (entries : List Entry) (bytes : Bytes) (g : Gathering) : Gathering :=
  { g with entries := entries ++ g.entries, data := bytes ++ g.data }

/-- Gathers bytes in at most `limit` reads. The paces are those of the first reads; later ones are
served in full. -/
def loop (plan : Plan) (d : Descriptor) :
    (limit : Nat) → (paces : List Pace) → (got : Nat) → Session → Gathering
  | 0, _, _, s => ⟨s, [], [], .never⟩
  | limit + 1, paces, got, s =>
    match plan got with
    | none => ⟨s, [], [], .enough⟩
    | some size =>
      match s.portion d size (paces.headD .full) with
      | (s, entries, .data []) => ⟨s, entries, [], .atEnd⟩
      | (s, entries, .data bytes) =>
        (loop plan d limit paces.tail (got + bytes.length) s).after entries bytes
      | (s, entries, .failed e) =>
        -- Nothing was read, so the same bytes are asked for again.
        if e.kind = .interrupted then (loop plan d limit paces.tail got s).after entries []
        else ⟨s, entries, [], .failed e⟩
      | (s, entries, .panicked message) => ⟨s, entries, [], .panicked message⟩

/-- **Gathers bytes** of which at most `bound` can come before the gathering ends: each read
brings one byte at least, or is interrupted, or is the last one. -/
def run (plan : Plan) (d : Descriptor) (bound : Nat) (paces : List Pace) (s : Session) :
    Gathering :=
  loop plan d (paces.length + bound + 1) paces 0 s

end Gathering

/-!
## Reading a descriptor as a stream

The ways to read a byte stream, over the single read of this library. A reading through a buffer
gives the whole buffer, with what was read at its front; the others give the bytes they gathered.
-/

/-- A way to read a stream. -/
inductive Reading where
  /-- One read into a buffer. -/
  | once (size : Nat)
  /-- A buffer filled to the end. -/
  | exactly (size : Nat)
  /-- One read of at most `limit` bytes into a buffer. -/
  | limited (limit size : Nat)
  /-- Single bytes, up to a limit. -/
  | singly (limit : Nat)
  /-- One read into the first of several buffers that is not empty. -/
  | scattered (sizes : List Nat)
  /-- Everything, after bytes that are there already. -/
  | toEnd (held : Bytes)
  /-- Everything as text, after text that is there already. -/
  | textToEnd (held : Bytes)
deriving DecidableEq

/-- How a reading ends. -/
inductive ReadingEnd where
  /-- With a number of bytes, or an error. -/
  | done (outcome : Except StreamError Nat)
  /-- An observer panicked. -/
  | panicked (message : String)
  /-- Not at all. -/
  | never
deriving DecidableEq

/-- What a reading leaves behind: its data are the bytes gathered, or its whole buffer. -/
structure ReadingOutcome where
  session : Session
  entries : List Entry
  data : Bytes
  ending : ReadingEnd
deriving DecidableEq

namespace Reading

/-- How many bytes a stream has left; none if there is no end to them. -/
def remaining (host : Host) (d : Descriptor) : Option Nat :=
  match host.table.lookup d with
  | none => some 0
  | some file =>
    match host.nodes[file.node]? with
    | some (.file content) => some (content.length - file.position)
    | some (.fifo queue) => some queue.length
    | some .zeroDevice => none
    | _ => some 0

/-- How much room a stream read to its end is given, by the bytes gathered so far: little at first,
and more once there was something. The sizes are one less than what is asked for. -/
def room (got : Nat) : Nat := if got = 0 then 31 else 8191

/-- One read, its bytes stored in a buffer. -/
def single (s : Session) (d : Descriptor) (size : Nat) (buffer : Bytes) (pace : Pace) :
    ReadingOutcome :=
  match s.portion d size pace with
  | (s, entries, .data bytes) => ⟨s, entries, Buffer.store bytes buffer, .done (.ok bytes.length)⟩
  | (s, entries, .failed e) => ⟨s, entries, buffer, .done (.error (.system e))⟩
  | (s, entries, .panicked message) => ⟨s, entries, buffer, .panicked message⟩

/-- How the end of a gathering of `data` ends a reading, where `atEnd` is the outcome at the end of
the stream. -/
def ending (atEnd : Except StreamError Nat) (data : Bytes) (ended : Ended) : ReadingEnd :=
  match ended with
  | .enough => .done (.ok data.length)
  | .atEnd => .done atEnd
  | .failed e => .done (.error (.system e))
  | .panicked message => .panicked message
  | .never => .never

/-- A buffer filled to the end. -/
def fill (s : Session) (d : Descriptor) (size : Nat) (paces : List Pace) : ReadingOutcome :=
  let g := Gathering.run (.exactly size) d size paces s
  ⟨g.session, g.entries, Buffer.store g.data (Buffer.ofSize size),
    ending (.error .unexpectedEnd) g.data g.ended⟩

/-- Single bytes, up to a limit. -/
def collect (s : Session) (d : Descriptor) (limit : Nat) (paces : List Pace) : ReadingOutcome :=
  let g := Gathering.run (.singly limit) d limit paces s
  ⟨g.session, g.entries, g.data, ending (.ok g.data.length) g.data g.ended⟩

/-- Everything, asked for in pieces whose sizes `room` gives. Of a stream without end only
the first piece is read: an observer that panics does so there, or else the reading never ends. -/
def drain (room : Nat → Nat) (s : Session) (d : Descriptor) (paces : List Pace) : Gathering :=
  Gathering.run (.everything room) d ((remaining s.world.host d).getD 0) paces s

/-- Everything, after bytes that are there already. -/
def drainBytes (room : Nat → Nat) (s : Session) (d : Descriptor) (held : Bytes)
    (paces : List Pace) : ReadingOutcome :=
  let g := drain room s d paces
  ⟨g.session, g.entries, held ++ g.data, ending (.ok g.data.length) g.data g.ended⟩

/-- Everything as text, after text that is there already. What is not text is not kept, though
it was read; a failed read comes before that error. -/
def drainText (room : Nat → Nat) (s : Session) (d : Descriptor) (held : Bytes)
    (paces : List Pace) : ReadingOutcome :=
  let g := drain room s d paces
  if Utf8.isWellFormed g.data then
    ⟨g.session, g.entries, held ++ g.data, ending (.ok g.data.length) g.data g.ended⟩
  else ⟨g.session, g.entries, held, ending (.error .notText) g.data g.ended⟩

/-- **Reads a stream in one of the ways,** its first reads served at the given paces. -/
def run (reading : Reading) (s : Session) (d : Descriptor) (paces : List Pace) : ReadingOutcome :=
  let pace := paces.headD .full
  match reading with
  | .once size => single s d size (Buffer.ofSize size) pace
  | .exactly size => fill s d size paces
  | .limited limit size =>
    if limit = 0 then ⟨s, [], Buffer.ofSize size, .done (.ok 0)⟩
    else single s d (min limit size) (Buffer.ofSize size) pace
  | .singly limit => collect s d limit paces
  | .scattered sizes =>
    single s d ((sizes.find? (· ≠ 0)).getD 0) (sizes.map Buffer.ofSize).flatten pace
  | .toEnd held => drainBytes room s d held paces
  | .textToEnd held => drainText room s d held paces

/-- Whether the entries of a reading are shown. How many reads it takes to reach the end of a
stream is not laid down, so the entries of these reads are not. -/
def showsEntries : Reading → Bool
  | .toEnd _ => false
  | .textToEnd _ => false
  | _ => true

end Reading

end TracedPipe
