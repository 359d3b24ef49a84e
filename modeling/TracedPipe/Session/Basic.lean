import TracedPipe.Tracing.Announce

/-!
# Sessions

The calls of this library, what becomes of tracing under them, and the same calls for callers in C.
-/

namespace TracedPipe

/-!
## Sessions and calls

A session is the world of a thread with the settings of tracing. The calls of this library pass
their arguments on to one system call each, announce the event, and return what the system
answered, verbatim: short reads are neither retried nor completed, and a descriptor is not
checked.

Paths can be given in three forms, which come to the same: as a pathname, as a byte string that must
have no NUL byte, and as a pointer to memory, which may be null.
-/

/-- How a call ends. -/
inductive Ending (α : Type) where
  /-- It returns a value. -/
  | returned (value : α)
  /-- An observer panicked, and the panic passed through the call. -/
  | panicked (message : String)
deriving DecidableEq

/-- The same ending with another value. -/
def Ending.map {α β : Type} (f : α → β) : Ending α → Ending β
  | .returned a => .returned (f a)
  | .panicked message => .panicked message

/-- A thread's world and its settings of tracing. -/
structure Session where
  world : World
  tracing : Tracing
deriving DecidableEq

/-- What a call leaves behind. -/
structure Outcome (α : Type) where
  session : Session
  entries : List Entry
  ending : Ending α
deriving DecidableEq

/-- The same outcome with another value. -/
def Outcome.map {α β : Type} (f : α → β) (o : Outcome α) : Outcome β :=
  ⟨o.session, o.entries, o.ending.map f⟩

/-- What a read gives: the result of the system call, and the bytes that it wrote to memory. -/
structure ReadResult where
  result : Int
  data : Bytes
deriving DecidableEq

/-- The flags every path is opened with: reading only, and data in step with the medium, so that
what a writer wrote can be read at once. -/
def openFlags : Nat :=
  let readOnly := 0
  let dataSync := 0x1000
  readOnly ||| dataSync

namespace Session

/-- A session on a fresh host, with errno clear and tracing off. -/
def fresh : Session := ⟨⟨.fresh, .success⟩, .off⟩

/-- Ends a call whose system call is done: announces its event, then returns the value. -/
def finish {α : Type} (s : Session) (w : World) (event : Event) (value : α) : Outcome α :=
  let announcement := s.tracing.announce event w
  { session := { s with world := announcement.world }
    entries := announcement.entries
    ending := match announcement.panic with
      | none => .returned value
      | some message => .panicked message }

/-! ### Opening -/

/-- **Opens the path that a pointer points to;** a null pointer is passed on as it is. -/
def openPointer (s : Session) (pointer : Option Bytes) : Outcome Descriptor :=
  let path := pointer.map Pathname.upToTerminator
  let call := s.world.openFile (path.map Pathname.bytes)
  s.finish call.1 (.opened path call.2) call.2

/-- Opens a pathname. -/
def openPathname (s : Session) (path : Pathname) : Outcome Descriptor :=
  s.openPointer (some path.terminated)

/-- Opens a path given as a byte string. A byte string that is no path is refused before any
call. -/
def openBytes (s : Session) (bytes : Bytes) : Except PathFault (Outcome Descriptor) :=
  (Pathname.ofBytes bytes).map s.openPathname

/-! ### Reading and closing -/

/-- **Reads up to `count` bytes** to memory or to a null pointer. -/
def readPointer (s : Session) (d : Descriptor) (count : Nat) (destination : Destination)
    (pace : Pace) : Outcome ReadResult :=
  let call := s.world.read d count destination pace
  s.finish call.1 (.read d count call.2.1) ⟨call.2.1, call.2.2⟩

/-- Reads into a buffer of the given size. -/
def read (s : Session) (d : Descriptor) (size : Nat) (pace : Pace) : Outcome ReadResult :=
  s.readPointer d size .memory pace

/-- **Closes a descriptor.** Closing twice is not detected; the second close does whatever the
system does with the number by then. -/
def close (s : Session) (d : Descriptor) : Outcome Int :=
  let call := s.world.close d
  s.finish call.1 (.closed d call.2) call.2

/-! ### Tracing -/

/-- **Puts an observer in place of the present one, or removes it.** The one replaced is
dropped, and a panic of its drop comes after the new one is in place. -/
def setObserver (s : Session) (observer : Option Observer) : Outcome Unit where
  session := { s with tracing := { s.tracing with slot := s.tracing.slot.replace observer } }
  entries := []
  ending := match s.tracing.slot.dropPanic with
    | none => .returned ()
    | some message => .panicked message

/-- Whether there is an observer. -/
def hasObserver (s : Session) : Bool := s.tracing.hasObserver

/-- Offers a text to the log outside a call: what the logger leaves in errno stays there. -/
def record (s : Session) (text : Bytes) : Session × List Entry :=
  let recorded := s.tracing.record text s.world
  ({ s with world := recorded.1 }, recorded.2)

end Session

/-!
## The interface for C

The same calls for callers that know pointers and 32-bit numbers only. The result of a read is
narrowed to 32 bits; no read hands over more than `Host.maxTransfer` bytes, so nothing is lost.

Installing and removing a callback is recorded in the log: the installation before it is done, the
removal after. These records belong to no event, and nothing puts errno back after them.

A panic cannot pass through this interface to a caller in C. Where one of an observer that is told
of an event, or of one that is dropped, reaches it, the process is aborted there and then. That end
is not part of a session here: a call by this interface panics as the same call in another form
does, and the session goes on. So the session that such a call leaves says what the host and the
slot held when the process ended; a step after it has nothing in a process that it stands for.
-/

/-- A number narrowed to 32 bits, read as a signed number. -/
def narrow (n : Int) : Int := Int.bmod n 0x100000000

namespace CInterface

/-- Opens the path that a pointer points to. -/
def openFile (s : Session) (pointer : Option Bytes) : Outcome Int :=
  (s.openPointer pointer).map Descriptor.number

/-- Reads up to `count` bytes to memory or to a null pointer. -/
def read (s : Session) (number : Int) (count : Nat) (destination : Destination) (pace : Pace) :
    Outcome ReadResult :=
  (s.readPointer ⟨number⟩ count destination pace).map fun r => ⟨narrow r.result, r.data⟩

/-- Closes a descriptor. -/
def close (s : Session) (number : Int) : Outcome Int := s.close ⟨number⟩

/-- Installs a callback that leaves the given value in errno, if any. -/
def installCallback (s : Session) (errno : Option Errno) : Outcome Unit :=
  let recorded := s.record (ascii "Trace callback installed")
  let set := recorded.1.setObserver (some (.callback errno))
  { set with entries := recorded.2 ++ set.entries }

/-- Removes the callback, or whatever observer there is. -/
def removeCallback (s : Session) : Outcome Unit :=
  let set := s.setObserver none
  match set.ending with
  -- The panic of the drop comes before the record, which is then never made.
  | .panicked _ => set
  | .returned () =>
    let recorded := set.session.record (ascii "Trace callback removed")
    ⟨recorded.1, set.entries ++ recorded.2, .returned ()⟩

end CInterface

end TracedPipe
