import TracedPipe.Host.Change
import TracedPipe.Session.Basic
import TracedPipe.Stream.Reading

/-!
# Runs of a session

What can happen in a session, what is seen of it, and how one step follows another.
-/

namespace TracedPipe

/-!
## Steps of a session

What can happen in a session: calls in any of their forms, readings, questions about errno and
descriptors, settings of tracing, and changes made from outside.
-/

/-- The forms in which a path is opened. -/
inductive OpenForm where
  /-- A pathname. -/
  | pathname (path : Pathname)
  /-- A byte string. -/
  | bytes (path : Bytes)
  /-- A pointer. -/
  | pointer (pointer : Option Bytes)
  /-- A pointer, by the C interface. -/
  | c (pointer : Option Bytes)
deriving DecidableEq

/-- The forms in which a descriptor is read. -/
inductive ReadForm where
  /-- Into a buffer. -/
  | buffer
  /-- Through a pointer. -/
  | pointer (destination : Destination)
  /-- Through a pointer, by the C interface. -/
  | c (destination : Destination)
deriving DecidableEq

/-- Where a read puts its bytes. -/
def ReadForm.destination : ReadForm → Destination
  | .buffer => .memory
  | .pointer destination => destination
  | .c destination => destination

/-- One step of a session. -/
inductive Step where
  /-- Opens a path. -/
  | openFile (form : OpenForm)
  /-- Reads up to `count` bytes, served at a pace. -/
  | read (form : ReadForm) (d : Descriptor) (count : Nat) (pace : Pace)
  /-- Closes a descriptor. -/
  | close (d : Descriptor)
  /-- Closes a descriptor by the C interface. -/
  | closeByC (d : Descriptor)
  /-- Reads a descriptor as a stream, the first reads served at the given paces. -/
  | stream (reading : Reading) (d : Descriptor) (paces : List Pace)
  /-- Checks a descriptor. -/
  | check (d : Descriptor)
  /-- Checks the result of a system call. -/
  | checkResult (result : Int)
  /-- Asks for the error that errno holds. -/
  | last
  /-- Puts an error into errno. -/
  | restore (e : Errno)
  /-- Installs or removes a hook. -/
  | setHook (hook : Option Hook)
  /-- Installs a callback. -/
  | installCallback (errno : Option Errno)
  /-- Removes the callback. -/
  | removeCallback
  /-- Asks whether there is an observer. -/
  | hasObserver
  /-- Sets the logger. -/
  | setLog (log : Log)
  /-- A change from outside. -/
  | change (change : Change)
deriving DecidableEq

/-!
## Answers to steps

Each step of a session gives a reply, leaves a value in errno, and causes entries of tracing.
-/

/-- What a read wrote: the data, and whether the rest of the buffer is intact, unless the buffer
is too large to look. -/
structure ReadMemory where
  data : Bytes
  restIntact : Option Bool
deriving DecidableEq

/-- The reply to a step. -/
inductive Reply where
  /-- An open returned a descriptor. -/
  | opened (d : Descriptor)
  /-- An open was refused before any call. -/
  | refused (fault : PathFault)
  /-- A read returned; there is no memory to look at if it was given a null pointer. -/
  | read (result : Int) (memory : Option ReadMemory)
  /-- A close returned. -/
  | closed (result : Int)
  /-- A reading ended. -/
  | stream (outcome : Except StreamError Nat) (data : Bytes)
  /-- The outcome of checking a descriptor. -/
  | descriptor (outcome : Except Errno Descriptor)
  /-- The outcome of checking a result. -/
  | result (outcome : Except Errno Nat)
  /-- The error that errno holds. -/
  | last (e : Errno)
  /-- Errno was set. -/
  | restored
  /-- An observer was set; whether there is one now. -/
  | set (hasObserver : Bool)
  /-- Whether there is an observer. -/
  | hasObserver (hasObserver : Bool)
  /-- The logger was set. -/
  | log (level : LogLevel)
  /-- A change was made. -/
  | changed
  /-- The step panicked. -/
  | panicked (message : String)
  /-- The step does not end. -/
  | endless
deriving DecidableEq

/-- The answer to a step. -/
structure Answer where
  reply : Reply
  errno : Errno
  entries : List Entry
deriving DecidableEq

/-- The largest buffer whose rest is looked at after a read. -/
def largestBuffer : Nat := 1048576

/-- What a read of up to `count` bytes wrote to memory. -/
def ReadMemory.ofRead (count : Nat) (data : Bytes) : ReadMemory where
  data
  restIntact := if count ≤ largestBuffer then some (Buffer.restIntact count data) else none

/-!
## Running a session

A session runs step by step, each step starting from the session that the one before it left.

A step that panics leaves errno as it was before the step, whatever the call it was in did to
it: the caller never gets to see what the panic left there. All else that the call did stays
done.
-/

namespace Session

/-- The same session with another errno. -/
def withErrno (s : Session) (errno : Errno) : Session :=
  { s with world := { s.world with errno } }

/-- The same session with another host. -/
def withHost (s : Session) (host : Host) : Session :=
  { s with world := { s.world with host } }

/-- The same session with another logger. -/
def withLog (s : Session) (log : Log) : Session :=
  { s with tracing := { s.tracing with log } }

/-- An answer that shows the present errno. -/
def answer (s : Session) (entries : List Entry) (reply : Reply) : Session × Answer :=
  (s, ⟨reply, s.world.errno, entries⟩)

/-- The answer to a step that ended in a call; a panic leaves `errno`, the value before the step. -/
def conclude {α : Type} (errno : Errno) (reply : Session → α → Reply) (o : Outcome α) :
    Session × Answer :=
  match o.ending with
  | .returned value => o.session.answer o.entries (reply o.session value)
  | .panicked message => (o.session.withErrno errno).answer o.entries (.panicked message)

/-- Opens a path in one of the forms. -/
def openIn (s : Session) : OpenForm → Except PathFault (Outcome Descriptor)
  | .pathname path => .ok (s.openPathname path)
  | .bytes path => s.openBytes path
  | .pointer pointer => .ok (s.openPointer pointer)
  | .c pointer => .ok ((CInterface.openFile s pointer).map Descriptor.mk)

/-- Reads a descriptor in one of the forms. -/
def readIn (s : Session) (d : Descriptor) (count : Nat) (pace : Pace) :
    ReadForm → Outcome ReadResult
  | .buffer => s.read d count pace
  | .pointer destination => s.readPointer d count destination pace
  | .c destination => CInterface.read s d.number count destination pace

/-- The reply to a read. -/
def readReply (form : ReadForm) (count : Nat) (r : ReadResult) : Reply :=
  .read r.result <|
    match form.destination with
    | .memory => some (.ofRead count r.data)
    | .null => none

/-- The answer to a reading; a panic leaves `errno`, the value before the step. -/
def concludeReading (errno : Errno) (shown : Bool) (o : ReadingOutcome) : Session × Answer :=
  let entries := if shown then o.entries else []
  match o.ending with
  | .done outcome => o.session.answer entries (.stream outcome o.data)
  | .panicked message => (o.session.withErrno errno).answer entries (.panicked message)
  | .never => o.session.answer entries .endless

/-- **One step of a session.** -/
def step (s : Session) : Step → Session × Answer
  | .openFile form =>
    match s.openIn form with
    | .error fault => s.answer [] (.refused fault)
    | .ok outcome => conclude s.world.errno (fun _ d => .opened d) outcome
  | .read form d count pace =>
    conclude s.world.errno (fun _ r => readReply form count r) (s.readIn d count pace form)
  | .close d => conclude s.world.errno (fun _ r => .closed r) (s.close d)
  | .closeByC d => conclude s.world.errno (fun _ r => .closed r) (CInterface.close s d.number)
  | .stream reading d paces =>
    concludeReading s.world.errno reading.showsEntries (reading.run s d paces)
  | .check d => s.answer [] (.descriptor (d.check s.world.errno))
  | .checkResult result => s.answer [] (.result (s.world.errno.check result))
  | .last => s.answer [] (.last s.world.errno)
  | .restore e => (s.withErrno e).answer [] .restored
  | .setHook hook =>
    conclude s.world.errno (fun s _ => .set s.hasObserver) (s.setObserver (hook.map .hook))
  | .installCallback errno =>
    conclude s.world.errno (fun s _ => .set s.hasObserver) (CInterface.installCallback s errno)
  | .removeCallback =>
    conclude s.world.errno (fun s _ => .set s.hasObserver) (CInterface.removeCallback s)
  | .hasObserver => s.answer [] (.hasObserver s.hasObserver)
  | .setLog log => (s.withLog log).answer [] (.log log.level)
  | .change change => (s.withHost (s.world.host.apply change)).answer [] .changed

/-- **Runs steps in order,** giving the session after them and their answers. -/
def run (s : Session) : List Step → Session × List Answer
  | [] => (s, [])
  | step :: steps =>
    let first := s.step step
    let others := first.1.run steps
    (others.1, first.2 :: others.2)

/-- A session on a fresh host after some changes from outside. -/
def prepared (changes : List Change) : Session :=
  fresh.withHost (changes.foldl Host.apply Host.fresh)

end Session

end TracedPipe
