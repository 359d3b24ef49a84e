import TracedPipe.Errno
import TracedPipe.Event
import TracedPipe.Host.Calls

/-!
# Tracing

Who is told of an event, where the observer is kept, what the log takes, and how a call announces
its event to them.
-/

namespace TracedPipe

/-!
## Observers

At most one observer is told of each event: a hook, which gets the event itself, or a callback
of the C interface, which gets the line of the event in memory, up to a NUL. Either may leave a
value of its own in errno. A hook may also make a call of this library, and may panic.
-/

/-- A hook, by what it does when it is told of an event. -/
structure Hook where
  /-- The name it signs with. -/
  label : String
  /-- What it leaves in errno, if anything. -/
  errno : Option Errno
  /-- Whether it closes the invalid descriptor, unless it runs inside such a call. -/
  nested : Bool
  /-- The message it panics with, if it does. -/
  panic : Option String
  /-- The message it panics with when it is dropped, if it does. -/
  dropPanic : Option String
deriving DecidableEq

/-- What is told of events. -/
inductive Observer where
  /-- A hook. -/
  | hook (hook : Hook)
  /-- A callback, which leaves the given value in errno, if any. -/
  | callback (errno : Option Errno)
deriving DecidableEq

/-- The message an observer panics with when it is dropped, if it does. -/
def Observer.dropPanic : Observer → Option String
  | .hook h => h.dropPanic
  | .callback _ => none

/-- A line up to its first NUL, if it has one. -/
def cutLine (line : Bytes) : Bytes :=
  match line.idxOf? nul with
  | some position => line.take position
  | none => line

/-- Bytes with a terminator behind them; there is no such string if there is a NUL among them. -/
def terminated? (bytes : Bytes) : Option Bytes :=
  if nul ∈ bytes then none else some (bytes ++ [nul])

/-- A line as it lies in memory for a callback: up to its first NUL, if it has one, and
terminated, or the empty string if that cannot be. -/
def terminatedLine (line : Bytes) : Bytes := (terminated? (cutLine line)).getD [nul]

/-- The text that a callback reads from memory: everything before the terminator. -/
def readLine (memory : Bytes) : Bytes := memory.takeWhile (· ≠ nul)

/-!
## The slot of the observer

The observer stands in a slot behind a lock. Those who tell it of an event hold the lock together;
one who replaces it holds the lock alone. A panic that passes through a replacement, from the drop
of the observer that is replaced, poisons the lock for good; a panic of an observer that is told of
an event does not. A poisoned lock gives the content as an error, and everyone goes on with the
content all the same: `Slot.observer_eq`, `Slot.observer_replace`.
-/

/-- The place of the observer, and the state of its lock. -/
structure Slot where
  content : Option Observer
  /-- Whether a panic passed through a replacement. -/
  poisoned : Bool
deriving DecidableEq

namespace Slot

/-- No observer, and a lock that no panic passed. -/
def empty : Slot := ⟨none, false⟩

/-- Locks the slot. The content comes as an error if the lock is poisoned. -/
def lock (slot : Slot) : Except (Option Observer) (Option Observer) :=
  if slot.poisoned then .error slot.content else .ok slot.content

/-- **The observer that is told of events,** if there is one. -/
def observer (slot : Slot) : Option Observer :=
  match slot.lock with
  | .ok content => content
  | .error content => content

/-- Whether there is an observer. -/
def isOccupied (slot : Slot) : Bool :=
  match slot.lock with
  | .ok content => content.isSome
  | .error content => content.isSome

/-- The message that the drop of the present observer panics with, if it does. -/
def dropPanic (slot : Slot) : Option String := slot.observer.bind Observer.dropPanic

/-- **The slot with another content.** The new content is put in place even where the drop of the
former one panics. -/
def replace (slot : Slot) (content : Option Observer) : Slot where
  content
  poisoned := slot.poisoned || slot.dropPanic.isSome

/-- A poisoned lock hides nothing. -/
theorem observer_eq (slot : Slot) : slot.observer = slot.content := by
  unfold observer lock
  cases slot.poisoned <;> rfl

theorem isOccupied_eq (slot : Slot) : slot.isOccupied = slot.observer.isSome := by
  unfold isOccupied observer
  cases slot.lock <;> rfl

@[simp] theorem observer_replace (slot : Slot) (content : Option Observer) :
    (slot.replace content).observer = content :=
  observer_eq _

end Slot

/-!
## The log

The settings of the logger that records go to. Every record of this library has the level
`debug` and the same target, and the logger takes it if its own level is at least as verbose.
After taking a record the logger may leave a value of its own in errno.
-/

/-- How verbose a logger is. -/
inductive LogLevel where
  | off
  | error
  | warn
  | info
  | debug
  | trace
deriving DecidableEq, Repr

namespace LogLevel

/-- The name of a level. -/
def name : LogLevel → String
  | .off => "OFF"
  | .error => "ERROR"
  | .warn => "WARN"
  | .info => "INFO"
  | .debug => "DEBUG"
  | .trace => "TRACE"

/-- Whether a logger of this level takes debug records. -/
def takesDebug : LogLevel → Bool
  | .debug => true
  | .trace => true
  | _ => false

end LogLevel

/-- The settings of the logger. -/
structure Log where
  /-- How verbose it is. -/
  level : LogLevel
  /-- What it leaves in errno after taking a record, if anything. -/
  errno : Option Errno
deriving DecidableEq

namespace Log

/-- The target of every record. -/
def target : String := "pjreader"

/-- A logger that takes nothing. -/
def off : Log := ⟨.off, none⟩

end Log

/-!
## Entries

What can be seen of tracing from outside, in order: the records in the log, and what hooks and
callbacks saw when they were told of an event.
-/

/-- One observation. -/
inductive Entry where
  /-- The log took a record; whether there was an observer at that moment. -/
  | record (text : Bytes) (hasObserver : Bool)
  /-- A hook was told of an event, with this value in errno. -/
  | hook (label : String) (errno : Errno) (event : Event)
  /-- A callback was given a line, with this value in errno. -/
  | callback (line : Bytes) (errno : Errno)
  /-- The call that a hook made returned, with this value in errno. -/
  | nested (result : Int) (errno : Errno)
deriving DecidableEq

/-!
## Announcing an event

Every call ends by announcing its event. The caller reads the cause of a failure from errno when the
call has returned, so errno is saved first and put back last, whatever the logger and the observer
leave in it in between:

1. errno is saved;
2. the log takes a record of the event's line, if it takes debug records;
3. the observer is told, if there is one;
4. errno is put back.

Nothing is put back between 2 and 3, so an observer sees what the logger left. A panic of the
observer ends the announcement at once: then nothing is put back.

A hook may itself close the invalid descriptor, and that call announces its own event to the
same hook. Inside it the hook does not do so again, so announcements nest at most twice
(`Tracing.announce`, `Tracing.announceInside`).
-/

/-- The settings of tracing: the logger, and the slot of the observer. -/
structure Tracing where
  log : Log
  slot : Slot
deriving DecidableEq

/-- What an announcement, or a part of one, leaves behind: the world, the entries it made, and the
message of the panic that ended it, if one did. -/
structure Announcement where
  world : World
  entries : List Entry
  panic : Option String
deriving DecidableEq

namespace Tracing

/-- No log and no observer. -/
def off : Tracing := ⟨.off, .empty⟩

/-- The observer, if there is one. -/
def observer (t : Tracing) : Option Observer := t.slot.observer

/-- Whether there is an observer. -/
def hasObserver (t : Tracing) : Bool := t.slot.isOccupied

/-- Offers a text to the log. -/
def record (t : Tracing) (text : Bytes) (w : World) : World × List Entry :=
  if t.log.level.takesDebug then
    ({ w with errno := t.log.errno.getD w.errno }, [.record text t.hasObserver])
  else (w, [])

/-- Tells a hook of an event. `call` is the call that it makes if it is a nesting one. -/
def tellHook (hook : Hook) (call : World → Announcement) (event : Event) (w : World) :
    Announcement :=
  let seen := Entry.hook hook.label w.errno event
  let inner := if hook.nested then call w else ⟨w, [], none⟩
  match inner.panic with
  | some message => ⟨inner.world, seen :: inner.entries, some message⟩
  | none =>
    ⟨{ inner.world with errno := hook.errno.getD inner.world.errno }, seen :: inner.entries,
      hook.panic⟩

/-- Tells the observer of an event, if there is one. -/
def tell (t : Tracing) (call : World → Announcement) (event : Event) (w : World) : Announcement :=
  match t.observer with
  | none => ⟨w, [], none⟩
  | some (.callback errno) =>
    ⟨{ w with errno := errno.getD w.errno },
      [.callback (readLine (terminatedLine event.line)) w.errno], none⟩
  | some (.hook hook) => tellHook hook call event w

/-- Announces an event, where a nesting hook makes the given call. -/
def announceWith (t : Tracing) (call : World → Announcement) (event : Event) (w : World) :
    Announcement :=
  let saved := w.errno
  let recorded := t.record event.line w
  let told := t.tell call event recorded.1
  match told.panic with
  | some message => ⟨told.world, recorded.2 ++ told.entries, some message⟩
  | none => ⟨{ told.world with errno := saved }, recorded.2 ++ told.entries, none⟩

/-- Announces an event of a call that a hook made: no hook makes a call of its own there. -/
def announceInside (t : Tracing) (event : Event) (w : World) : Announcement :=
  t.announceWith (fun w => ⟨w, [], none⟩) event w

/-- The call that a nesting hook makes: it closes the invalid descriptor, and notes what came of
it. -/
def nestedClose (t : Tracing) (w : World) : Announcement :=
  let closed := w.close .invalid
  let inner := t.announceInside (.closed .invalid closed.2) closed.1
  match inner.panic with
  | some _ => inner
  | none => { inner with entries := inner.entries ++ [.nested closed.2 inner.world.errno] }

/-- **Announces the event of a call** to the log and the observer, and puts errno back. -/
def announce (t : Tracing) (event : Event) (w : World) : Announcement :=
  t.announceWith t.nestedClose event w

/-- **An announcement that ends as it should leaves errno as it was,** whatever was written to
it. -/
theorem errno_announceWith (t : Tracing) (call : World → Announcement) (event : Event) (w : World)
    (h : (t.announceWith call event w).panic = none) :
    (t.announceWith call event w).world.errno = w.errno := by
  unfold announceWith at h ⊢
  dsimp only at h ⊢
  split at h
  · exact absurd h (by simp)
  · rfl

/-! ### Tracing leaves the host alone -/

@[simp] theorem host_record (t : Tracing) (text : Bytes) (w : World) :
    (t.record text w).1.host = w.host := by
  unfold record
  split <;> rfl

theorem host_tellHook {hook : Hook} {call : World → Announcement} (event : Event) (w : World)
    (h : ∀ w, (call w).world.host = w.host) :
    (tellHook hook call event w).world.host = w.host := by
  unfold tellHook
  dsimp only
  split <;> split <;> simp [h]

theorem host_tell {t : Tracing} {call : World → Announcement} (event : Event) (w : World)
    (h : ∀ w, (call w).world.host = w.host) : (t.tell call event w).world.host = w.host := by
  unfold tell
  split
  · rfl
  · rfl
  · exact host_tellHook event w h

theorem host_announceWith {t : Tracing} {call : World → Announcement} (event : Event) (w : World)
    (h : ∀ w, (call w).world.host = w.host) :
    (t.announceWith call event w).world.host = w.host := by
  unfold announceWith
  dsimp only
  split <;> simp [host_tell event _ h]

theorem host_announceInside (t : Tracing) (event : Event) (w : World) :
    (t.announceInside event w).world.host = w.host :=
  host_announceWith event w fun _ => rfl

theorem host_nestedClose (t : Tracing) (w : World) : (t.nestedClose w).world.host = w.host := by
  unfold nestedClose
  dsimp only
  rw [World.close_invalid]
  split <;> simp [host_announceInside]

/-- **No announcement touches the host,** whatever the logger and the observer do. -/
@[simp] theorem host_announce (t : Tracing) (event : Event) (w : World) :
    (t.announce event w).world.host = w.host :=
  host_announceWith event w t.host_nestedClose

end Tracing

end TracedPipe
