import TracedPipe.Event
import TracedPipe.Host.Calls

/-!
# System calls as records

What a system call does is settled by the host alone: its result, the bytes it writes to memory, the
code it fails with, and the host it leaves. `Host.opening`, `Host.reading` and `Host.closing` put
this down in a `SystemCall`, together with the event that is announced of the call.

A thread's errno is not among the things that a call sees. It only takes the code of a call that
fails (`World.after`), so that after a row of calls it holds the code of the last one that failed
(`World.errno_afterAll`).
-/

namespace TracedPipe

/-- A system call that was made. -/
structure SystemCall where
  /-- What is announced of it. -/
  event : Event
  /-- Its result, as the system gave it. -/
  result : Int
  /-- The bytes that it wrote to memory. -/
  data : Bytes
  /-- The code that it failed with, if it did. -/
  fault : Option Errno
  /-- The host that it left. -/
  host : Host
deriving DecidableEq

namespace Host

/-- The call that opens a path, or the null pointer in place of one. -/
def opening (host : Host) (path : Option Pathname) : SystemCall :=
  match host.openFile (path.map Pathname.bytes) with
  | .ok (d, after) => ⟨.opened path d, d.number, [], none, after⟩
  | .error e => ⟨.opened path .invalid, World.failure, [], some e, host⟩

/-- The call that reads up to `count` bytes. -/
def reading (host : Host) (d : Descriptor) (count : Nat) (destination : Destination) (pace : Pace) :
    SystemCall :=
  match host.read d count destination pace with
  | .ok (data, after) => ⟨.read d count data.length, data.length, data, none, after⟩
  | .error e => ⟨.read d count World.failure, World.failure, [], some e, host⟩

/-- The call that closes a descriptor. -/
def closing (host : Host) (d : Descriptor) : SystemCall :=
  match host.close d with
  | .ok after => ⟨.closed d 0, 0, [], none, after⟩
  | .error e => ⟨.closed d World.failure, World.failure, [], some e, host⟩

/-! ### The events carry the arguments and the result -/

theorem event_opening (host : Host) (path : Option Pathname) :
    (host.opening path).event = .opened path ⟨(host.opening path).result⟩ := by
  unfold opening
  split <;> rfl

theorem event_reading (host : Host) (d : Descriptor) (count : Nat) (destination : Destination)
    (pace : Pace) :
    (host.reading d count destination pace).event
      = .read d count (host.reading d count destination pace).result := by
  unfold reading
  split <;> rfl

theorem event_closing (host : Host) (d : Descriptor) :
    (host.closing d).event = .closed d (host.closing d).result := by
  unfold closing
  split <;> rfl

end Host

namespace World

/-- The world after a system call: errno takes the code of a call that failed. -/
def after (w : World) (call : SystemCall) : World := ⟨call.host, call.fault.getD w.errno⟩

/-- The world after a row of system calls. -/
def afterAll (w : World) (calls : List SystemCall) : World := calls.foldl after w

/-! ### The calls of a world are those of its host -/

theorem openFile_eq (w : World) (path : Option Pathname) :
    w.openFile (path.map Pathname.bytes)
      = (w.after (w.host.opening path), ⟨(w.host.opening path).result⟩) := by
  unfold openFile Host.opening after
  cases w.host.openFile (path.map Pathname.bytes) <;> rfl

theorem read_eq (w : World) (d : Descriptor) (count : Nat) (destination : Destination)
    (pace : Pace) :
    w.read d count destination pace
      = (w.after (w.host.reading d count destination pace),
          (w.host.reading d count destination pace).result,
          (w.host.reading d count destination pace).data) := by
  unfold read Host.reading after
  cases w.host.read d count destination pace <;> rfl

theorem close_eq (w : World) (d : Descriptor) :
    w.close d = (w.after (w.host.closing d), (w.host.closing d).result) := by
  unfold close Host.closing after
  cases w.host.close d <;> rfl

/-- **The view of a read's result** that errno gives: it failed as the call did, or gave as many
bytes as the call wrote. -/
theorem check_reading (w : World) (d : Descriptor) (count : Nat) (destination : Destination)
    (pace : Pace) :
    (w.after (w.host.reading d count destination pace)).errno.check
        (w.host.reading d count destination pace).result
      = match (w.host.reading d count destination pace).fault with
        | none => .ok (w.host.reading d count destination pace).data.length
        | some e => .error e := by
  unfold Host.reading after
  cases w.host.read d count destination pace <;> rfl

/-! ### Rows of calls -/

@[simp] theorem afterAll_cons (w : World) (call : SystemCall) (calls : List SystemCall) :
    w.afterAll (call :: calls) = (w.after call).afterAll calls := rfl

@[simp] theorem host_after (w : World) (call : SystemCall) : (w.after call).host = call.host := rfl

@[simp] theorem errno_after (w : World) (call : SystemCall) :
    (w.after call).errno = call.fault.getD w.errno := rfl

/-- The host after some calls is the one that the last of them left. -/
theorem host_afterAll (w : World) (calls : List SystemCall) :
    (w.afterAll calls).host = (calls.getLast?.map SystemCall.host).getD w.host := by
  induction calls generalizing w with
  | nil => rfl
  | cons call calls ih =>
    rw [afterAll_cons, ih, List.getLast?_cons]
    cases calls.getLast? <;> rfl

/-- **Errno after some calls** is the code of the last one that failed. -/
theorem errno_afterAll (w : World) (calls : List SystemCall) :
    (w.afterAll calls).errno = (calls.filterMap SystemCall.fault).getLast?.getD w.errno := by
  induction calls generalizing w with
  | nil => rfl
  | cons call calls ih =>
    rw [afterAll_cons, ih, errno_after]
    cases hfault : call.fault with
    | none => rw [List.filterMap_cons_none hfault, Option.getD_none]
    | some e => rw [List.filterMap_cons_some hfault, List.getLast?_cons, Option.getD_some,
        Option.getD_some]

end World

end TracedPipe
