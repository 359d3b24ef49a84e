import TracedPipe.Errno
import TracedPipe.Text.Basic
import TracedPipe.Text.Quoted

/-!
# Paths and trace events

The paths that calls are given, and the events that tell of the calls.
-/

namespace TracedPipe

/-!
## Pathnames

A path as the operating system takes it: any bytes but NUL, which ends it in memory. Nothing is
normalized. `Pathname.ofBytes` refuses a byte string with a NUL and says where the first one is;
`Pathname.upToTerminator` reads a path from memory.
-/

/-- A path without NUL bytes. -/
structure Pathname where
  bytes : Bytes
  nul_notMem : nul ∉ bytes
deriving DecidableEq

/-- Why a byte string is no path. -/
inductive PathFault where
  /-- There is a NUL byte at the given position, and none before it. -/
  | nulAt (position : Nat)
deriving DecidableEq, Repr

namespace PathFault

/-- The message of a path fault. -/
def message : PathFault → Bytes
  | .nulAt position =>
    ascii "Invalid pipe path: Found a NUL byte at position " ++ Decimal.ofNat position

/-- The debug form of a path fault. -/
def debug : PathFault → Bytes
  | .nulAt position => ascii "InteriorNul(" ++ Decimal.ofNat position ++ ascii ")"

end PathFault

namespace Pathname

/-- **A byte string as a path,** if it has no NUL byte. -/
def ofBytes (bytes : Bytes) : Except PathFault Pathname :=
  if h : nul ∈ bytes then .error (.nulAt (bytes.idxOf nul)) else .ok ⟨bytes, h⟩

/-- The path at the beginning of some memory: the bytes before the first NUL. -/
def upToTerminator (memory : Bytes) : Pathname where
  bytes := memory.takeWhile (· ≠ nul)
  nul_notMem h := by
    have := List.all_takeWhile (p := (· ≠ nul)) (l := memory)
    rw [List.all_eq_true] at this
    simpa using this nul h

/-- A path as it lies in memory, with its terminator. -/
def terminated (path : Pathname) : Bytes := path.bytes ++ [nul]

/-- The quoted form of a path, as it stands in debug forms. -/
def quoted (path : Pathname) : Bytes := Quoted.encode path.bytes

/-- The debug form of a path. -/
def debug (path : Pathname) : Bytes := ascii "PipePath(" ++ path.quoted ++ ascii ")"

@[ext] theorem ext {a b : Pathname} (h : a.bytes = b.bytes) : a = b := by
  cases a; cases b; simpa using h

/-- A path that a NUL ends is found in memory, whatever lies behind it. -/
theorem upToTerminator_append_nul (path : Pathname) (behind : Bytes) :
    upToTerminator (path.bytes ++ nul :: behind) = path := by
  ext1
  exact takeWhile_append_nul path.nul_notMem behind

/-- **Memory holds the path that was put there.** -/
@[simp] theorem upToTerminator_terminated (path : Pathname) :
    upToTerminator path.terminated = path :=
  upToTerminator_append_nul path []

end Pathname

/-!
## Trace events

One event describes one finished call: what the caller passed and what the system answered. An event
has a *line*, meant for people, and a *debug form*, which tells every two events apart.
-/

/-- A finished call. -/
inductive Event where
  /-- A path was opened; there is none if the caller passed a null pointer. -/
  | opened (path : Option Pathname) (handle : Descriptor)
  /-- A read returned. -/
  | read (handle : Descriptor) (requested : Nat) (result : Int)
  /-- A descriptor was closed. -/
  | closed (handle : Descriptor) (result : Int)
deriving DecidableEq

namespace Event

/-- How a path shows in a line: as lossy text, or as the word for a missing one. -/
def pathText : Option Pathname → Bytes
  | some path => Utf8.lossy path.bytes
  | none => ascii "(null)"

/-- **The line of an event.** -/
def line : Event → Bytes
  | .opened path _ => ascii "PJReader opened for read file " ++ pathText path
  | .read _ _ result => ascii "PJReader read " ++ Decimal.ofInt result ++ ascii " bytes"
  | .closed _ _ => ascii "PJReader closed file"

/-- How a path shows in a debug form. -/
def pathDebug : Option Pathname → Bytes
  | some path => ascii "Some(" ++ path.quoted ++ ascii ")"
  | none => ascii "None"

/-- **The debug form of an event,** with every field. -/
def debug : Event → Bytes
  | .opened path handle =>
    ascii "Opened \x7b path: " ++ pathDebug path ++ ascii ", handle: " ++ handle.debug ++
      ascii " \x7d"
  | .read handle requested result =>
    ascii "Read \x7b handle: " ++ handle.debug ++ ascii ", requested: " ++
      Decimal.ofNat requested ++ ascii ", result: " ++ Decimal.ofInt result ++ ascii " \x7d"
  | .closed handle result =>
    ascii "Closed \x7b handle: " ++ handle.debug ++ ascii ", result: " ++ Decimal.ofInt result ++
      ascii " \x7d"

end Event

end TracedPipe
