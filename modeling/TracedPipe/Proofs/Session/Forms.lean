import TracedPipe.Proofs.Host.OpenFiles
import TracedPipe.Proofs.Session.Deeds
import Mathlib.Data.List.Forall2

/-!
# The forms of a call come to the same

A path can be opened as a pathname, as a byte string, and through a pointer, by the C interface or
without; a descriptor can be read and closed in several forms too. Forms that hand the same to the
system are one and the same call: same outcome, same entries, same session after it.

The C interface narrows the result of a read to 32 bits. That does not change it, as a read that
succeeds never hands over more than `Host.maxTransfer` bytes (`narrow_reading`).

So the forms in a run do not matter (`Session.run_of_sameCall`). Main statement:
`Session.forms_agree`.
-/

namespace TracedPipe

/-! ### Narrowed numbers -/

/-- **What narrowing leaves alone:** the signed numbers of 32 bits. -/
theorem narrow_eq_self_iff (n : Int) : narrow n = n ↔ -0x80000000 ≤ n ∧ n < 0x80000000 := by
  unfold narrow Int.bmod
  dsimp only
  split <;> omega

/-- Narrowing does not change a result that a system may give to a read, whatever it was asked
for. -/
theorem narrow_of_mayReturn {count : Nat} {result : Int} (h : Host.MayReturn count result) :
    narrow result = result := by
  rw [narrow_eq_self_iff]
  rcases h with rfl | ⟨hnonneg, hle⟩
  · decide
  · -- The most that one read hands over is less than 2³¹, even if more is asked for.
    have hmost : min count Host.maxTransfer ≤ 0x7ffff000 := Nat.min_le_right count _
    omega

/-- The result of a read is not changed by narrowing. -/
theorem narrow_reading (host : Host) (d : Descriptor) (count : Nat) (destination : Destination)
    (pace : Pace) :
    narrow (host.reading d count destination pace).result
      = (host.reading d count destination pace).result :=
  narrow_of_mayReturn (host.mayReturn_reading d count destination pace)

/-- Every form of a read returns the result of the system call. -/
theorem ReadForm.returned_reading (form : ReadForm) (host : Host) (d : Descriptor) (count : Nat)
    (destination : Destination) (pace : Pace) :
    form.returned (host.reading d count destination pace).result
      = (host.reading d count destination pace).result := by
  cases form with
  | buffer => rfl
  | pointer given => rfl
  | c given => exact narrow_reading host d count destination pace

/-! ### Steps that make the same call -/

/-- Two steps make the same call, perhaps in different forms: both forms of an open have the same
path, both forms of a read the same destination. -/
inductive Step.SameCall : Step → Step → Prop where
  | refl (step : Step) : SameCall step step
  | openFile {form other : OpenForm} {path : Option Pathname} (hform : form.path = .ok path)
      (hother : other.path = .ok path) : SameCall (.openFile form) (.openFile other)
  | read {form other : ReadForm} (h : form.destination = other.destination) (d : Descriptor)
      (count : Nat) (pace : Pace) : SameCall (.read form d count pace) (.read other d count pace)
  | close (d : Descriptor) : SameCall (.close d) (.closeByC d)
  | closeByC (d : Descriptor) : SameCall (.closeByC d) (.close d)

namespace Session

variable {s : Session}

/-! ### One call -/

/-- An open in any form that has a path is the open of that path. -/
theorem openIn_of_path {form : OpenForm} {path : Option Pathname} (h : form.path = .ok path) :
    s.openIn form = .ok (s.finish (s.world.after (s.world.host.opening path))
      (s.world.host.opening path).event ⟨(s.world.host.opening path).result⟩) := by
  rw [openIn_eq, h]
  rfl

/-- The value that a call gives goes through its announcement untouched. -/
theorem map_finish {α β : Type} (s : Session) (w : World) (event : Event) (f : α → β) (value : α) :
    (s.finish w event value).map f = s.finish w event (f value) := by
  unfold finish Outcome.map
  dsimp only
  cases (s.tracing.announce event w).panic <;> rfl

/-- A read in any form is the read through a pointer to the same destination. -/
theorem readIn_eq_readPointer (s : Session) (d : Descriptor) (count : Nat) (pace : Pace)
    (form : ReadForm) :
    s.readIn d count pace form = s.readPointer d count form.destination pace := by
  have hreturned := form.returned_reading s.world.host d count form.destination pace
  rw [readIn_eq, readPointer_eq, map_finish, hreturned]

/-! ### Steps and runs -/

/-- **Steps that make the same call are the same step.** -/
theorem step_of_sameCall {step other : Step} (h : step.SameCall other) :
    s.step other = s.step step := by
  cases h with
  | refl step => rfl
  | openFile hform hother =>
    rw [Session.step, Session.step, openIn_of_path hform, openIn_of_path hother]
  | @read form other hdestination d count pace =>
    have hreply : readReply form count = readReply other count := by
      unfold readReply
      rw [hdestination]
    rw [Session.step, Session.step, readIn_eq_readPointer, readIn_eq_readPointer, hdestination,
      hreply]
  | close d => rfl
  | closeByC d => rfl

/-- **The forms of the calls of a run do not matter.** -/
theorem run_of_sameCall {steps others : List Step}
    (h : List.Forall₂ Step.SameCall steps others) : s.run others = s.run steps := by
  induction h generalizing s with
  | nil => rfl
  | cons hstep _ ih => rw [run, run, step_of_sameCall hstep, ih]

/-- **The forms agree,** in every session:

* the bytes of a pathname are opened as the pathname is, and so is memory that begins with it, up to
  a NUL, by the C interface or without; a null pointer is opened alike in both ways;
* a read is the same into a buffer and through a pointer to memory, and by the C interface and
  without, whether the pointer is null or not;
* a close is the same by the C interface and without;
* runs whose steps make the same calls, one by one, end in the same session with the same
  answers. -/
theorem forms_agree (s : Session) :
    (∀ (path : Pathname) (memory : Bytes), Pathname.upToTerminator memory = path →
      s.openBytes path.bytes = .ok (s.openPathname path) ∧
      s.openPointer (some memory) = s.openPathname path ∧
      CInterface.openFile s (some memory) = (s.openPathname path).map Descriptor.number) ∧
    CInterface.openFile s none = (s.openPointer none).map Descriptor.number ∧
    (∀ (d : Descriptor) (count : Nat) (pace : Pace),
      s.read d count pace = s.readPointer d count .memory pace ∧
      ∀ destination, CInterface.read s d.number count destination pace
        = s.readPointer d count destination pace) ∧
    (∀ d : Descriptor, CInterface.close s d.number = s.close d) ∧
    ∀ steps others : List Step, List.Forall₂ Step.SameCall steps others →
      s.run others = s.run steps := by
  refine ⟨?_, rfl, ?_, fun d => rfl, fun steps others => run_of_sameCall⟩
  · -- Whatever stands in the memory behind the NUL, the system reads the bytes in front of it, as
    -- it does with a pathname and the NUL that it gets.
    rintro path memory rfl
    have hpointer : s.openPointer (some memory)
        = s.openPathname (Pathname.upToTerminator memory) := by
      simp only [openPathname, openPointer, Option.map_some, Pathname.upToTerminator_terminated]
    refine ⟨?_, hpointer, ?_⟩
    · rw [openBytes, Pathname.ofBytes, dif_neg (Pathname.upToTerminator memory).nul_notMem]
      rfl
    · rw [CInterface.openFile, hpointer]
  · -- In the interface for C the result is narrowed, which loses nothing of what a read can return.
    intro d count pace
    refine ⟨rfl, fun destination => ?_⟩
    exact s.readIn_eq_readPointer d count pace (.c destination)

/-- A file opened, read and closed without the C interface, under a nesting hook. -/
def plainSteps : List Step :=
  [.setLog ⟨.debug, some ⟨71⟩⟩,
    .setHook (some ⟨"hook", some ⟨72⟩, true, none, none⟩),
    .openFile (.bytes (ascii "notes")),
    .read .buffer ⟨0⟩ 4 .full,
    .read (.pointer .null) ⟨0⟩ 4 .full,
    .close ⟨0⟩,
    .close ⟨0⟩,
    .last]

/-- The same calls by the C interface, the path with something behind its terminator. -/
def stepsByC : List Step :=
  [.setLog ⟨.debug, some ⟨71⟩⟩,
    .setHook (some ⟨"hook", some ⟨72⟩, true, none, none⟩),
    .openFile (.c (some (ascii "notes" ++ [nul, nul] ++ ascii "more"))),
    .read (.c .memory) ⟨0⟩ 4 .full,
    .read (.c .null) ⟨0⟩ 4 .full,
    .closeByC ⟨0⟩,
    .close ⟨0⟩,
    .last]

theorem forms_agree_stepsByC :
    List.Forall₂ Step.SameCall plainSteps stepsByC ∧
      (prepared [.file (ascii "notes") (ascii "hello")]).run stepsByC
        = (prepared [.file (ascii "notes") (ascii "hello")]).run plainSteps := by
  have hopen : Step.SameCall (.openFile (.bytes (ascii "notes")))
      (.openFile (.c (some (ascii "notes" ++ [nul, nul] ++ ascii "more")))) :=
    .openFile (by rfl) (by rfl)
  have hread : Step.SameCall (.read .buffer ⟨0⟩ 4 .full) (.read (.c .memory) ⟨0⟩ 4 .full) :=
    .read (by rfl) _ _ _
  have hnull : Step.SameCall (.read (.pointer .null) ⟨0⟩ 4 .full) (.read (.c .null) ⟨0⟩ 4 .full) :=
    .read (by rfl) _ _ _
  have hsame : List.Forall₂ Step.SameCall plainSteps stepsByC :=
    .cons (.refl _) <| .cons (.refl _) <| .cons hopen <| .cons hread <| .cons hnull <|
      .cons (.close _) <| .cons (.refl _) <| .cons (.refl _) .nil
  obtain ⟨-, -, -, -, hruns⟩ := forms_agree (prepared [.file (ascii "notes") (ascii "hello")])
  exact ⟨hsame, hruns plainSteps stepsByC hsame⟩

end Session

end TracedPipe
