import TracedPipe.Event
import TracedPipe.Session.Run

/-!
# Views of errors

An error of the system is a code, whether there is a text for it or not. It is shown as a message
and in a debug form, it becomes an error of a stream and comes back as a code, and it is put into
errno and asked for again. The code is lost nowhere: each of these views tells any two errors apart.

Only errors that never had a code do not survive the way back from a stream; they all come back as
the unknown error.

A path fault is no error of the system, and its message is not taken for one.

Main statement: `Session.errors_keep_their_identity`.
-/

namespace TracedPipe

/-! ### Texts of an error -/

namespace Errno

/-- **A message shows which error it is about.** Its code is read from the end, so it does not
matter that the text before it may be a phrase, or contain the code as well. -/
theorem message_inj {e other : Errno} : e.message = other.message ↔ e = other := by
  constructor
  · intro h
    -- Without the bracket behind it the code stands at the end, and the word in front of it does
    -- not end like a number.
    have hword : (ascii " (os error ").getLast?.any (!Decimal.isNumeral ·) = true := by decide
    obtain ⟨-, hcode⟩ := Decimal.append_ofInt_inj hword (List.append_cancel_right h)
    exact congrArg Errno.mk hcode
  · rintro rfl
    rfl

-- An error without a text shows its code twice.
example : (⟨-5⟩ : Errno).message = ascii "Unknown error -5 (os error -5)" := by
  decide +kernel

/-- **So does a debug form,** where the code comes first. -/
theorem debug_inj {e other : Errno} : e.debug = other.debug ↔ e = other := by
  constructor
  · intro h
    have hword : (ascii ", ").head?.any (!Decimal.isNumeral ·) = true := by decide
    simp only [debug, List.append_assoc] at h
    obtain ⟨hcode, -⟩ := Decimal.ofInt_append_inj hword (List.append_cancel_left h)
    exact congrArg Errno.mk hcode
  · rintro rfl
    rfl

end Errno

namespace PathFault

theorem message_inj {fault other : PathFault} : fault.message = other.message ↔ fault = other := by
  obtain ⟨p⟩ := fault
  obtain ⟨q⟩ := other
  constructor
  · intro h
    exact congrArg nulAt (Decimal.ofNat_inj.mp (List.append_cancel_left h))
  · intro h
    rw [h]

/-- **A path fault is never mistaken for an error of the system:** a message of the latter closes
with a bracket, and there is none in a message of the former. -/
theorem message_ne_message (fault : PathFault) (e : Errno) : fault.message ≠ e.message := by
  intro h
  have hbracket : (41 : UInt8) ∈ fault.message := by
    rw [h]
    exact List.mem_append_right _ (by decide)
  -- A path fault is shown by fixed words and digits.
  obtain ⟨position⟩ := fault
  rcases List.mem_append.mp hbracket with hwords | hdigits
  · exact absurd hwords (by decide)
  · exact absurd (Decimal.isDigit_of_mem_ofNat hdigits) (by decide)

end PathFault

/-! ### Errors of streams -/

namespace StreamError

/-- A stream error comes back as the code that it has, and as the unknown error if it has none. -/
theorem toErrno_eq (error : StreamError) :
    error.toErrno = ⟨error.code?.getD Errno.unknown.code⟩ := by
  cases error <;> rfl

/-- A stream error comes through unchanged if and only if it has a code. -/
theorem system_toErrno_eq_iff {error : StreamError} :
    system error.toErrno = error ↔ error.code?.isSome := by
  cases error with
  | system e => exact ⟨fun _ => rfl, fun _ => rfl⟩
  | bare kind => exact ⟨nofun, nofun⟩
  | described kind text => exact ⟨nofun, nofun⟩

end StreamError

/-! ### Errno -/

/-- A question that errno answers: what error it holds, or what became of an open or of a call of
which only a negative number is left. -/
inductive ErrnoQuestion where
  /-- What error errno holds. -/
  | last
  /-- The outcome of an open that failed. -/
  | ofDescriptor (d : Descriptor) (failed : d.number < 0)
  /-- The outcome of a call that failed. -/
  | ofResult (result : Int) (failed : result < 0)

namespace ErrnoQuestion

/-- The step that asks a question. -/
def step : ErrnoQuestion → Step
  | .last => .last
  | .ofDescriptor d _ => .check d
  | .ofResult result _ => .checkResult result

/-- The reply to a question if errno holds the error `e`. -/
def reply (e : Errno) : ErrnoQuestion → Reply
  | .last => .last e
  | .ofDescriptor _ _ => .descriptor (.error e)
  | .ofResult _ _ => .result (.error e)

end ErrnoQuestion

namespace Session

/-- A question is answered with the error in errno, and leaves it there. -/
theorem step_errnoQuestion (s : Session) (question : ErrnoQuestion) :
    s.step question.step = (s, ⟨question.reply s.world.errno, s.world.errno, []⟩) := by
  cases question with
  | last => rfl
  | ofDescriptor d failed =>
    show s.answer [] (.descriptor (d.check s.world.errno)) = _
    rw [Descriptor.check_of_neg _ failed]
    rfl
  | ofResult result failed =>
    show s.answer [] (.result (s.world.errno.check result)) = _
    rw [Errno.check_of_neg _ failed]
    rfl

/-- So are any number of them. -/
theorem run_errnoQuestions (s : Session) (questions : List ErrnoQuestion) :
    s.run (questions.map ErrnoQuestion.step)
      = (s, questions.map fun question => ⟨question.reply s.world.errno, s.world.errno, []⟩) := by
  induction questions with
  | nil => rfl
  | cons question questions ih =>
    rw [List.map_cons, run, step_errnoQuestion]
    dsimp only
    rw [ih]
    rfl

/-- **An error that is put into errno is what every question finds there,** however often it is
asked, and in whatever words. -/
theorem run_restore_errnoQuestions (s : Session) (e : Errno) (questions : List ErrnoQuestion) :
    s.run (.restore e :: questions.map ErrnoQuestion.step)
      = (s.withErrno e,
          ⟨.restored, e, []⟩ :: questions.map fun question => ⟨question.reply e, e, []⟩) := by
  have hrestore : s.step (.restore e) = (s.withErrno e, ⟨.restored, e, []⟩) := rfl
  rw [run, hrestore]
  dsimp only
  rw [run_errnoQuestions]
  rfl

/-- **Errors keep their identity in every view.**

* Two errors of the system are equal if and only if their messages are, and if and only if their
  debug forms are.
* As an error of a stream, such an error keeps its code, its category and its message, and it comes
  back as the error it was.
* In every session, an error that is put into errno is what any questions find there: for the last
  error, or for the outcome of a descriptor or of a result that is negative.
* An error of a stream comes back with the code that it has, or with the unknown code, 0, if it has
  none. To come back once more changes nothing then; and the error of the stream itself is regained
  if and only if it has a code.
* Two path faults are equal if and only if their messages are, and none has the message of an error
  of the system. -/
theorem errors_keep_their_identity :
    (∀ e other : Errno,
      (e.message = other.message ↔ e = other) ∧ (e.debug = other.debug ↔ e = other)) ∧
    (∀ e : Errno, (StreamError.system e).code? = some e.code ∧
      (StreamError.system e).kind = e.kind ∧ (StreamError.system e).message = e.message ∧
      (StreamError.system e).toErrno = e) ∧
    (∀ (s : Session) (e : Errno) (questions : List ErrnoQuestion),
      s.run (.restore e :: questions.map ErrnoQuestion.step)
        = (s.withErrno e,
            ⟨.restored, e, []⟩ :: questions.map fun question => ⟨question.reply e, e, []⟩)) ∧
    (∀ error : StreamError, error.toErrno = ⟨error.code?.getD 0⟩ ∧
      (StreamError.system error.toErrno).toErrno = error.toErrno ∧
      (StreamError.system error.toErrno = error ↔ error.code?.isSome)) ∧
    (∀ p q : Nat, (PathFault.nulAt p).message = (PathFault.nulAt q).message ↔ p = q) ∧
    (∀ (fault : PathFault) (e : Errno), fault.message ≠ e.message) := by
  refine ⟨?_, ?_, run_restore_errnoQuestions, ?_, ?_, PathFault.message_ne_message⟩
  · -- Each text shows the code, and the rest of it is a matter of the code.
    intro e other
    exact ⟨Errno.message_inj, Errno.debug_inj⟩
  · intro e
    exact ⟨rfl, rfl, rfl, rfl⟩
  · intro error
    exact ⟨error.toErrno_eq, StreamError.toErrno_system _, StreamError.system_toErrno_eq_iff⟩
  · intro p q
    rw [PathFault.message_inj, PathFault.nulAt.injEq]

end Session

end TracedPipe
