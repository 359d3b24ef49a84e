import TracedPipe.Proofs.Session.Deeds
import TracedPipe.Proofs.Session.Trail

/-!
# Paths given as bytes

A byte string that is to be opened is a path, or it is a path with a NUL and something more behind
it (`Pathname.bytes_cases`). In memory the second looks like the path in front of its NUL. So it
must not get there: a byte string is taken whole (`Pathname.ofBytes_bytes`), or it is refused where
its first NUL stands (`Pathname.ofBytes_append_nul`).

* `Session.OpensPath` — the one call of an open, the event, the entries and the reply, all of the
  same path;
* `Session.Refuses` — nothing is called and nothing changes;
* `Session.run_without_refused` — so opens that are refused can be left out of any run.

Main statement: `Session.opened_as_given`.
-/

namespace TracedPipe

/-! ### Byte strings as paths -/

namespace Pathname

/-- **A byte string is a path, or begins with one** that a NUL ends. -/
theorem bytes_cases (given : Bytes) :
    (∃ path : Pathname, given = path.bytes) ∨
      ∃ (front : Pathname) (behind : Bytes), given = front.bytes ++ nul :: behind := by
  by_cases hnul : nul ∈ given
  · right
    -- The path in front is what lies before the first NUL.
    obtain ⟨before, behind, hgiven, hbefore⟩ := List.eq_append_cons_of_mem hnul
    exact ⟨⟨before, hbefore⟩, behind, hgiven⟩
  · left
    exact ⟨⟨given, hnul⟩, rfl⟩

/-- The bytes of a path are taken as that path. -/
theorem ofBytes_bytes (path : Pathname) : ofBytes path.bytes = .ok path := by
  rw [ofBytes, dif_neg path.nul_notMem]

/-- A byte string with a NUL is refused at the end of the path in front. -/
theorem ofBytes_append_nul (front : Pathname) (behind : Bytes) :
    ofBytes (front.bytes ++ nul :: behind) = .error (.nulAt front.bytes.length) := by
  have hnul : nul ∈ front.bytes ++ nul :: behind :=
    List.mem_append_right front.bytes List.mem_cons_self
  have hposition : (front.bytes ++ nul :: behind).idxOf nul = front.bytes.length := by
    rw [List.idxOf_append, if_neg front.nul_notMem, List.idxOf_cons_self, Nat.zero_add]
  rw [ofBytes, dif_pos hnul, hposition]

/-- **What is taken is taken as it is.** -/
theorem ofBytes_eq_ok_iff {given : Bytes} {path : Pathname} :
    ofBytes given = .ok path ↔ path.bytes = given := by
  constructor
  · intro h
    rcases bytes_cases given with ⟨taken, rfl⟩ | ⟨front, behind, rfl⟩
    · rw [ofBytes_bytes] at h
      obtain rfl := Except.ok.inj h
      rfl
    · rw [ofBytes_append_nul] at h
      cases h
  · rintro rfl
    exact ofBytes_bytes path

/-- **What is refused is refused at its first NUL.** -/
theorem ofBytes_eq_error_iff {given : Bytes} {position : Nat} :
    ofBytes given = .error (.nulAt position)
      ↔ given[position]? = some nul ∧ nul ∉ given.take position := by
  constructor
  · intro h
    -- Any byte string is a path, or a path with a NUL behind it and anything after that.
    rcases bytes_cases given with ⟨taken, rfl⟩ | ⟨front, behind, rfl⟩
    · rw [ofBytes_bytes] at h
      cases h
    · rw [ofBytes_append_nul] at h
      obtain rfl : front.bytes.length = position := PathFault.nulAt.inj (Except.error.inj h)
      refine ⟨?_, ?_⟩
      · rw [List.getElem?_append_right (Nat.le_refl _), Nat.sub_self]
        rfl
      · rw [List.take_left]
        exact front.nul_notMem
  · rintro ⟨hnul, hbefore⟩
    obtain ⟨hlt, hget⟩ := List.getElem?_eq_some_iff.mp hnul
    -- Cut at the position, the byte string is a path in front and the NUL behind it.
    have hgiven : given = given.take position ++ nul :: given.drop (position + 1) := by
      rw [← hget, ← List.drop_eq_getElem_cons hlt, List.take_append_drop]
    have hlength : (given.take position).length = position :=
      List.length_take_of_le (Nat.le_of_lt hlt)
    have hrefused := ofBytes_append_nul ⟨given.take position, hbefore⟩ (given.drop (position + 1))
    rwa [← hgiven, hlength] at hrefused

/-- A byte string is taken if and only if it has no NUL. -/
theorem exists_ofBytes_eq_ok_iff (given : Bytes) :
    (∃ path, ofBytes given = .ok path) ↔ nul ∉ given := by
  constructor
  · rintro ⟨path, hpath⟩
    rw [← ofBytes_eq_ok_iff.mp hpath]
    exact path.nul_notMem
  · intro hnul
    exact ⟨⟨given, hnul⟩, ofBytes_eq_ok_iff.mpr rfl⟩

end Pathname

/-- Whether a step is to open a byte string that is no path. -/
def Step.isRefused : Step → Bool
  | .openFile (.bytes given) => nul ∈ given
  | _ => false

namespace Session

variable {s : Session} {given : Bytes}

/-! ### Opens that are made -/

/-- **A step opens a path:** it makes one call, which asks the system for the bytes of the path; the
event carries the path and the answer of the system, and the entries are those of this event; and
the reply is that answer, unless the observer panics. -/
structure OpensPath (s : Session) (step : Step) (path : Pathname) : Prop where
  calls : s.calls step = [s.world.host.opening (some path)]
  event : (s.world.host.opening (some path)).event
    = .opened (some path) (s.world.openFile (some path.bytes)).2
  host : (s.step step).1.world.host = (s.world.openFile (some path.bytes)).1.host
  entries : (s.step step).2.entries
    = s.tracing.entries (s.world.openFile (some path.bytes)).1.errno
        (.opened (some path) (s.world.openFile (some path.bytes)).2)
  reply : (s.step step).2.reply
    = s.tracing.shown (.opened (s.world.openFile (some path.bytes)).2)

/-- A byte string that is taken as a path is opened as that path. -/
theorem opensPath_of_ofBytes {path : Pathname} (h : Pathname.ofBytes given = .ok path) :
    s.OpensPath (.openFile (.bytes given)) path := by
  have hpath : (OpenForm.bytes given).path = .ok (some path) := by
    rw [OpenForm.path, h]
    rfl
  -- What the step does is its deed, one call with the path that was given.
  have hdeed := Step.deed_of_path hpath s.tracing.panic s.world.host
  obtain ⟨hcalls, hhost, hreply, -⟩ := s.step_of_call (.openFile (.bytes given)) hdeed rfl
  -- The world answers for the bytes of the path what its host answers for the path.
  have hworld : s.world.openFile (some path.bytes)
      = (s.world.after (s.world.host.opening (some path)),
          ⟨(s.world.host.opening (some path)).result⟩) := s.world.openFile_eq (some path)
  refine ⟨hcalls, ?_, ?_, ?_, ?_⟩
  · rw [Host.event_opening, hworld]
  · rw [hhost, hworld, World.host_after]
  · rw [entries_of_ofCall hdeed rfl, Host.event_opening, hworld, World.errno_after]
  · rw [hreply, hworld]

/-! ### Opens that are refused -/

/-- **A step is refused:** no call is made, and the session is left as it was, errno and settings
included, with no entry. -/
structure Refuses (s : Session) (step : Step) (fault : PathFault) : Prop where
  calls : s.calls step = []
  step : s.step step = (s, ⟨.refused fault, s.world.errno, []⟩)

/-- A byte string that is not taken is refused in every session. -/
theorem refuses_of_ofBytes {fault : PathFault} (h : Pathname.ofBytes given = .error fault) :
    s.Refuses (.openFile (.bytes given)) fault := by
  have hpath : (OpenForm.bytes given).path = .error fault := by
    rw [OpenForm.path, h]
    rfl
  have hopen : s.openIn (.bytes given) = .error fault := by
    rw [openIn_eq, hpath]
    rfl
  refine ⟨?_, ?_⟩
  · rw [calls, Step.deed_of_refused hpath]
  · rw [Session.step, hopen]
    rfl

/-- A step that is to open no path is refused. -/
theorem exists_refuses {step : Step} (h : step.isRefused = true) :
    ∃ fault, s.Refuses step fault := by
  cases step with
  | openFile form =>
    cases form with
    | bytes given =>
      have hnul : nul ∈ given := of_decide_eq_true h
      exact ⟨.nulAt (given.idxOf nul), refuses_of_ofBytes (dif_pos hnul)⟩
    | _ => cases h
  | _ => cases h

/-- **Opens that are refused can be left out of a run:** the others lead to the same session, with
the same answers. -/
theorem run_without_refused (s : Session) (steps : List Step) :
    (s.run (steps.filter fun step => !step.isRefused)).1 = (s.run steps).1 ∧
    (s.run (steps.filter fun step => !step.isRefused)).2
      = ((steps.zip (s.run steps).2).filter fun made => !made.1.isRefused).map Prod.snd := by
  induction steps generalizing s with
  | nil => exact ⟨rfl, rfl⟩
  | cons step steps ih =>
    rw [run, List.zip_cons_cons]
    dsimp only
    cases h : step.isRefused with
    | true =>
      -- Only one of the two runs makes the step, and it stays where it is.
      obtain ⟨fault, hrefuses⟩ := exists_refuses (s := s) h
      obtain ⟨hsession, hanswers⟩ := ih s
      rw [List.filter_cons_of_neg (by simp [h]), List.filter_cons_of_neg (by simp [h]),
        hrefuses.step]
      exact ⟨hsession, hanswers⟩
    -- Both runs make the step, and go on from the same session.
    | false =>
      obtain ⟨hsession, hanswers⟩ := ih (s.step step).1
      rw [List.filter_cons_of_pos (by simp [h]), List.filter_cons_of_pos (by simp [h]), run,
        List.map_cons]
      exact ⟨hsession, congrArg ((s.step step).2 :: ·) hanswers⟩

/-! ### All byte strings -/

/-- **A byte string is opened as it is given, or not at all.**

* It is taken as a path if and only if it has no NUL. Then the bytes of the path are those given, so
  that paths are equal if and only if the byte strings are.
* Otherwise the fault is the position of its first NUL.
* What is taken is opened: the system is asked for these bytes, and the event shows them.
* What is refused is refused in every session, with the same fault, and nothing comes of it: no
  call, no entry, no change of the session. Any run goes as it would without.
* So what begins with a path and goes on behind a NUL is never opened as that path, whatever file
  the path leads to; though in memory it is that path, and a pointer to it is opened as such. -/
theorem opened_as_given :
    (∀ given : Bytes, (∃ path, Pathname.ofBytes given = .ok path) ↔ nul ∉ given) ∧
    (∀ (given : Bytes) (path : Pathname),
      Pathname.ofBytes given = .ok path ↔ path.bytes = given) ∧
    (∀ (given other : Bytes) (path path' : Pathname), Pathname.ofBytes given = .ok path →
      Pathname.ofBytes other = .ok path' → (path = path' ↔ given = other)) ∧
    (∀ (given : Bytes) (position : Nat), Pathname.ofBytes given = .error (.nulAt position)
      ↔ given[position]? = some nul ∧ nul ∉ given.take position) ∧
    (∀ (s : Session) (given : Bytes) (path : Pathname), Pathname.ofBytes given = .ok path →
      s.openBytes given = .ok (s.openPathname path) ∧ s.OpensPath (.openFile (.bytes given)) path) ∧
    (∀ (s : Session) (given : Bytes) (fault : PathFault), Pathname.ofBytes given = .error fault →
      s.openBytes given = .error fault ∧ s.Refuses (.openFile (.bytes given)) fault) ∧
    (∀ (s : Session) (steps : List Step),
      (s.run (steps.filter fun step => !step.isRefused)).1 = (s.run steps).1 ∧
      (s.run (steps.filter fun step => !step.isRefused)).2
        = ((steps.zip (s.run steps).2).filter fun made => !made.1.isRefused).map Prod.snd) ∧
    (∀ (s : Session) (front : Pathname) (behind : Bytes),
      s.Refuses (.openFile (.bytes (front.bytes ++ nul :: behind)))
        (.nulAt front.bytes.length) ∧
      s.openPointer (some (front.bytes ++ nul :: behind)) = s.openPathname front) := by
  refine ⟨Pathname.exists_ofBytes_eq_ok_iff, ?_, ?_, ?_, ?_, ?_, run_without_refused, ?_⟩
  · intro given path
    exact Pathname.ofBytes_eq_ok_iff
  · -- The path that is taken has the bytes that were given, and a path is determined by its bytes.
    intro given other path path' hgiven hother
    rw [← Pathname.ofBytes_eq_ok_iff.mp hgiven, ← Pathname.ofBytes_eq_ok_iff.mp hother]
    exact Pathname.ext_iff
  · intro given position
    exact Pathname.ofBytes_eq_error_iff
  · -- An accepted path is opened as the pathname that it is.
    intro s given path hpath
    refine ⟨?_, opensPath_of_ofBytes hpath⟩
    rw [openBytes, hpath]
    rfl
  · -- A refused one does not get as far as a call.
    intro s given fault hfault
    refine ⟨?_, refuses_of_ofBytes hfault⟩
    rw [openBytes, hfault]
    rfl
  · -- The same bytes behind a pointer are read up to the first NUL, so there they open the part in
    -- front.
    intro s front behind
    refine ⟨refuses_of_ofBytes (Pathname.ofBytes_append_nul front behind), ?_⟩
    simp only [openPathname, openPointer, Option.map_some, Pathname.upToTerminator_append_nul,
      Pathname.upToTerminator_terminated]

/-- A session with a file, a logger and a nesting hook that write to errno, and a code in errno. -/
def guarded : Session :=
  ((prepared [.file (ascii "pipe") (ascii "abc")]).run
    [.setLog ⟨.debug, some ⟨71⟩⟩,
      .setHook (some ⟨"hook", some ⟨72⟩, true, none, none⟩),
      .restore ⟨5⟩]).1

/-- The name of the file, a NUL, and more. -/
def pipeAndMore : Bytes := ascii "pipe" ++ nul :: ascii "line"

theorem opened_as_given_guarded :
    (∃ path, Pathname.ofBytes (ascii "pipe") = .ok path ∧
      guarded.OpensPath (.openFile (.bytes (ascii "pipe"))) path ∧
      (guarded.step (.openFile (.bytes (ascii "pipe")))).2.reply = .opened ⟨0⟩) ∧
    (Pathname.ofBytes pipeAndMore = .error (.nulAt 4) ∧
      guarded.Refuses (.openFile (.bytes pipeAndMore)) (.nulAt 4)) ∧
    (∃ path other, Pathname.ofBytes (ascii "./pipe") = .ok path ∧
      Pathname.ofBytes (ascii ".//pipe") = .ok other ∧ path ≠ other) := by
  obtain ⟨htaken, -, hequal, hfault, hopens, hrefuses, -⟩ := opened_as_given
  refine ⟨?_, ?_, ?_⟩
  · obtain ⟨path, hpath⟩ := (htaken (ascii "pipe")).mpr (by decide)
    exact ⟨path, hpath, (hopens guarded _ path hpath).2, by decide⟩
  · have hnul : Pathname.ofBytes pipeAndMore = .error (.nulAt 4) :=
      (hfault pipeAndMore 4).mpr (by decide)
    exact ⟨hnul, (hrefuses guarded _ _ hnul).2⟩
  · obtain ⟨path, hpath⟩ := (htaken (ascii "./pipe")).mpr (by decide)
    obtain ⟨other, hother⟩ := (htaken (ascii ".//pipe")).mpr (by decide)
    refine ⟨path, other, hpath, hother, ?_⟩
    rw [Ne, hequal _ _ path other hpath hother]
    decide

end Session

end TracedPipe
