import TracedPipe.Proofs.Session.Calls
import TracedPipe.Stream.Reading

/-!
# The course of a reading

Reading a stream is a loop of calls, each under tracing. Its *course* is what the host alone makes
of it: the system calls in their order, the bytes, and the end. Of tracing it only takes whether the
observer panics, which ends the course at its first call.

* `Gathering.course` and `Reading.passage` — the courses of a gathering and of a reading;
* `Gathering.loop_follows`, `Reading.run_follows` — the loop of calls follows its course: it leaves
  the host of the last call, shows the entries of each call, and has the same bytes and the same
  end. Unless it ends in a panic, errno is left as the calls left it.

The loop is taken apart read by read (`Session.portion_of_calm`, `Session.portion_of_panic`); the
induction is on the number of reads that may still be made, over any session.
-/

namespace TracedPipe

/-! ### One read -/

/-- What a read gives to a stream. -/
def SystemCall.portion (call : SystemCall) : Portion :=
  match call.fault with
  | none => .data call.data
  | some e => .failed e

namespace Session

variable {s : Session}

theorem portion_of_calm (h : s.tracing.panic = none) (d : Descriptor) (size : Nat) (pace : Pace) :
    s.portion d size pace
      = (⟨s.world.after (s.world.host.reading d size .memory pace), s.tracing⟩,
          s.tracing.entries (s.world.after (s.world.host.reading d size .memory pace)).errno
            (s.world.host.reading d size .memory pace).event,
          (s.world.host.reading d size .memory pace).portion) := by
  have hcheck := s.world.check_reading d size .memory pace
  unfold portion read
  rw [readPointer_eq, finish_of_calm h]
  simp only [hcheck]
  unfold SystemCall.portion
  cases (s.world.host.reading d size .memory pace).fault <;> rfl

theorem portion_of_panic {message : String} (h : s.tracing.panic = some message) (d : Descriptor)
    (size : Nat) (pace : Pace) :
    ∃ e, s.portion d size pace
      = (⟨⟨(s.world.host.reading d size .memory pace).host, e⟩, s.tracing⟩,
          s.tracing.entries (s.world.after (s.world.host.reading d size .memory pace)).errno
            (s.world.host.reading d size .memory pace).event,
          .panicked message) := by
  unfold portion read
  rw [readPointer_eq]
  obtain ⟨e, he⟩ := finish_of_panic h
    (s.world.after (s.world.host.reading d size .memory pace))
    (s.world.host.reading d size .memory pace).event
    (⟨(s.world.host.reading d size .memory pace).result,
      (s.world.host.reading d size .memory pace).data⟩ : ReadResult)
  exact ⟨e, by rw [he]; rfl⟩

end Session

/-! ### Gatherings -/

/-- The course of a gathering: its system calls, the bytes gathered, and how it ends. -/
structure Course where
  calls : List SystemCall
  data : Bytes
  ended : Ended
deriving DecidableEq

/-- The course with an earlier read and its bytes in front. -/
def Course.after (call : SystemCall) (bytes : Bytes) (c : Course) : Course :=
  ⟨call :: c.calls, bytes ++ c.data, c.ended⟩

/-- Whether a gathering ends in a panic. -/
def Ended.isPanic : Ended → Bool
  | .panicked _ => true
  | _ => false

namespace Gathering

/-- **The course of a gathering,** where the observer panics with the given message, if it does. -/
def course (plan : Plan) (d : Descriptor) (panic : Option String) :
    (limit : Nat) → (paces : List Pace) → (got : Nat) → Host → Course
  | 0, _, _, _ => ⟨[], [], .never⟩
  | limit + 1, paces, got, host =>
    match plan got with
    | none => ⟨[], [], .enough⟩
    | some size =>
      let call := host.reading d size .memory (paces.headD .full)
      match panic with
      | some message => ⟨[call], [], .panicked message⟩
      | none =>
        match call.fault with
        | some e =>
          if e.kind = .interrupted then
            (course plan d panic limit paces.tail got call.host).after call []
          else ⟨[call], [], .failed e⟩
        | none =>
          if call.data = [] then ⟨[call], [], .atEnd⟩
          else
            (course plan d panic limit paces.tail (got + call.data.length) call.host).after call
              call.data

/-- A course that no panic ends is the same without an observer that panics. -/
theorem course_of_ended {plan : Plan} {d : Descriptor} {panic : Option String} {limit : Nat}
    {paces : List Pace} {got : Nat} {host : Host}
    (h : (course plan d panic limit paces got host).ended.isPanic = false) :
    course plan d none limit paces got host = course plan d panic limit paces got host := by
  cases panic with
  | none => rfl
  | some message =>
    cases limit with
    | zero => rfl
    | succ limit =>
      rw [course] at h ⊢
      cases hplan : plan got with
      | none => rw [course, hplan]
      | some size =>
        rw [hplan] at h
        exact absurd h (by simp [Ended.isPanic])

/-- A gathering from the session `s` follows a course. -/
structure Follows (g : Gathering) (s : Session) (c : Course) : Prop where
  calls : s.LeadsTo c.calls c.ended.isPanic g.session g.entries
  data : g.data = c.data
  ended : g.ended = c.ended

/-- A read in front of a gathering goes in front of its course. -/
theorem Follows.after {g : Gathering} {s : Session} {c : Course} {call : SystemCall}
    (h : g.Follows ⟨s.world.after call, s.tracing⟩ c) (bytes : Bytes) :
    (g.after (s.tracing.entries (s.world.after call).errno call.event) bytes).Follows s
      (c.after call bytes) :=
  ⟨.cons h.calls, congrArg (bytes ++ ·) h.data, h.ended⟩

/-- **The loop of calls follows its course.** -/
theorem loop_follows (plan : Plan) (d : Descriptor) (limit : Nat) (paces : List Pace) (got : Nat)
    (s : Session) :
    (loop plan d limit paces got s).Follows s
      (course plan d s.tracing.panic limit paces got s.world.host) := by
  -- By induction on the number of reads that are left. The loop and its course ask the same plan
  -- and look at the same host, so they go the same way at every turn.
  induction limit generalizing paces got s with
  | zero => exact ⟨.nil s false, rfl, rfl⟩
  | succ limit ih =>
    rw [loop, course]
    cases plan got with
    | none => exact ⟨.nil s false, rfl, rfl⟩
    | some size =>
      dsimp only
      cases hpanic : s.tracing.panic with
      -- Under a panicking hook the first read is the last: it is made and never handed on.
      | some message =>
        obtain ⟨e, he⟩ := s.portion_of_panic hpanic d size (paces.headD .full)
        rw [he]
        exact ⟨.panicked s _ e, rfl, rfl⟩
      | none =>
        rw [s.portion_of_calm hpanic d size (paces.headD .full)]
        generalize s.world.host.reading d size .memory (paces.headD .full) = call
        -- What comes after this read starts from the session that it leaves.
        have hrest (got : Nat) := ih paces.tail got ⟨s.world.after call, s.tracing⟩
        simp only [hpanic, World.host_after] at hrest
        unfold SystemCall.portion
        cases call.fault with
        | some e =>
          dsimp only
          split
          · -- A signal came before any byte: the loop tries again, with the pace used up.
            exact (hrest got).after []
          · exact ⟨.single s call false, rfl, rfl⟩
        | none =>
          cases call.data with
          -- No fault and no bytes: the end of the stream, and the loop stops here.
          | nil => exact ⟨.single s call false, rfl, rfl⟩
          | cons b bytes => exact (hrest (got + (b :: bytes).length)).after (b :: bytes)

end Gathering

/-! ### Readings -/

/-- The passage of a reading through its calls: the calls, the data, and how it ends. -/
structure Passage where
  calls : List SystemCall
  data : Bytes
  ending : ReadingEnd
deriving DecidableEq

/-- The passage of one read into a buffer. -/
def Passage.single (panic : Option String) (call : SystemCall) (buffer : Bytes) : Passage :=
  match panic with
  | some message => ⟨[call], buffer, .panicked message⟩
  | none =>
    match call.fault with
    | none => ⟨[call], Buffer.store call.data buffer, .done (.ok call.data.length)⟩
    | some e => ⟨[call], buffer, .done (.error (.system e))⟩

/-- Whether a reading ends in a panic. -/
def ReadingEnd.isPanic : ReadingEnd → Bool
  | .panicked _ => true
  | _ => false

namespace Reading

/-- The course of reading everything. -/
def drainCourse (panic : Option String) (host : Host) (d : Descriptor) (paces : List Pace) :
    Course :=
  Gathering.course (.everything room) d panic
    (paces.length + (remaining host d).getD 0 + 1) paces 0 host

/-- **The passage of a reading,** where the observer panics with the given message, if it does. -/
def passage (reading : Reading) (panic : Option String) (host : Host) (d : Descriptor)
    (paces : List Pace) : Passage :=
  let pace := paces.headD .full
  match reading with
  | .once size => .single panic (host.reading d size .memory pace) (Buffer.ofSize size)
  | .exactly size =>
    let c := Gathering.course (.exactly size) d panic (paces.length + size + 1) paces 0 host
    ⟨c.calls, Buffer.store c.data (Buffer.ofSize size),
      ending (.error .unexpectedEnd) c.data c.ended⟩
  | .limited limit size =>
    if limit = 0 then ⟨[], Buffer.ofSize size, .done (.ok 0)⟩
    else .single panic (host.reading d (min limit size) .memory pace) (Buffer.ofSize size)
  | .singly limit =>
    let c := Gathering.course (.singly limit) d panic (paces.length + limit + 1) paces 0 host
    ⟨c.calls, c.data, ending (.ok c.data.length) c.data c.ended⟩
  | .scattered sizes =>
    .single panic (host.reading d ((sizes.find? (· ≠ 0)).getD 0) .memory pace)
      (sizes.map Buffer.ofSize).flatten
  | .toEnd held =>
    let c := drainCourse panic host d paces
    ⟨c.calls, held ++ c.data, ending (.ok c.data.length) c.data c.ended⟩
  | .textToEnd held =>
    let c := drainCourse panic host d paces
    if Utf8.isWellFormed c.data then
      ⟨c.calls, held ++ c.data, ending (.ok c.data.length) c.data c.ended⟩
    else ⟨c.calls, held, ending (.error .notText) c.data c.ended⟩

/-- A reading from the session `s` follows a passage. -/
structure Follows (o : ReadingOutcome) (s : Session) (p : Passage) : Prop where
  calls : s.LeadsTo p.calls p.ending.isPanic o.session o.entries
  data : o.data = p.data
  ending : o.ending = p.ending

theorem isPanic_ending (atEnd : Except StreamError Nat) (data : Bytes) (ended : Ended) :
    (ending atEnd data ended).isPanic = ended.isPanic := by
  cases ended <;> rfl

theorem single_follows (s : Session) (d : Descriptor) (size : Nat) (buffer : Bytes) (pace : Pace) :
    Follows (single s d size buffer pace) s
      (.single s.tracing.panic (s.world.host.reading d size .memory pace) buffer) := by
  unfold single Passage.single
  cases hpanic : s.tracing.panic with
  | some message =>
    obtain ⟨e, he⟩ := s.portion_of_panic hpanic d size pace
    rw [he]
    exact ⟨.panicked s _ e, rfl, rfl⟩
  | none =>
    rw [s.portion_of_calm hpanic d size pace]
    unfold SystemCall.portion
    cases (s.world.host.reading d size .memory pace).fault with
    | none => exact ⟨.single s _ false, rfl, rfl⟩
    | some e => exact ⟨.single s _ false, rfl, rfl⟩

/-- A gathering that follows its course makes a reading that follows the passage of that course. -/
theorem follows_of_gathering {g : Gathering} {s : Session} {c : Course} (h : g.Follows s c)
    (data : Bytes → Bytes) (atEnd : Bytes → Except StreamError Nat) :
    Follows ⟨g.session, g.entries, data g.data, ending (atEnd g.data) g.data g.ended⟩ s
      ⟨c.calls, data c.data, ending (atEnd c.data) c.data c.ended⟩ where
  calls := by
    rw [isPanic_ending]
    exact h.calls
  data := congrArg data h.data
  ending := by rw [h.data, h.ended]

/-- **A reading follows its passage.** -/
theorem run_follows (reading : Reading) (s : Session) (d : Descriptor) (paces : List Pace) :
    Follows (reading.run s d paces) s
      (reading.passage s.tracing.panic s.world.host d paces) := by
  have hdrain : (drain room s d paces).Follows s
      (drainCourse s.tracing.panic s.world.host d paces) :=
    Gathering.loop_follows _ _ _ _ _ _
  -- One call or a gathering, with what each reading makes of the bytes it got.
  cases reading with
  | once size => exact single_follows s d size _ _
  | exactly size =>
    exact follows_of_gathering (Gathering.loop_follows _ _ _ _ _ _)
      (fun data => Buffer.store data (Buffer.ofSize size)) fun _ => .error .unexpectedEnd
  -- A reader at its limit makes no call at all.
  | limited limit size =>
    unfold run passage
    dsimp only
    split
    · exact ⟨.nil s false, rfl, rfl⟩
    · exact single_follows s d (min limit size) _ _
  | singly limit =>
    exact follows_of_gathering (Gathering.loop_follows _ _ _ _ _ _) id fun data => .ok data.length
  | scattered sizes => exact single_follows s d _ _ _
  | toEnd held =>
    exact follows_of_gathering hdrain (held ++ ·) fun data => .ok data.length
  | textToEnd held =>
    unfold run passage drainText
    dsimp only
    -- Whether the bytes are text is asked of those that the gathering left, which are those of its
    -- course.
    rw [hdrain.data]
    split
    · have h := follows_of_gathering hdrain (held ++ ·) fun data => .ok data.length
      rwa [hdrain.data] at h
    · have h := follows_of_gathering hdrain (fun _ => held) fun _ => .error .notText
      rwa [hdrain.data] at h

/-- Courses that are the same unless a panic ends them make passages that are. -/
theorem passage_of_course {c calm : Course} (hcalm : c.ended.isPanic = false → calm = c)
    (data : Bytes → Bytes) (atEnd : Bytes → Except StreamError Nat)
    (h : (ending (atEnd c.data) c.data c.ended).isPanic = false) :
    (⟨calm.calls, data calm.data, ending (atEnd calm.data) calm.data calm.ended⟩ : Passage)
      = ⟨c.calls, data c.data, ending (atEnd c.data) c.data c.ended⟩ := by
  rw [isPanic_ending] at h
  rw [hcalm h]

/-- A passage that no panic ends is the same without an observer that panics. -/
theorem passage_of_ending {reading : Reading} {panic : Option String} {host : Host} {d : Descriptor}
    {paces : List Pace} (h : (reading.passage panic host d paces).ending.isPanic = false) :
    reading.passage none host d paces = reading.passage panic host d paces := by
  cases panic with
  | none => rfl
  | some message =>
    -- A reading that makes one call panics in it, so only gatherings are left.
    cases reading with
    | once size => cases h
    | scattered sizes => cases h
    | limited limit size =>
      unfold passage at h ⊢
      dsimp only at h ⊢
      split
      · rfl
      · next hlimit =>
        rw [if_neg hlimit] at h
        cases h
    | exactly size =>
      exact passage_of_course Gathering.course_of_ended
        (fun data => Buffer.store data (Buffer.ofSize size)) (fun _ => .error .unexpectedEnd) h
    | singly limit =>
      exact passage_of_course Gathering.course_of_ended id (fun data => .ok data.length) h
    | toEnd held =>
      exact passage_of_course Gathering.course_of_ended (held ++ ·) (fun data => .ok data.length) h
    | textToEnd held =>
      unfold passage drainCourse at h ⊢
      dsimp only at h ⊢
      -- Text or not, the reading panics if the gathering does.
      rw [apply_ite Passage.ending, apply_ite ReadingEnd.isPanic, isPanic_ending, isPanic_ending,
        ite_self] at h
      rw [Gathering.course_of_ended h]

end Reading

end TracedPipe
