import TracedPipe.Proofs.Host.FileReads
import TracedPipe.Proofs.Host.OpenFiles
import TracedPipe.Proofs.Stream.Course

/-!
# What readings come to

What a reading depends on, and what it hands to its caller.
-/

namespace TracedPipe

/-!
## Readings of the same file

A reading of a regular file looks at nothing of the host but the content of the file and the
position in it. So it looks the same on every host that agrees about the two: it makes calls that
show the same, gives the same data, and ends the same (`Reading.passage_of_file`).
-/

/-- What is seen of a course. -/
def Course.seen (c : Course) : List Sight × Bytes × Ended :=
  (c.calls.map SystemCall.sight, c.data, c.ended)

/-- What is seen of a passage. -/
def Passage.seen (p : Passage) : List Sight × Bytes × ReadingEnd :=
  (p.calls.map SystemCall.sight, p.data, p.ending)

/-- Courses that look the same do so with a call in front that looks the same. -/
theorem Course.seen_after {c c' : Course} {call call' : SystemCall}
    (hcall : call.sight = call'.sight)
    (h : c.seen = c'.seen) (bytes : Bytes) :
    (c.after call bytes).seen = (c'.after call' bytes).seen := by
  simp only [seen, Prod.mk.injEq] at h
  obtain ⟨hcalls, hdata, hended⟩ := h
  simp only [seen, after, List.map_cons, hcall, hcalls, hdata, hended]

section SameFile

variable {host other : Host} {d : Descriptor} {id : NodeId} {position : Nat} {content : Bytes}

/-- A gathering takes the same course on hosts that agree about its file. -/
theorem Gathering.course_of_file (h : host.OnFile d id position content)
    (hother : other.OnFile d id position content) (plan : Plan) (panic : Option String)
    (limit : Nat) (paces : List Pace) (got : Nat) :
    (course plan d panic limit paces got host).seen
      = (course plan d panic limit paces got other).seen := by
  -- By induction on the reads that are left. Both loops are on a file with the same position and
  -- content, so each read shows them the same and leaves them so.
  induction limit generalizing host other position paces got with
  | zero => rfl
  | succ limit ih =>
    rw [course, course]
    cases plan got with
    | none => rfl
    | some size =>
      dsimp only
      have hsight := h.sight_reading hother size .memory (paces.headD .full)
      have hnext := h.reading size .memory (paces.headD .full)
      have hnextOther := hother.reading size .memory (paces.headD .full)
      generalize host.reading d size .memory (paces.headD .full) = call at *
      generalize other.reading d size .memory (paces.headD .full) = call' at *
      have hdata : call.data = call'.data := congrArg Sight.data hsight
      have hfault : call.fault = call'.fault := congrArg Sight.fault hsight
      rw [← hdata] at hnextOther
      -- The two calls look the same, so both loops end here, or both go on from the same position.
      cases panic with
      | some message => simp only [Course.seen, List.map_cons, List.map_nil, hsight]
      | none =>
        rw [hfault, hdata]
        cases call'.fault with
        | some e =>
          dsimp only
          split
          · -- After a signal both try again.
            exact Course.seen_after hsight (ih hnext hnextOther _ _) []
          · simp only [Course.seen, List.map_cons, List.map_nil, hsight]
        | none =>
          dsimp only
          split
          · simp only [Course.seen, List.map_cons, List.map_nil, hsight]
          · -- Both got the same bytes, so both ask next for what is left of the same plan.
            exact Course.seen_after hsight (ih hnext hnextOther _ _) _

/-- One read makes the same passage from calls that look the same. -/
theorem Passage.seen_single {call call' : SystemCall} (h : call.sight = call'.sight)
    (panic : Option String) (buffer : Bytes) :
    (single panic call buffer).seen = (single panic call' buffer).seen := by
  have hdata : call.data = call'.data := congrArg Sight.data h
  have hfault : call.fault = call'.fault := congrArg Sight.fault h
  unfold single
  cases panic with
  | some message => simp only [seen, List.map_cons, List.map_nil, h]
  | none =>
    rw [hfault, hdata]
    cases call'.fault <;> simp only [seen, List.map_cons, List.map_nil, h]

/-- Courses that look the same make passages that do. -/
theorem Passage.seen_of_course {c c' : Course} (h : c.seen = c'.seen) (data : Bytes → Bytes)
    (atEnd : Bytes → Except StreamError Nat) :
    seen ⟨c.calls, data c.data, Reading.ending (atEnd c.data) c.data c.ended⟩
      = seen ⟨c'.calls, data c'.data, Reading.ending (atEnd c'.data) c'.data c'.ended⟩ := by
  simp only [Course.seen, Prod.mk.injEq] at h
  obtain ⟨hcalls, hdata, hended⟩ := h
  simp only [seen, hcalls, hdata, hended]

/-- **A reading has the same passage on hosts that agree about its file.** -/
theorem Reading.passage_of_file (h : host.OnFile d id position content)
    (hother : other.OnFile d id position content) (reading : Reading) (panic : Option String)
    (paces : List Pace) :
    (reading.passage panic host d paces).seen = (reading.passage panic other d paces).seen := by
  -- The room that a drain starts with is what remains of the file, and that too depends on the
  -- position and the content alone.
  have hremaining : remaining host d = remaining other d := by
    unfold remaining
    simp only [h.lookup, h.node, hother.lookup, hother.node]
  have hdrain : (drainCourse panic host d paces).seen = (drainCourse panic other d paces).seen := by
    unfold drainCourse
    rw [hremaining]
    exact Gathering.course_of_file h hother _ _ _ _ _
  cases reading with
  | once size => exact Passage.seen_single (h.sight_reading hother _ _ _) panic _
  | exactly size =>
    exact Passage.seen_of_course (Gathering.course_of_file h hother _ _ _ _ _)
      (fun data => Buffer.store data (Buffer.ofSize size)) fun _ => .error .unexpectedEnd
  | limited limit size =>
    unfold passage
    dsimp only
    split
    · rfl
    · exact Passage.seen_single (h.sight_reading hother _ _ _) panic _
  | singly limit =>
    exact Passage.seen_of_course (Gathering.course_of_file h hother _ _ _ _ _) (fun data => data)
      fun data => .ok data.length
  | scattered sizes => exact Passage.seen_single (h.sight_reading hother _ _ _) panic _
  | toEnd held =>
    exact Passage.seen_of_course hdrain (held ++ ·) fun data => .ok data.length
  | textToEnd held =>
    -- Both gather the same bytes, so for both they are text, or for neither.
    have hdata : (drainCourse panic host d paces).data = (drainCourse panic other d paces).data :=
      congrArg (fun seen => seen.2.1) hdrain
    have htext := Passage.seen_of_course hdrain (held ++ ·) fun data => .ok data.length
    have hnotText := Passage.seen_of_course hdrain (fun _ => held) fun _ => .error .notText
    unfold passage
    dsimp only
    rw [hdata] at htext hnotText ⊢
    split
    · exact htext
    · exact hnotText

end SameFile

/-!
## What a reading makes of its bytes

A reading gives to its caller what its calls wrote, each byte once and in the order of the calls,
unless the observer panics: into the front of a buffer, or after what is held already
(`Reading.given`). Calls that failed wrote nothing, and the bytes of a text that is none are not
kept.
-/

/-- What a reading gives that gathered these bytes. -/
def Reading.given (got : Bytes) : Reading → Bytes
  | .once size => Buffer.store got (Buffer.ofSize size)
  | .exactly size => Buffer.store got (Buffer.ofSize size)
  | .limited _ size => Buffer.store got (Buffer.ofSize size)
  | .singly _ => got
  | .scattered sizes => Buffer.store got (sizes.map Buffer.ofSize).flatten
  | .toEnd held => held ++ got
  | .textToEnd held => if Utf8.isWellFormed got then held ++ got else held

/-- The bytes of a course are those of its calls, unless a panic ends it. -/
theorem Gathering.data_course {plan : Plan} {d : Descriptor} {panic : Option String} {limit : Nat}
    {paces : List Pace} {got : Nat} {host : Host}
    (h : (course plan d panic limit paces got host).ended.isPanic = false) :
    (course plan d panic limit paces got host).data
      = (course plan d panic limit paces got host).calls.flatMap SystemCall.data := by
  -- By induction on the reads that are left; a panic is the one way for a read to write bytes that
  -- the loop does not get.
  induction limit generalizing paces got host with
  | zero => rfl
  | succ limit ih =>
    rw [course] at h ⊢
    cases hplan : plan got with
    | none => rfl
    | some size =>
      rw [hplan] at h
      cases panic with
      | some message => cases h
      | none =>
        dsimp only at h ⊢
        have hwritten (e : Errno) :=
          host.data_reading_of_fault d size .memory (paces.headD .full) (e := e)
        generalize host.reading d size .memory (paces.headD .full) = call at h hwritten ⊢
        cases hfault : call.fault with
        | some e =>
          -- A read that failed wrote nothing, so it adds nothing to the bytes.
          have hnothing : call.data = [] := hwritten e hfault
          rw [hfault] at h
          dsimp only at h ⊢
          split
          · next hkind =>
            rw [if_pos hkind] at h
            rw [Course.after, List.flatMap_cons, hnothing, ih h]
          · rw [List.flatMap_singleton, hnothing]
        | none =>
          rw [hfault] at h
          dsimp only at h ⊢
          split
          · next hend =>
            -- The read that ends the loop wrote nothing.
            rw [List.flatMap_singleton, hend]
          · next hsome =>
            rw [if_neg hsome] at h
            rw [Course.after, List.flatMap_cons, ih h]

namespace Reading

variable {panic : Option String} {host : Host} {d : Descriptor} {paces : List Pace}

theorem data_single {size : Nat} {buffer : Bytes} {pace : Pace}
    (h : (Passage.single panic (host.reading d size .memory pace) buffer).ending.isPanic = false) :
    (Passage.single panic (host.reading d size .memory pace) buffer).data
      = Buffer.store ((Passage.single panic (host.reading d size .memory pace) buffer).calls.flatMap
          SystemCall.data) buffer := by
  unfold Passage.single at h ⊢
  cases panic with
  | some message => cases h
  | none =>
    dsimp only
    cases hfault : (host.reading d size .memory pace).fault with
    | none => rw [List.flatMap_singleton]
    | some e =>
      dsimp only
      rw [List.flatMap_singleton, host.data_reading_of_fault d size .memory pace hfault]
      rfl

/-- **A reading gives what its calls wrote,** unless a panic ends it. -/
theorem data_passage {reading : Reading}
    (h : (reading.passage panic host d paces).ending.isPanic = false) :
    (reading.passage panic host d paces).data
      = reading.given ((reading.passage panic host d paces).calls.flatMap SystemCall.data) := by
  -- One call, or a gathering that did not panic because its reading did not.
  cases reading with
  | once size => exact data_single h
  | scattered sizes => exact data_single h
  | limited limit size =>
    unfold passage at h ⊢
    dsimp only at h ⊢
    -- At its limit the reading makes no call and has no bytes.
    by_cases hlimit : limit = 0
    · rw [if_pos hlimit]
      rfl
    · rw [if_neg hlimit] at h ⊢
      exact data_single h
  | exactly size =>
    have hcalm := (isPanic_ending _ _ _).symm.trans h
    exact congrArg (Buffer.store · (Buffer.ofSize size)) (Gathering.data_course hcalm)
  | singly limit =>
    have hcalm := (isPanic_ending _ _ _).symm.trans h
    exact Gathering.data_course hcalm
  | toEnd held =>
    have hcalm := (isPanic_ending _ _ _).symm.trans h
    exact congrArg (held ++ ·) (Gathering.data_course hcalm)
  | textToEnd held =>
    unfold passage at h ⊢
    dsimp only at h ⊢
    rw [apply_ite Passage.ending, apply_ite ReadingEnd.isPanic, isPanic_ending, isPanic_ending,
      ite_self] at h
    have hdata := Gathering.data_course h
    unfold given
    -- Text or not, the calls are the same.
    rw [apply_ite Passage.calls, ite_self, apply_ite Passage.data]
    change (drainCourse panic host d paces).data
      = (drainCourse panic host d paces).calls.flatMap SystemCall.data at hdata
    dsimp only
    rw [← hdata]

end Reading

end TracedPipe
