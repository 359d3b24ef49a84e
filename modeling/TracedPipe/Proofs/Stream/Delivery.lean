import TracedPipe.Proofs.Host.OpenFiles
import TracedPipe.Proofs.Stream.Course
import TracedPipe.Proofs.Stream.Remaining
import TracedPipe.Proofs.Text.Characters
import TracedPipe.Session.Run

/-!
# Readings deliver the stream

Of a stream that ends, a reading takes bytes off the front, and gives these bytes in their order:
none is lost, none comes twice, and none is made up. Signals may come in between, the system may
hand over as little as it likes at a time, and the logger and the observer may write to errno
whatever they like, as long as the observer does not panic.

The loop is taken apart along its course. What the reads of a course have taken is the front of the
stream (`Course.Gathers`), and each of them keeps it so: an interrupted read took nothing and is
made again, any other takes a byte at least or finds the end (`Gathering.course_of_stream`, by
induction on the number of reads that may still be made). There are enough of these, as each uses up
a pace or a byte.

Main statement: `Session.readings_of_stream`.
-/

namespace TracedPipe

/-! ### Plans -/

namespace Plan

/-- A plan that asks for something whenever it asks. -/
def AsksForBytes (plan : Plan) : Prop := ∀ got size, plan got = some size → 0 < size

/-- A plan that never has more than `count` bytes. -/
def StaysWithin (plan : Plan) (count : Nat) : Prop :=
  ∀ got size, plan got = some size → got + size ≤ count

theorem exactly_eq_none_iff {count got : Nat} : exactly count got = none ↔ count ≤ got := by
  unfold exactly
  split <;> simp <;> omega

theorem singly_eq_none_iff {limit got : Nat} : singly limit got = none ↔ limit ≤ got := by
  unfold singly
  split <;> simp <;> omega

theorem of_exactly {count got size : Nat} (h : exactly count got = some size) :
    0 < size ∧ got + size ≤ count := by
  unfold exactly at h
  split at h
  · cases h
    omega
  · cases h

theorem of_singly {limit got size : Nat} (h : singly limit got = some size) :
    0 < size ∧ got + size ≤ limit := by
  unfold singly at h
  split at h
  · cases h
    omega
  · cases h

/-- Whatever the sizes are, one byte at least is asked for. -/
theorem everything_asksForBytes (room : Nat → Nat) : (everything room).AsksForBytes := by
  intro got size h
  cases h
  exact Nat.succ_pos _

end Plan

namespace Plan

/-- A number of bytes beyond which a gathering cannot go that has `got` bytes and finds `r` left in
the stream: there are no more, or the plan wants no more. -/
def Bounds (plan : Plan) (got : Nat) (r : Bytes) (bound : Nat) : Prop :=
  r.length ≤ bound ∨ ∀ n, bound ≤ n → plan (got + n) = none

variable {plan : Plan} {got bound : Nat} {r : Bytes}

/-- A plan that wants a byte of a stream that has one is not at its bound. -/
theorem Bounds.pos (h : plan.Bounds got r bound) {size : Nat} (hplan : plan got = some size)
    (hr : 0 < r.length) : 0 < bound := by
  rcases h with hlength | hnone
  · omega
  · rcases Nat.eq_zero_or_pos bound with hzero | hpos
    · have hstop := hnone 0 (by omega)
      rw [Nat.add_zero, hplan] at hstop
      cases hstop
    · exact hpos

theorem Bounds.drop (h : plan.Bounds got r bound) (k : Nat) :
    plan.Bounds (got + k) (r.drop k) (bound - k) := by
  rcases h with hlength | hnone
  · left
    rw [List.length_drop]
    omega
  · right
    intro n hn
    rw [Nat.add_assoc]
    exact hnone (k + n) (by omega)

end Plan

/-! ### Courses over a stream -/

/-- A course that starts with `got` bytes on a host where the stream has `r` left, and takes the
next `n` of them: because the plan had enough then, or because there were no more. -/
structure Course.Gathers (c : Course) (plan : Plan) (got : Nat) (host : Host) (d : Descriptor)
    (r : Bytes) (n : Nat) : Prop where
  le_length : n ≤ r.length
  data : c.data = r.take n
  host : host.afterAll c.calls = host.advance d n
  ended : c.ended = .enough ∧ plan (got + n) = none ∨
    c.ended = .atEnd ∧ plan (got + n) ≠ none ∧ n = r.length

namespace Gathering

variable {plan : Plan} {d : Descriptor} {host : Host} {r : Bytes}

/-- A read that takes `k` bytes goes in front of a course that takes the next ones. -/
theorem gathers_after {c : Course} {call : SystemCall} {got k n : Nat}
    (hstream : host.stream? d = some r) (hk : k ≤ r.length) (hcall : call.host = host.advance d k)
    (h : c.Gathers plan (got + k) (host.advance d k) d (r.drop k) n) :
    (c.after call (r.take k)).Gathers plan got host d r (k + n) where
  le_length := by
    have hle := h.le_length
    rw [List.length_drop] at hle
    omega
  -- The bytes of this read, and then those that the rest of the course takes.
  data := by
    calc r.take k ++ c.data = r.take k ++ (r.drop k).take n := by rw [h.data]
      _ = r.take (k + n) := List.take_add.symm
  host := by
    calc call.host.afterAll c.calls = (host.advance d k).advance d n := by rw [hcall, h.host]
      _ = host.advance d (k + n) := Host.advance_advance hstream k n
  -- An end at the plan's wish stays one. At the end of the stream, nothing is left beyond the first
  -- `k` bytes and the `n` after them.
  ended := by
    rw [← Nat.add_assoc]
    rcases h.ended with ⟨hended, hplan⟩ | ⟨hended, hplan, hn⟩
    · exact .inl ⟨hended, hplan⟩
    · rw [List.length_drop] at hn
      exact .inr ⟨hended, hplan, by omega⟩

/-- An interrupted read in front of a course changes nothing. -/
theorem gathers_after_interrupted {c : Course} {call : SystemCall} {got n : Nat}
    (hcall : call.host = host) (h : c.Gathers plan got host d r n) :
    (c.after call []).Gathers plan got host d r n where
  le_length := h.le_length
  data := h.data
  host := by
    calc call.host.afterAll c.calls = host.afterAll c.calls := by rw [hcall]
      _ = host.advance d n := h.host
  ended := h.ended

/-- **A course over a stream takes the front of it,** if it may make a read for each pace, and one
for each byte up to its bound. -/
theorem course_of_stream (hasks : plan.AsksForBytes) {limit : Nat} (paces : List Pace)
    {got bound : Nat} (hstream : host.stream? d = some r) (hbound : plan.Bounds got r bound)
    (hlimit : paces.length + bound < limit) :
    ∃ n, (course plan d none limit paces got host).Gathers plan got host d r n := by
  -- By induction on the limit. What decreases is the paces and the bytes that can still come:
  -- `hlimit` keeps their number below the limit, and each read uses up one or the other.
  induction limit generalizing paces got bound host r with
  | zero => omega
  | succ limit ih =>
    rw [course]
    cases hplan : plan got with
    -- The plan has enough and asks for no more.
    | none => exact ⟨0, Nat.zero_le _, rfl, (host.advance_zero d).symm, .inl ⟨rfl, hplan⟩⟩
    | some size =>
      have hsize : 0 < size := hasks got size hplan
      dsimp only
      rw [Host.reading_of_stream hstream]
      by_cases hsignal : size ≠ 0 ∧ paces.headD .full = .interrupted
      · -- The read used up a pace, so one read less is enough for what is left.
        rw [if_pos hsignal]
        have hpaces : paces.tail.length + 1 = paces.length := by
          cases paces with
          | nil => cases hsignal.2
          | cons pace paces => rfl
        obtain ⟨n, hn⟩ := ih paces.tail hstream hbound (by omega)
        exact ⟨n, gathers_after_interrupted rfl hn⟩
      · rw [if_neg hsignal]
        have hmost := Host.most_pos hsize (paces.headD .full)
        generalize Host.most size (paces.headD .full) = most at hmost ⊢
        dsimp only
        split
        · next hnothing =>
          -- A read that was asked for bytes brings none only at the end of the stream.
          have hend : r = [] := (List.take_eq_nil_iff.mp hnothing).resolve_left (by omega)
          subst hend
          refine ⟨0, Nat.zero_le _, rfl, ?_, .inr ⟨rfl, ?_, rfl⟩⟩
          · rw [List.take_nil]
            rfl
          · rw [Nat.add_zero, hplan]
            rintro ⟨⟩
        · next hsome =>
          -- The read took `k` bytes, and that is one at least.
          have hpos : 0 < (r.take most).length := List.length_pos_iff.mpr hsome
          have hle : (r.take most).length ≤ r.length := List.length_take_le' most r
          have htake : r.take (r.take most).length = r.take most := by
            rw [List.length_take, ← List.take_eq_take_min]
          generalize (r.take most).length = k at hpos hle htake ⊢
          -- The plan asked for more, so `bound` is not used up either, and taking `k` of it pays
          -- for this read.
          have hwanted := hbound.pos hplan (by omega)
          have htail : paces.tail.length ≤ paces.length := by
            rw [List.length_tail]
            omega
          obtain ⟨n, hn⟩ := ih paces.tail (Host.stream?_advance hstream k)
            (hbound.drop k) (by omega)
          rw [← htake]
          exact ⟨k + n, gathers_after hstream hle rfl hn⟩

/-- A course takes no more bytes than its plan ever has. -/
theorem length_data_course {count : Nat} (hplan : plan.StaysWithin count) (limit : Nat)
    (paces : List Pace) (got : Nat) (hgot : got ≤ count) (d : Descriptor) (host : Host) :
    got + (course plan d none limit paces got host).data.length ≤ count := by
  -- By induction on the limit; `hgot` is kept because a read brings at most what it was asked for.
  induction limit generalizing paces got host with
  | zero => exact hgot
  | succ limit ih =>
    rw [course]
    cases hnext : plan got with
    | none => exact hgot
    | some size =>
      have hsize := hplan got size hnext
      have hasked := Nat.le_trans (host.length_data_reading d size .memory (paces.headD .full))
        (Nat.min_le_left size Host.maxTransfer)
      dsimp only
      generalize host.reading d size .memory (paces.headD .full) = call at hasked ⊢
      split
      · -- A fault brings no bytes, whether the loop goes on after it or stops.
        split
        · exact ih paces.tail got hgot call.host
        · exact hgot
      · -- The bytes of this read are within what the plan asked for, and so within `count`.
        split
        · exact hgot
        · have hrest := ih paces.tail (got + call.data.length) (by omega) call.host
          show got + (call.data ++ _).length ≤ count
          rw [List.length_append]
          omega

/-! ### Gatherings and readings of a stream -/

variable {s : Session}

/-- A gathering that took the next `n` bytes of a stream that had `r` left. -/
structure Takes (g : Gathering) (s : Session) (plan : Plan) (d : Descriptor) (r : Bytes)
    (n : Nat) : Prop where
  le_length : n ≤ r.length
  data : g.data = r.take n
  host : g.session.world.host = s.world.host.advance d n
  ended : g.ended = .enough ∧ plan n = none ∨ g.ended = .atEnd ∧ plan n ≠ none ∧ n = r.length

/-- **A gathering takes the front of its stream,** and never more than its plan has. -/
theorem run_of_stream (hcalm : s.tracing.panic = none) (hstream : s.world.host.stream? d = some r)
    (hasks : plan.AsksForBytes) {bound : Nat} (hbound : plan.Bounds 0 r bound) (paces : List Pace) :
    ∃ n, (run plan d bound paces s).Takes s plan d r n ∧
      ∀ count, plan.StaysWithin count → n ≤ count := by
  -- The run does what its course says; of the course it is known how far it takes the stream.
  have hfollows := loop_follows plan d (paces.length + bound + 1) paces 0 s
  rw [hcalm] at hfollows
  obtain ⟨n, hn⟩ := course_of_stream hasks paces hstream hbound (Nat.lt_succ_self _)
  refine ⟨n, ⟨hn.le_length, hfollows.data.trans hn.data, ?_, ?_⟩, fun count hcount => ?_⟩
  · rw [← hn.host, ← World.host_afterAll_eq]
    exact hfollows.calls.host
  · have hended := hn.ended
    rw [Nat.zero_add] at hended
    rwa [show (run plan d bound paces s).ended = _ from hfollows.ended]
  · -- A plan that stays within `count` gets no more than `count`, and what it got is `n` bytes
    -- long.
    have hlength := length_data_course hcount (paces.length + bound + 1) paces 0
      (Nat.zero_le count) d s.world.host
    rw [hn.data, List.length_take_of_le hn.le_length] at hlength
    omega

end Gathering

namespace Reading

variable {s : Session} {d : Descriptor} {r : Bytes}

/-- A stream that ends has as much left as it has. -/
theorem remaining_of_stream {host : Host} (h : host.stream? d = some r) :
    remaining host d = some r.length := by
  obtain ⟨file, hlookup, ⟨content, hnode, rfl⟩ | ⟨hnode, -⟩⟩ := Host.stream?_cases h
  · simp only [remaining, hlookup, hnode, List.length_drop]
  · simp only [remaining, hlookup, hnode]

/-- A reading of everything reads up to the end of the stream. -/
theorem drain_of_stream (hcalm : s.tracing.panic = none)
    (hstream : s.world.host.stream? d = some r) (room : Nat → Nat) (paces : List Pace) :
    (drain room s d paces).data = r ∧ (drain room s d paces).ended = .atEnd ∧
      (drain room s d paces).session.world.host = s.world.host.advance d r.length := by
  have hbound : (Plan.everything room).Bounds 0 r ((remaining s.world.host d).getD 0) := by
    rw [remaining_of_stream hstream]
    exact .inl (Nat.le_refl _)
  obtain ⟨n, hn, -⟩ := Gathering.run_of_stream hcalm hstream (Plan.everything_asksForBytes room)
    hbound paces
  have htakes : (drain room s d paces).Takes s (.everything room) d r n := hn
  -- Such a plan never has enough.
  rcases htakes.ended with ⟨-, hnone⟩ | ⟨hended, -, hlength⟩
  · cases hnone
  · subst hlength
    exact ⟨htakes.data.trans List.take_length, hended, htakes.host⟩

/-- **One read is one call,** whatever comes of it. -/
theorem once_of_calm (hcalm : s.tracing.panic = none) (d : Descriptor) (size : Nat) (pace : Pace) :
    let call := s.world.host.reading d size .memory pace
    let o := (once size).run s d [pace]
    s.LeadsTo [call] false o.session o.entries ∧
    o.data = Buffer.store call.data (Buffer.ofSize size) ∧
    (∀ n : Nat, call.result = n → o.ending = .done (.ok n)) ∧
    (∀ e, call.fault = some e → o.ending = .done (.error (.system e))) ∧
    (call.fault = none ↔ 0 ≤ call.result) := by
  -- With no panicking hook the reading is its one call, and what the call says decides the rest.
  have hfollows := run_follows (once size) s d [pace]
  have hresult := s.world.host.result_reading d size .memory pace
  have hpassage : (once size).passage s.tracing.panic s.world.host d [pace]
      = .single none (s.world.host.reading d size .memory pace) (Buffer.ofSize size) := by
    rw [hcalm]
    rfl
  have hnothing (e : Errno) := s.world.host.data_reading_of_fault d size .memory pace (e := e)
  rw [hpassage, Passage.single] at hfollows
  generalize s.world.host.reading d size .memory pace = call at *
  dsimp only
  cases hfault : call.fault with
  | none =>
    rw [hfault] at hfollows hresult
    -- The call answered with the number of its bytes, so it is not negative.
    refine ⟨hfollows.calls, hfollows.data, fun n hn => ?_, fun e he => ?_, ?_⟩
    · obtain rfl : call.data.length = n := Int.ofNat_inj.mp (hresult.symm.trans hn)
      exact hfollows.ending
    · cases he
    · rw [hresult]
      exact iff_of_true rfl (Int.natCast_nonneg _)
  | some e =>
    rw [hfault] at hfollows hresult
    -- The call failed and brought nothing, so the buffer is as it was.
    refine ⟨hfollows.calls, ?_, fun n hn => ?_, fun e' he => ?_, ?_⟩
    · rw [hnothing e hfault]
      exact hfollows.data
    · rw [hresult] at hn
      cases hn
    · cases he
      exact hfollows.ending
    · rw [hresult]
      exact iff_of_false (by rintro ⟨⟩) (show ¬0 ≤ World.failure by decide)

/-- A buffer without room is full, and nothing is read. -/
theorem exactly_zero (s : Session) (d : Descriptor) (paces : List Pace) :
    (exactly 0).run s d paces = ⟨s, [], [], .done (.ok 0)⟩ := rfl

/-- **A buffer is filled with the front of the stream,** as far as that goes. -/
theorem exactly_of_stream (hcalm : s.tracing.panic = none)
    (hstream : s.world.host.stream? d = some r) (size : Nat) (paces : List Pace) :
    let o := (exactly size).run s d paces
    (size ≤ r.length → o.ending = .done (.ok size) ∧ o.data = r.take size ∧
      o.session.world.host = s.world.host.advance d size) ∧
    (r.length < size → o.ending = .done (.error .unexpectedEnd) ∧
      o.data = r ++ Buffer.ofSize (size - r.length) ∧
      o.session.world.host = s.world.host.advance d r.length) := by
  -- The plan asks for nothing once it has `size` bytes.
  have hbound : (Plan.exactly size).Bounds 0 r size :=
    .inr fun n hn => Plan.exactly_eq_none_iff.mpr (by omega)
  obtain ⟨n, hn, hwithin⟩ := Gathering.run_of_stream hcalm hstream
    (fun _ _ h => (Plan.of_exactly h).1) hbound paces
  have hle := hn.le_length
  have hsize : n ≤ size := hwithin size fun _ _ h => (Plan.of_exactly h).2
  have hended := hn.ended
  rw [Ne, Plan.exactly_eq_none_iff] at hended
  unfold run fill
  dsimp only
  rw [hn.data]
  constructor
  · intro hfull
    -- The plan goes on asking up to `size`, and there is enough.
    obtain rfl : n = size := by omega
    have hlength : (r.take n).length = n := List.length_take_of_le hle
    have henough := hended.resolve_right fun hend => hend.2.1 (Nat.le_refl n)
    refine ⟨?_, ?_, hn.host⟩
    · rw [henough.1, ending, hlength]
    · rw [Buffer.store, hlength, Buffer.ofSize, List.drop_replicate, Nat.sub_self,
        List.replicate_zero, List.append_nil]
  · intro hshort
    -- The stream ended below `size`: everything was taken, and the plan was left asking.
    obtain rfl : n = r.length := by omega
    have hend := hended.resolve_left fun henough => by omega
    refine ⟨?_, ?_, hn.host⟩
    · rw [hend.1, ending]
    · rw [List.take_length, Buffer.store, Buffer.ofSize, List.drop_replicate, Buffer.ofSize]

/-- **Single bytes are the front of the stream,** up to their limit. -/
theorem singly_of_stream (hcalm : s.tracing.panic = none)
    (hstream : s.world.host.stream? d = some r) (limit : Nat) (paces : List Pace) :
    let o := (singly limit).run s d paces
    o.ending = .done (.ok (min limit r.length)) ∧ o.data = r.take limit ∧
      o.session.world.host = s.world.host.advance d (min limit r.length) := by
  -- The plan asks for nothing once it has `limit` bytes.
  have hbound : (Plan.singly limit).Bounds 0 r limit :=
    .inr fun n hn => Plan.singly_eq_none_iff.mpr (by omega)
  obtain ⟨n, hn, hwithin⟩ := Gathering.run_of_stream hcalm hstream
    (fun _ _ h => (Plan.of_singly h).1) hbound paces
  have hle := hn.le_length
  have hlimit : n ≤ limit := hwithin limit fun _ _ h => (Plan.of_singly h).2
  have hended := hn.ended
  rw [Ne, Plan.singly_eq_none_iff] at hended
  have hmin : n = min limit r.length := by
    rcases hended with hended | hended <;> omega
  have hdata : (Gathering.run (.singly limit) d limit paces s).data = r.take limit := by
    rw [hn.data, hmin, ← List.take_eq_take_min]
  refine ⟨?_, hdata, hmin ▸ hn.host⟩
  unfold run collect
  dsimp only
  rw [hdata, List.length_take]
  -- At the limit or at the end, the bytes are counted all the same.
  rcases hended with ⟨hended, -⟩ | ⟨hended, -⟩
  · rw [hended, ending, List.length_take]
  · rw [hended, ending]

/-- **Everything is all that the stream has left,** after what is there already. -/
theorem drainBytes_of_stream (hcalm : s.tracing.panic = none)
    (hstream : s.world.host.stream? d = some r) (room : Nat → Nat) (held : Bytes)
    (paces : List Pace) :
    let o := drainBytes room s d held paces
    o.ending = .done (.ok r.length) ∧ o.data = held ++ r ∧
      o.session.world.host = s.world.host.advance d r.length := by
  obtain ⟨hdata, hended, hhost⟩ := drain_of_stream hcalm hstream room paces
  unfold drainBytes
  dsimp only
  rw [hdata, hended]
  exact ⟨rfl, rfl, hhost⟩

/-- **Everything as text is text or nothing,** and takes all of the stream. -/
theorem drainText_of_stream (hcalm : s.tracing.panic = none)
    (hstream : s.world.host.stream? d = some r) (room : Nat → Nat) (held : Bytes)
    (paces : List Pace) :
    let o := drainText room s d held paces
    o.session.world.host = s.world.host.advance d r.length ∧
    (Utf8.WellFormed r → o.ending = .done (.ok r.length) ∧ o.data = held ++ r) ∧
    (¬Utf8.WellFormed r → o.ending = .done (.error .notText) ∧ o.data = held) := by
  obtain ⟨hdata, hended, hhost⟩ := drain_of_stream hcalm hstream room paces
  unfold drainText
  dsimp only
  rw [hdata, hended]
  by_cases htext : Utf8.WellFormed r
  · rw [if_pos ((Utf8.isWellFormed_iff r).mpr htext)]
    exact ⟨hhost, fun _ => ⟨rfl, rfl⟩, fun h => absurd htext h⟩
  · rw [if_neg fun h => htext ((Utf8.isWellFormed_iff r).mp h)]
    exact ⟨hhost, fun h => absurd h htext, fun _ => ⟨rfl, rfl⟩⟩

end Reading

namespace Session

variable {s : Session} {d : Descriptor} {r : Bytes}

/-- **Readings deliver the stream,** whatever the observer and the logger write to errno. Let a
descriptor have `r` left, in a file from its position on, or in a queue that nobody writes to:

* one read, of whatever descriptor, is one system call; it gives the result of that call or the
  error that it failed with, be it an interruption;
* a buffer that `r` can fill is filled with the front of `r`, and nothing else is taken; a larger
  one takes all of `r` to its front, and then the end of the stream is an error; an empty one is
  full without any call, of whatever descriptor;
* single bytes are the front of `r`, up to the limit;
* everything is `r`, whatever the sizes of the pieces, and comes after what is there already;
* everything as text is `r` too, if `r` is text as a whole; otherwise nothing is kept, though all of
  `r` was taken.

The paces are how the system serves the reads, in short pieces and with signals in between. To
advance by some bytes is to take them off the front of the stream. -/
theorem readings_of_stream (hcalm : s.tracing.panic = none)
    (hstream : s.world.host.stream? d = some r) :
    (∀ (other : Descriptor) (size : Nat) (pace : Pace),
      let call := s.world.host.reading other size .memory pace
      let o := (Reading.once size).run s other [pace]
      s.LeadsTo [call] false o.session o.entries ∧
      o.data = Buffer.store call.data (Buffer.ofSize size) ∧
      (∀ n : Nat, call.result = n → o.ending = .done (.ok n)) ∧
      (∀ e, call.fault = some e → o.ending = .done (.error (.system e))) ∧
      (call.fault = none ↔ 0 ≤ call.result)) ∧
    (∀ (size : Nat) (paces : List Pace),
      let o := (Reading.exactly size).run s d paces
      (size ≤ r.length → o.ending = .done (.ok size) ∧ o.data = r.take size ∧
        o.session.world.host = s.world.host.advance d size) ∧
      (r.length < size → o.ending = .done (.error .unexpectedEnd) ∧
        o.data = r ++ Buffer.ofSize (size - r.length) ∧
        o.session.world.host = s.world.host.advance d r.length)) ∧
    (∀ (other : Descriptor) (paces : List Pace),
      (Reading.exactly 0).run s other paces = ⟨s, [], [], .done (.ok 0)⟩) ∧
    (∀ (limit : Nat) (paces : List Pace),
      let o := (Reading.singly limit).run s d paces
      o.ending = .done (.ok (min limit r.length)) ∧ o.data = r.take limit ∧
        o.session.world.host = s.world.host.advance d (min limit r.length)) ∧
    (∀ (room : Nat → Nat) (held : Bytes) (paces : List Pace),
      let o := Reading.drainBytes room s d held paces
      o.ending = .done (.ok r.length) ∧ o.data = held ++ r ∧
        o.session.world.host = s.world.host.advance d r.length) ∧
    (∀ (room : Nat → Nat) (held : Bytes) (paces : List Pace),
      let o := Reading.drainText room s d held paces
      o.session.world.host = s.world.host.advance d r.length ∧
      (Utf8.WellFormed r → o.ending = .done (.ok r.length) ∧ o.data = held ++ r) ∧
      (¬Utf8.WellFormed r → o.ending = .done (.error .notText) ∧ o.data = held)) ∧
    ∀ n, (s.world.host.advance d n).stream? d = some (r.drop n) := by
  refine ⟨?_, ?_, ?_, ?_, ?_, ?_, Host.stream?_advance hstream⟩
  · -- One call does not depend on there being a stream: what it says is what the host answered.
    intro other size pace
    exact Reading.once_of_calm hcalm other size pace
  · -- A gathering takes the stream up to its plan or to its end, whatever the paces.
    intro size paces
    exact Reading.exactly_of_stream hcalm hstream size paces
  · intro other paces
    exact Reading.exactly_zero s other paces
  · intro limit paces
    exact Reading.singly_of_stream hcalm hstream limit paces
  · -- The room that a drain asks for decides how many reads it makes, and not what they bring.
    intro room held paces
    exact Reading.drainBytes_of_stream hcalm hstream room held paces
  · intro room held paces
    exact Reading.drainText_of_stream hcalm hstream room held paces

/-- Steps that read the first byte of a text of two bytes and a character of two, while a nesting
hook and the logger write to errno. -/
def readingSteps : List Step :=
  [.setLog ⟨.trace, some ⟨71⟩⟩,
    .setHook (some ⟨"hook", some ⟨72⟩, true, none, none⟩),
    .openFile (.bytes (ascii "notes")),
    .read .buffer ⟨0⟩ 1 .full]

/-- The session that these steps lead to. -/
def halfRead : Session :=
  ((prepared [.file (ascii "notes") (ascii "ab" ++ [0xc3, 0xa9])]).run readingSteps).1

theorem readings_of_stream_halfRead :
    (halfRead.tracing.panic = none ∧
      halfRead.world.host.stream? ⟨0⟩ = some (ascii "b" ++ [0xc3, 0xa9])) ∧
    (let o := (Reading.exactly 2).run halfRead ⟨0⟩ [.interrupted, .short 0, .interrupted];
      o.ending = .done (.ok 2) ∧ o.data = ascii "b" ++ [0xc3] ∧
        o.session.world.host = halfRead.world.host.advance ⟨0⟩ 2) ∧
    (let o := (Reading.exactly 5).run halfRead ⟨0⟩ [.short 1];
      o.ending = .done (.error .unexpectedEnd) ∧ o.data = ascii "b" ++ [0xc3, 0xa9, 0xaa, 0xaa] ∧
        o.session.world.host = halfRead.world.host.advance ⟨0⟩ 3) ∧
    (let o := Reading.drainText (fun _ => 1) halfRead ⟨0⟩ (ascii "a") [.short 1, .interrupted];
      o.session.world.host = halfRead.world.host.advance ⟨0⟩ 3 ∧
        o.ending = .done (.ok 3) ∧ o.data = ascii "ab" ++ [0xc3, 0xa9]) := by
  have hcalm : halfRead.tracing.panic = none := by decide
  have hstream : halfRead.world.host.stream? ⟨0⟩ = some (ascii "b" ++ [0xc3, 0xa9]) := by decide
  have htext : Utf8.WellFormed (ascii "b" ++ [0xc3, 0xa9]) := by
    refine (Utf8.wellFormed_cons_iff _ _).mpr ⟨[], rfl, rfl, ?_⟩
    exact (Utf8.wellFormed_cons_iff _ _).mpr ⟨[Utf8.tail], rfl, rfl, .nil⟩
  obtain ⟨-, hexactly, -, -, -, hdrainText, -⟩ := readings_of_stream hcalm hstream
  obtain ⟨hhost, hkept, -⟩ := hdrainText (fun _ => 1) (ascii "a") [.short 1, .interrupted]
  exact ⟨⟨hcalm, hstream⟩, (hexactly 2 [.interrupted, .short 0, .interrupted]).1 (by decide),
    (hexactly 5 [.short 1]).2 (by decide), hhost, hkept htext⟩

end Session

end TracedPipe
