import TracedPipe.Proofs.Host.Faults
import TracedPipe.Proofs.Session.Deeds
import TracedPipe.Proofs.Session.Forms
import TracedPipe.Proofs.Session.Trail

/-!
# Results of 32 bits

The C interface takes the count of a read as a number of 32 bits without a sign, and gives the
result as one with a sign. So a caller can ask for more bytes than the result could ever say. If a
read handed over 2³¹ bytes, its result would be negative, and look like a failure.

What prevents this is a limit of the system, not of the interface: a single read hands over no more
than `Host.maxTransfer` bytes, whatever it is asked for (`Host.MayReturn`), and that many can be
said. `Session.ReadsInFull` puts together what follows for a read by the C interface.

Main statement: `Session.reads_by_c_in_full`.
-/

namespace TracedPipe

/-- **Narrowing keeps the low half of a word** of 64 bits, and reads it as a signed number. -/
theorem narrow_eq_toInt (n : Int) : narrow n = ((BitVec.ofInt 64 n).setWidth 32).toInt := by
  have hword : ((BitVec.ofInt 64 n).toNat : Int) = n % 0x10000000000000000 := by
    rw [BitVec.toNat_ofInt]
    exact Int.toNat_of_nonneg (Int.emod_nonneg n (by decide))
  rw [BitVec.toInt_setWidth, hword]
  show Int.bmod n 0x100000000 = Int.bmod (n % 0x10000000000000000) 0x100000000
  unfold Int.bmod
  dsimp only
  omega

namespace Host

variable {host : Host} {d : Descriptor} {file : OpenFile}

/-- A result that a system may give is negative if and only if it says that the read failed, and is
never greater than what was asked for. -/
theorem MayReturn.bounds {count : Nat} {result : Int} (h : MayReturn count result) :
    (result < 0 ↔ result = World.failure) ∧ result ≤ count := by
  have hfailure : World.failure < 0 := by decide
  rcases h with rfl | ⟨hnonneg, hle⟩
  · refine ⟨⟨fun _ => rfl, fun _ => hfailure⟩, ?_⟩
    exact Int.le_trans (Int.le_of_lt hfailure) (Int.natCast_nonneg count)
  · refine ⟨?_, Int.le_trans hle (Int.ofNat_le.mpr (Nat.min_le_left count maxTransfer))⟩
    constructor
    · intro hneg
      exact absurd hneg (Int.not_lt.mpr hnonneg)
    · rintro rfl
      exact hfailure

/-- **Of the endless zeros a read takes as many as it can get:** as it asks for, and as one read
hands over. -/
theorem read_of_zeros (h : host.table.lookup d = some file)
    (hnode : host.nodes[file.node]? = some .zeroDevice) (count : Nat) :
    host.read d count .memory .full
      = .ok (List.replicate (min count maxTransfer) 0, host) := by
  unfold read ahead consume
  rw [h]
  dsimp only
  rw [hnode]
  dsimp only
  by_cases hcount : count = 0
  · rw [if_pos hcount, hcount, Nat.zero_min]
    rfl
  · -- Zeros lie ahead, as many as are looked at, and all of them are taken.
    have hmost : min count maxTransfer ≠ 0 := by
      unfold maxTransfer
      omega
    have hzeros : List.replicate (min count maxTransfer) (0 : UInt8) ≠ [] := by
      rw [Ne, List.replicate_eq_nil_iff]
      exact hmost
    simp only [hcount, reduceCtorEq, if_false, Pace.limit, List.take_replicate, Nat.min_self,
      hzeros]

end Host

namespace Session

/-! ### Reads by the C interface -/

/-- **What the C interface makes of an answer of the system:** the same as is made of it without
narrowing, if it is an answer that a system may give. -/
theorem read_of_mayReturn {s : Session} {number : Int} {count : Nat} {destination : Destination}
    {pace : Pace} {w : World} {result : Int} {data : Bytes}
    (hread : s.world.read ⟨number⟩ count destination pace = (w, result, data))
    (h : Host.MayReturn count result) :
    CInterface.read s number count destination pace
      = s.finish w (.read ⟨number⟩ count result) ⟨result, data⟩ := by
  rw [CInterface.read, readPointer, hread, map_finish, narrow_of_mayReturn h]

/-- **A read by the C interface loses nothing of its result,** where `call` is the call that it
makes. -/
structure ReadsInFull (s : Session) (d : Descriptor) (count : Nat) (destination : Destination)
    (pace : Pace) (call : SystemCall) : Prop where
  /-- It comes to the same as the read through a pointer, whose result is not narrowed. -/
  outcome : CInterface.read s d.number count destination pace
    = s.readPointer d count destination pace
  calls : s.calls (.read (.c destination) d count pace) = [call]
  /-- The event carries the count that was given, and the result of the system. -/
  event : call.event = .read d count call.result
  entries : (s.step (.read (.c destination) d count pace)).2.entries
    = s.tracing.entries (call.fault.getD s.world.errno) (.read d count call.result)
  /-- The result of the system is what the caller gets, unless the observer panics. -/
  reply : (s.step (.read (.c destination) d count pace)).2.reply
    = s.tracing.shown (readReply (.c destination) count ⟨call.result, call.data⟩)
  negative : call.result < 0 ↔ call.fault ≠ none
  zero : call.result = 0 ↔ call.fault = none ∧ call.data = []
  le_count : call.result ≤ count

/-- Every read by the C interface does so. -/
theorem readsInFull (s : Session) (d : Descriptor) (count : Nat) (destination : Destination)
    (pace : Pace) :
    s.ReadsInFull d count destination pace (s.world.host.reading d count destination pace) := by
  have hnarrow := narrow_reading s.world.host d count destination pace
  obtain ⟨hcalls, -, hreply, -⟩ := s.step_of_call (.read (.c destination) d count pace) rfl rfl
  have hentries : (s.step (.read (.c destination) d count pace)).2.entries = _ :=
    entries_of_ofCall rfl rfl
  have hmay := s.world.host.mayReturn_reading d count destination pace
  -- The read of the host is one that narrowing leaves alone, so each part is that of the form with
  -- a pointer.
  exact {
    outcome := s.readIn_eq_readPointer d count pace (.c destination)
    calls := hcalls
    event := s.world.host.event_reading d count destination pace
    entries := by rw [hentries, Host.event_reading]; rfl
    reply := by rw [hreply, ReadForm.returned_reading]; rfl
    negative := Host.result_reading_neg_iff
    zero := Host.result_reading_eq_zero_iff
    le_count := hmay.bounds.2 }

/-- **The C interface gives the results of reads in full.**

* Narrowing keeps the low half of a word. It leaves a number alone if and only if it is a signed
  number of 32 bits.
* Let the system answer a read as systems may: that it failed, or with a number of bytes, no more
  than was asked for, and no more than a single read hands over. Then the read by the C interface
  ends as the read through a pointer does, with just this result; the event carries it too, and the
  count as it was given. The result is negative if and only if it says that the read failed, and
  never greater than the count.
* The host answers so in every session, whatever is read, into whatever memory, and however many
  bytes are asked for. So the result is negative if and only if the call failed, and zero if and
  only if it succeeded and handed over nothing. -/
theorem reads_by_c_in_full :
    (∀ n : Int, narrow n = ((BitVec.ofInt 64 n).setWidth 32).toInt) ∧
    (∀ n : Int, narrow n = n ↔ -0x80000000 ≤ n ∧ n ≤ 0x7fffffff) ∧
    (∀ (s : Session) (number : Int) (count : Nat) (destination : Destination) (pace : Pace)
      (w : World) (result : Int) (data : Bytes),
      s.world.read ⟨number⟩ count destination pace = (w, result, data) →
      Host.MayReturn count result →
      CInterface.read s number count destination pace
        = s.finish w (.read ⟨number⟩ count result) ⟨result, data⟩ ∧
      s.readPointer ⟨number⟩ count destination pace
        = s.finish w (.read ⟨number⟩ count result) ⟨result, data⟩ ∧
      (result < 0 ↔ result = World.failure) ∧ result ≤ count) ∧
    (∀ (s : Session) (d : Descriptor) (count : Nat) (destination : Destination) (pace : Pace),
      Host.MayReturn count (s.world.host.reading d count destination pace).result ∧
      s.ReadsInFull d count destination pace
        (s.world.host.reading d count destination pace)) := by
  refine ⟨narrow_eq_toInt, ?_, ?_, ?_⟩
  · intro n
    rw [narrow_eq_self_iff]
    omega
  · -- Whatever the system answers, within its documented bounds the form for C passes it on.
    intro s number count destination pace w result data hread hmay
    obtain ⟨hfailure, hcount⟩ := hmay.bounds
    refine ⟨read_of_mayReturn hread hmay, ?_, hfailure, hcount⟩
    rw [readPointer, hread]
  · -- And the answers of the modelled host are within these bounds.
    intro s d count destination pace
    exact ⟨s.world.host.mayReturn_reading d count destination pace,
      s.readsInFull d count destination pace⟩

/-- A session with the endless zeros open. -/
def openOnZeros : Session := ((prepared []).run [.openFile (.bytes (ascii "/dev/zero"))]).1

theorem reads_by_c_in_full_openOnZeros :
    openOnZeros.world.read ⟨0⟩ 0xffffffff .memory .full
      = (openOnZeros.world, 0x7ffff000, List.replicate 0x7ffff000 0) ∧
    Host.MayReturn 0xffffffff 0x7ffff000 ∧
    CInterface.read openOnZeros 0 0xffffffff .memory .full
      = openOnZeros.finish openOnZeros.world (.read ⟨0⟩ 0xffffffff 0x7ffff000)
          ⟨0x7ffff000, List.replicate 0x7ffff000 0⟩ ∧
    narrow 0x80000000 ≠ 0x80000000 := by
  obtain ⟨-, hexact, hread, -⟩ := reads_by_c_in_full
  have hfile : openOnZeros.world.host.table.lookup ⟨0⟩ = some ⟨3, 0⟩ := by decide
  have hnode : openOnZeros.world.host.nodes[3]? = some .zeroDevice := by decide
  have hhost := Host.read_of_zeros hfile hnode 0xffffffff
  -- The most that one read transfers is just within 32 bits.
  have hmost : min 0xffffffff Host.maxTransfer = 0x7ffff000 := by decide
  have hworld : openOnZeros.world.read ⟨0⟩ 0xffffffff .memory .full
      = (openOnZeros.world, 0x7ffff000, List.replicate 0x7ffff000 0) := by
    unfold World.read
    rw [hhost]
    dsimp only
    rw [List.length_replicate, hmost]
    rfl
  have hmay : Host.MayReturn 0xffffffff 0x7ffff000 := .inr (by decide)
  obtain ⟨hresult, -⟩ := hread openOnZeros 0 0xffffffff .memory .full _ _ _ hworld hmay
  refine ⟨hworld, hmay, hresult, ?_⟩
  rw [Ne, hexact]
  decide

end Session

end TracedPipe
