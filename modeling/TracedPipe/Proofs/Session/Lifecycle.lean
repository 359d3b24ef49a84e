import TracedPipe.Proofs.Session.Forms
import TracedPipe.Proofs.Session.Trail

/-!
# The life of a descriptor

This library does not know which descriptors are open; the table of the host does. A successful open
takes the lowest free number, a close frees it, and whoever still has the number may meet the next
file that takes it.

Two accounts are kept of a run. The *held* descriptors (`SystemCall.heldAfter`) are those that the
calls of the run opened and have not closed since; they are the open ones (`Session.holds_run`). The
other follows one number: once closed it stays closed until an open takes it again
(`Session.file?_run_of_unopened`), and once taken it stands for one file until a step closes it
(`Session.node_run_of_unclosed`).

None of this depends on the observer, which may panic after the system call is done: a panic is all
that the caller sees then (`Tracing.shown`), but the call stays done.

Main statement: `Session.descriptor_lifecycle`.
-/

namespace TracedPipe

/-- The descriptor that a call opened, if it opened one. -/
def SystemCall.opened? (call : SystemCall) : Option Descriptor :=
  match call.event, call.fault with
  | .opened _ d, none => some d
  | _, _ => none

/-- The descriptors that are held after one more call. -/
def SystemCall.holding (held : List Descriptor) (call : SystemCall) : List Descriptor :=
  match call.event, call.fault with
  | .opened _ d, none => d :: held
  | .closed d _, none => held.erase d
  | _, _ => held

/-- **The descriptors that a row of calls opened and has not closed since,** the latest first. -/
def SystemCall.heldAfter (calls : List SystemCall) : List Descriptor :=
  calls.foldl SystemCall.holding []

namespace Host

variable {host : Host} {held : List Descriptor}

/-! ### The file of a descriptor -/

theorem lookup_lowestFree (host : Host) : host.table.lookup ⟨host.table.lowestFree⟩ = none :=
  host.table.row?_lowestFree

/-- The file of a descriptor after an open: the open takes a number that was free, and every other
descriptor keeps its file. -/
theorem lookup_opening_cases (host : Host) (path : Option Pathname) (d : Descriptor) :
    (host.opening path).host.table.lookup d = host.table.lookup d ∨
    (host.table.lookup d = none ∧ (host.opening path).opened? = some d) := by
  rcases host.opening_cases path with ⟨e, hfail⟩ | ⟨given, id, -, -, hopen⟩
  · rw [hfail]
    exact .inl rfl
  · rw [hopen]
    by_cases hd : d = ⟨host.table.lowestFree⟩
    · rw [hd]
      exact .inr ⟨host.lookup_lowestFree, rfl⟩
    · have hlookup := host.lookup_put_lowestFree ⟨id, 0⟩ d
      rw [if_neg hd] at hlookup
      exact .inl hlookup

/-- The file of a descriptor after a close: only the descriptor that is closed loses it. -/
theorem lookup_closing_cases (host : Host) (other d : Descriptor) :
    (host.closing other).host.table.lookup d = host.table.lookup d ∨
    (d = other ∧ (host.closing other).host.table.lookup d = none) := by
  cases hfile : host.table.lookup other with
  -- What is not open is not closed, so the table stays.
  | none =>
    rw [closing_eq, hfile]
    exact .inl rfl
  | some file =>
    rw [lookup_closing hfile]
    by_cases hd : d = other
    · exact .inr ⟨hd, if_pos hd⟩
    · exact .inl (if_neg hd)

/-! ### Held descriptors -/

/-- The held descriptors are the open ones, each held once. -/
structure Holds (host : Host) (held : List Descriptor) : Prop where
  nodup : held.Nodup
  mem_iff : ∀ d, d ∈ held ↔ (host.table.lookup d).isSome

/-- No descriptor is held where none is open. -/
theorem Holds.nil (h : host.table = []) : host.Holds [] where
  nodup := List.nodup_nil
  mem_iff d := by
    obtain ⟨n | n⟩ := d <;> simp [h, Table.lookup]

theorem Holds.opening (h : host.Holds held) (path : Option Pathname) :
    (host.opening path).host.Holds ((host.opening path).holding held) := by
  rcases host.opening_cases path with ⟨e, hfail⟩ | ⟨given, id, -, -, hopen⟩
  · -- An open that fails changes nothing and opens nothing.
    rw [hfail]
    exact h
  · rw [hopen]
    -- The number that is taken was free, so it is not held yet.
    have hnew : ⟨host.table.lowestFree⟩ ∉ held := by
      rw [h.mem_iff, lookup_lowestFree]
      exact Bool.false_ne_true
    refine ⟨List.nodup_cons.mpr ⟨hnew, h.nodup⟩, fun d => ?_⟩
    have hlookup := host.lookup_put_lowestFree ⟨id, 0⟩ d
    rw [SystemCall.holding, List.mem_cons, h.mem_iff]
    dsimp only
    rw [hlookup]
    by_cases hd : d = ⟨host.table.lowestFree⟩
    · simp [hd]
    · simp [hd]

theorem Holds.closing (h : host.Holds held) (d : Descriptor) :
    (host.closing d).host.Holds ((host.closing d).holding held) := by
  cases hd : host.table.lookup d with
  | none =>
    rw [closing_eq, hd]
    exact h
  | some file =>
    have hheld : (host.closing d).holding held = held.erase d := by
      rw [closing_eq, hd]
      rfl
    refine ⟨hheld ▸ h.nodup.erase d, fun other => ?_⟩
    rw [hheld, lookup_closing hd, h.nodup.mem_erase_iff, h.mem_iff]
    by_cases hother : other = d
    · simp [hother]
    · simp [hother]

/-- Reads leave the held descriptors alone. -/
theorem Reads.foldl_holding {d : Descriptor} {paces : List Pace} {calls : List SystemCall}
    (h : host.Reads d paces calls) (held : List Descriptor) :
    calls.foldl SystemCall.holding held = held := by
  induction h with
  | nil host => rfl
  | @cons host count destination pace calls _ others ih =>
    have hevent := host.event_reading d count destination pace
    rw [List.foldl_cons, SystemCall.holding, hevent]
    exact ih

theorem Holds.reads {d : Descriptor} {paces : List Pace} {calls : List SystemCall}
    (h : host.Holds held) (hreads : host.Reads d paces calls) :
    (host.afterAll calls).Holds (calls.foldl SystemCall.holding held) := by
  rw [hreads.foldl_holding]
  refine ⟨h.nodup, fun other => ?_⟩
  rw [h.mem_iff, ← Option.isSome_map (f := OpenFile.node), ← hreads.node_lookup other,
    Option.isSome_map]

end Host

namespace Session

variable {s : Session} {d : Descriptor}

/-- The file that a descriptor is open on, if it is open. -/
def file? (s : Session) (d : Descriptor) : Option OpenFile := s.world.host.table.lookup d

/-- One step keeps account of the held descriptors. -/
theorem holds_step {held : List Descriptor} (h : s.world.host.Holds held) (step : Step) :
    (s.step step).1.world.host.Holds ((s.calls step).foldl SystemCall.holding held) := by
  induction step using s.by_calls with
  | opening step path hcalls hhost =>
    rw [hcalls, hhost]
    exact h.opening path
  | reading step d _ hreads hhost =>
    rw [hhost]
    exact h.reads hreads
  | closing step d _ hcalls hhost =>
    rw [hcalls, hhost]
    exact h.closing d
  | change c =>
    -- A change from outside does not touch the table of open files.
    refine ⟨h.nodup, fun d => ?_⟩
    show d ∈ held ↔ ((s.world.host.apply c).table.lookup d).isSome
    rw [Host.table_apply]
    exact h.mem_iff d
  | quiet step hcalls hhost =>
    rw [hcalls, hhost]
    exact h

/-- A whole run keeps account of the held descriptors. -/
theorem holds_run {held : List Descriptor} (h : s.world.host.Holds held) (steps : List Step) :
    (s.run steps).1.world.host.Holds ((s.trail steps).foldl SystemCall.holding held) := by
  induction steps generalizing s held with
  | nil => exact h
  | cons step steps ih =>
    rw [trail, List.foldl_append]
    exact ih (holds_step h step)

/-- A session begins with nothing open. -/
theorem table_prepared (changes : List Change) : (prepared changes).world.host.table = [] := by
  show (changes.foldl Host.apply Host.fresh).table = []
  have hfold (host : Host) : (changes.foldl Host.apply host).table = host.table := by
    induction changes generalizing host with
    | nil => rfl
    | cons c changes ih => rw [List.foldl_cons, ih, Host.table_apply]
  exact hfold Host.fresh

/-! ### Steps of one call -/

/-- A step that fails with an error: so do its calls, and the host stays as it is. -/
structure Fails (s : Session) (step : Step) (reply : Reply) (e : Errno) : Prop where
  result : (s.calls step).map SystemCall.result = [World.failure]
  fault : (s.calls step).map SystemCall.fault = [some e]
  reply : (s.step step).2.reply = s.tracing.shown reply
  errno : s.tracing.panic = none → (s.step step).2.errno = e
  host : (s.step step).1.world.host = s.world.host

/-- A step that opens a node with the lowest free descriptor, and leaves all others as they are. -/
structure Opens (s : Session) (step : Step) (d : Descriptor) (id : NodeId) : Prop where
  call : (s.calls step).map SystemCall.opened? = [some d]
  reply : (s.step step).2.reply = s.tracing.shown (.opened d)
  nonneg : 0 ≤ d.number
  free : s.file? d = none
  lowest : ∀ n : Nat, (n : Int) < d.number → (s.file? ⟨n⟩).isSome
  files : ∀ other, (s.step step).1.file? other = if other = d then some ⟨id, 0⟩ else s.file? other

/-- A step that closes a descriptor, and leaves all others as they are. -/
structure Closes (s : Session) (step : Step) (d : Descriptor) : Prop where
  reply : (s.step step).2.reply = s.tracing.shown (.closed 0)
  files : ∀ other, (s.step step).1.file? other = if other = d then none else s.file? other
  nodes : ∀ id, (s.file? d).map OpenFile.node ≠ some id →
    (s.step step).1.world.host.nodes[id]? = s.world.host.nodes[id]?

/-- A step that reads a descriptor, which stays open on the same node, and leaves all others as they
are. -/
structure Reads (s : Session) (step : Step) (d : Descriptor) : Prop where
  files : ∀ other, other ≠ d → (s.step step).1.file? other = s.file? other
  node : ((s.step step).1.file? d).map OpenFile.node = (s.file? d).map OpenFile.node
  nodes : ∀ id, (s.file? d).map OpenFile.node ≠ some id →
    (s.step step).1.world.host.nodes[id]? = s.world.host.nodes[id]?

/-- A read that takes some bytes off the front of what an open file has ahead: they are what it
writes, and the file moves on by as many. One that fails takes none. -/
def Takes (s : Session) (form : ReadForm) (d : Descriptor) (file : OpenFile) (count : Nat)
    (pace : Pace) : Prop :=
  ∃ (result : Int) (data : Bytes),
    (s.step (.read form d count pace)).2.reply
      = s.tracing.shown (readReply form count ⟨result, data⟩) ∧
    (result = data.length ∨ result = World.failure ∧ data = []) ∧
    data <+: (s.world.host.ahead file count).getD [] ∧
    (s.step (.read form d count pace)).1.world.host = s.world.host.consume d file data.length

/-- A step of one call that fails is a failing step. -/
theorem fails_of_call {step : Step} {event : Event} {reply : Reply} {e : Errno}
    (hdeed : step.deed? s.tracing.panic s.world.host = some (.ofCall s.tracing.panic
      ⟨event, World.failure, [], some e, s.world.host⟩ reply))
    (hreply : reply.isPanic = false) : s.Fails step reply e := by
  obtain ⟨hcalls, hhost, hshown, herrno⟩ := step_of_call _ hdeed hreply
  exact ⟨by rw [hcalls]; rfl, by rw [hcalls]; rfl, hshown, herrno, hhost⟩

/-- An open whose system call succeeds. -/
theorem opens_of_opening {form : OpenForm} {path : Option Pathname} {id : NodeId}
    (hform : form.path = .ok path)
    (hopen : s.world.host.opening path = ⟨.opened path ⟨s.world.host.table.lowestFree⟩,
      s.world.host.table.lowestFree, [], none, { s.world.host with
        table := s.world.host.table.put s.world.host.table.lowestFree ⟨id, 0⟩ }⟩) :
    s.Opens (.openFile form) ⟨s.world.host.table.lowestFree⟩ id := by
  have hdeed := Step.deed_of_path hform s.tracing.panic s.world.host
  rw [hopen] at hdeed
  obtain ⟨hcalls, hhost, hshown, -⟩ := step_of_call _ hdeed rfl
  -- The number is the lowest that was free; the table has one row more and is the same elsewhere.
  exact {
    call := by rw [hcalls]; rfl
    reply := hshown
    nonneg := Int.natCast_nonneg _
    free := s.world.host.lookup_lowestFree
    lowest := fun n hn => Table.isSome_row?_of_lt_lowestFree (Int.ofNat_lt.mp hn)
    files := fun other => by
      rw [file?, hhost]
      exact s.world.host.lookup_put_lowestFree ⟨id, 0⟩ other }

/-- **An open takes the lowest free descriptor, or it fails** and gives the invalid one. -/
theorem openFile_rule (s : Session) {form : OpenForm} {path : Option Pathname}
    (hform : form.path = .ok path) :
    (∃ e, s.Fails (.openFile form) (.opened .invalid) e) ∨
    ∃ given d id, path = some given ∧
      Path.resolve s.world.host.nodes s.world.host.scratch given.bytes = .ok id ∧
      s.Opens (.openFile form) d id := by
  rcases s.world.host.opening_cases path with ⟨e, hfail⟩ | ⟨given, id, hgiven, hpath, hopen⟩
  · have hdeed := Step.deed_of_path hform s.tracing.panic s.world.host
    rw [hfail] at hdeed
    exact .inl ⟨e, fails_of_call hdeed rfl⟩
  · exact .inr ⟨given, _, id, hgiven, hpath, opens_of_opening hform hopen⟩

/-- **A close succeeds if and only if the descriptor is open.** -/
theorem close_rule (s : Session) {step : Step} (hstep : step.closes? = some d) :
    (s.file? d = none ∧ s.Fails step (.closed World.failure) .badDescriptor) ∨
    ((s.file? d).isSome ∧ s.Closes step d) := by
  have hdeed := Step.deed_of_closes hstep s.tracing.panic s.world.host
  cases hfile : s.world.host.table.lookup d with
  | none =>
    rw [Host.closing_eq, hfile] at hdeed
    exact .inl ⟨hfile, fails_of_call hdeed rfl⟩
  | some file =>
    obtain ⟨-, hhost, hshown, -⟩ := step_of_call _ hdeed rfl
    have hresult : (s.world.host.closing d).result = 0 := by rw [Host.closing_eq, hfile]
    have hreleased : (s.world.host.closing d).host
        = { s.world.host with table := s.world.host.table.clear d }.release file.node := by
      rw [Host.closing_eq, hfile]
    -- The row is gone and the others stay; of the nodes, only the one that it referred to may go
    -- with its last reader.
    refine .inr ⟨by rw [file?, hfile]; rfl, by rw [hshown, hresult], fun other => ?_,
      fun id hid => ?_⟩
    · rw [file?, hhost]
      exact Host.lookup_closing hfile other
    · rw [file?, hfile] at hid
      rw [hhost, hreleased]
      exact Host.nodes_release_of_ne _ fun heq => hid (congrArg some heq.symm)

/-! ### Descriptors that are not open -/

/-- **A descriptor that is not open cannot be read,** in any form, whatever the count or the
buffer. -/
theorem read_rule_of_not_open (h : s.file? d = none) (form : ReadForm) (count : Nat)
    (pace : Pace) :
    s.Fails (.read form d count pace) (readReply form count ⟨World.failure, []⟩)
      .badDescriptor := by
  have hdeed : (Step.read form d count pace).deed? s.tracing.panic s.world.host
      = some (.ofCall s.tracing.panic
        ⟨.read d count World.failure, World.failure, [], some .badDescriptor, s.world.host⟩
        (readReply form count ⟨World.failure, []⟩)) := by
    -- In the interface for C the result is narrowed, and a failure stays one.
    have hresult : form.returned World.failure = World.failure := by
      cases form with
      | buffer => rfl
      | pointer destination => rfl
      | c destination =>
        show narrow World.failure = World.failure
        decide
    rw [Step.deed?, Host.reading_of_not_open h, hresult]
  exact fails_of_call hdeed rfl

/-- Nor can a stream be read from it. -/
theorem once_rule_of_not_open (h : s.file? d = none) (size : Nat) (paces : List Pace) :
    s.Fails (.stream (.once size) d paces)
      (.stream (.error (.system .badDescriptor)) (Buffer.ofSize size)) .badDescriptor := by
  have hdeed : (Step.stream (.once size) d paces).deed? s.tracing.panic s.world.host
      = some (.ofCall s.tracing.panic
        ⟨.read d size World.failure, World.failure, [], some .badDescriptor, s.world.host⟩
        (.stream (.error (.system .badDescriptor)) (Buffer.ofSize size))) := by
    rw [Step.deed?, Reading.passage, Host.reading_of_not_open h]
    unfold Passage.single Deed.ofCall
    cases s.tracing.panic <;> rfl
  exact fails_of_call hdeed rfl

/-- A reading of a descriptor that is not open makes calls that fail, if any. -/
theorem stream_rule_of_not_open (h : s.file? d = none) (way : Reading) (paces : List Pace) :
    (s.step (.stream way d paces)).1.world.host = s.world.host ∧
      ∀ call ∈ s.calls (.stream way d paces),
        call.result = World.failure ∧ call.fault = some .badDescriptor := by
  obtain ⟨hreads, hhost⟩ := s.calls_of_reads (.stream way d paces) rfl
  rw [hhost]
  exact hreads.of_not_open h

/-! ### Descriptors that are open -/

/-- **A read takes bytes of the file that its descriptor is open on.** -/
theorem read_rule_of_open {file : OpenFile} (h : s.file? d = some file) (form : ReadForm)
    (count : Nat) (pace : Pace) : s.Takes form d file count pace := by
  obtain ⟨-, hhost, hshown, -⟩ := step_of_call (.read form d count pace) rfl rfl
  have hresult := s.world.host.result_reading d count form.destination pace
  obtain ⟨hahead, hafter⟩ := Host.reading_of_open h count form.destination pace
  rw [form.returned_reading] at hshown
  refine ⟨_, _, hshown, ?_, hahead, hhost.trans hafter⟩
  cases hfault : (s.world.host.reading d count form.destination pace).fault with
  | none =>
    rw [hfault] at hresult
    exact .inl hresult
  | some e =>
    rw [hfault] at hresult
    exact .inr ⟨hresult, s.world.host.data_reading_of_fault d count form.destination pace hfault⟩

/-- **A step that reads a descriptor has to do with no other.** -/
theorem reads_rule (s : Session) {step : Step} (hstep : step.reads? = some d) : s.Reads step d := by
  obtain ⟨hreads, hhost⟩ := s.calls_of_reads step hstep
  refine ⟨fun other hother => ?_, ?_, fun id hid => ?_⟩
  · rw [file?, hhost]
    exact hreads.lookup_of_ne hother
  · rw [file?, hhost]
    exact hreads.node_lookup d
  · rw [hhost]
    exact hreads.nodes_of_ne hid

/-! ### One number along a run -/

/-- **What a step can do to the file of a descriptor:** it leaves the file as it is; or the
descriptor was free and a call opens it; or the step closes it; or it reads it, which leaves it open
on the same node. -/
theorem file?_step_cases (s : Session) (step : Step) (d : Descriptor) :
    (s.step step).1.file? d = s.file? d ∨
    (s.file? d = none ∧ ∃ call ∈ s.calls step, call.opened? = some d) ∨
    (step.closes? = some d ∧ (s.step step).1.file? d = none) ∨
    (step.reads? = some d ∧
      ((s.step step).1.file? d).map OpenFile.node = (s.file? d).map OpenFile.node) := by
  unfold file?
  -- The four cases are those of the host's calls: most leave the descriptor alone, an open takes a
  -- free one, a close frees the one it is given, and a read moves its position.
  induction step using s.by_calls with
  | opening step path hcalls hhost =>
    rw [hhost, hcalls]
    rcases s.world.host.lookup_opening_cases path d with hsame | ⟨hfree, hopened⟩
    · exact .inl hsame
    · exact .inr (.inl ⟨hfree, _, List.mem_singleton_self _, hopened⟩)
  | reading step other hreads hcalls hhost =>
    rw [hhost]
    by_cases hd : d = other
    · -- A read moves the position, and the descriptor stays with its node.
      exact .inr (.inr (.inr ⟨hd ▸ hreads, hcalls.node_lookup d⟩))
    · exact .inl (hcalls.lookup_of_ne hd)
  | closing step other hcloses _ hhost =>
    rw [hhost]
    rcases s.world.host.lookup_closing_cases other d with hsame | ⟨rfl, hclosed⟩
    · exact .inl hsame
    · exact .inr (.inr (.inl ⟨hcloses, hclosed⟩))
  | change c =>
    have htable : (s.step (.change c)).1.world.host.table = s.world.host.table :=
      s.world.host.table_apply c
    rw [htable]
    exact .inl rfl
  | quiet step _ hhost =>
    rw [hhost]
    exact .inl rfl

/-- **A descriptor that is not open stays so** until a call opens it. -/
theorem file?_run_of_unopened (h : s.file? d = none) (steps : List Step)
    (hcalls : ∀ call ∈ s.trail steps, call.opened? ≠ some d) : (s.run steps).1.file? d = none := by
  induction steps generalizing s with
  | nil => exact h
  | cons step steps ih =>
    rw [trail, List.forall_mem_append] at hcalls
    have hnext : (s.step step).1.file? d = none := by
      rcases s.file?_step_cases step d with
        hsame | ⟨-, call, hmem, hopened⟩ | ⟨-, hclosed⟩ | ⟨-, hnode⟩
      · rw [hsame, h]
      · exact absurd hopened (hcalls.1 call hmem)
      · exact hclosed
      · rw [h] at hnode
        exact Option.map_eq_none_iff.mp hnode
    exact ih hnext hcalls.2

/-- **An open descriptor stays open on its node** until a step closes it. -/
theorem node_run_of_unclosed {id : NodeId} (h : (s.file? d).map OpenFile.node = some id)
    (steps : List Step) (hsteps : ∀ step ∈ steps, step.closes? ≠ some d) :
    ((s.run steps).1.file? d).map OpenFile.node = some id := by
  induction steps generalizing s with
  | nil => exact h
  | cons step steps ih =>
    rw [List.forall_mem_cons] at hsteps
    have hnext : ((s.step step).1.file? d).map OpenFile.node = some id := by
      rcases s.file?_step_cases step d with hsame | ⟨hfree, -⟩ | ⟨hcloses, -⟩ | ⟨-, hnode⟩
      · rw [hsame, h]
      · rw [hfree] at h
        cases h
      · exact absurd hcloses hsteps.1
      · rw [hnode, h]
    exact ih hnext hsteps.2

/-- **A second close fails** if no call in between opened the number again. -/
theorem second_close {first second : Step} {later : List Step} (hfirst : first.closes? = some d)
    (hsecond : second.closes? = some d)
    (hcalls : ∀ call ∈ (s.step first).1.trail later, call.opened? ≠ some d) :
    ((s.step first).1.run later).1.Fails second (.closed World.failure) .badDescriptor := by
  -- The first close leaves the descriptor closed, whether it succeeds or not.
  have hclosed : (s.step first).1.file? d = none := by
    rcases s.close_rule hfirst with ⟨hfree, hfails⟩ | ⟨-, hcloses⟩
    · rw [file?, hfails.host]
      exact hfree
    · rw [hcloses.files, if_pos rfl]
  have hfree := file?_run_of_unopened hclosed later hcalls
  rcases ((s.step first).1.run later).1.close_rule hsecond with ⟨-, hfails⟩ | ⟨hopen, -⟩
  · exact hfails
  · rw [hfree] at hopen
    cases hopen

/-- **A number is the file that took it last,** until a step closes it: who holds the number reads
and closes that file, and no other. -/
theorem file_of_opens {opener : Step} {id : NodeId} {later : List Step}
    (hopens : s.Opens opener d id) (hlater : ∀ step ∈ later, step.closes? ≠ some d) :
    let t := ((s.step opener).1.run later).1
    ∃ position, t.file? d = some ⟨id, position⟩ ∧
      (∀ form count pace, t.Takes form d ⟨id, position⟩ count pace) ∧
      (∀ step, step.reads? = some d → t.Reads step d) ∧
      ∀ step, step.closes? = some d → t.Closes step d := by
  intro t
  have hfirst : ((s.step opener).1.file? d).map OpenFile.node = some id := by
    rw [hopens.files, if_pos rfl]
    rfl
  -- No step of the run closes the descriptor, so it stays with the node that was opened, and only
  -- its position may have moved.
  have hnode : (t.file? d).map OpenFile.node = some id := node_run_of_unclosed hfirst later hlater
  obtain ⟨⟨node, position⟩, hfile, rfl⟩ := Option.map_eq_some_iff.mp hnode
  refine ⟨position, hfile, ?_, fun step => t.reads_rule, ?_⟩
  · intro form count pace
    exact read_rule_of_open hfile form count pace
  · intro step hstep
    -- A close finds it open, so the case that it is not does not occur.
    rcases t.close_rule hstep with ⟨hfree, -⟩ | ⟨-, hcloses⟩
    · rw [hfree] at hfile
      cases hfile
    · exact hcloses

/-! ### At any point of a session -/

/-- **The life of a descriptor,** at every point of every session, whether observers panic or not:

* the held descriptors are the open ones, each held once;
* an open takes the lowest free number for the file that its path leads to, or it fails, gives the
  invalid descriptor and opens nothing;
* a close succeeds if and only if its descriptor is open, and closes it and no other;
* a read of a descriptor that is not open fails with EBADF, in any form, whatever it asks for, and
  so does each read that a reading makes;
* a second close fails with EBADF too, if no open in between took the number;
* a number that an open took stands for the new file until a step closes it: whoever has the number,
  also from before, reads that file on from where it is and closes it, and leaves all other files as
  they are. -/
theorem descriptor_lifecycle (changes : List Change) (steps : List Step) :
    let s := ((prepared changes).run steps).1
    let held := SystemCall.heldAfter ((prepared changes).trail steps)
    (held.Nodup ∧ ∀ d, d ∈ held ↔ (s.file? d).isSome) ∧
    (∀ (form : OpenForm) (path : Option Pathname), form.path = .ok path →
      (∃ e, s.Fails (.openFile form) (.opened .invalid) e) ∨
      ∃ given d id, path = some given ∧
        Path.resolve s.world.host.nodes s.world.host.scratch given.bytes = .ok id ∧
        s.Opens (.openFile form) d id) ∧
    (∀ (step : Step) (d : Descriptor), step.closes? = some d →
      (s.file? d = none ∧ s.Fails step (.closed World.failure) .badDescriptor) ∨
      ((s.file? d).isSome ∧ s.Closes step d)) ∧
    (∀ d : Descriptor, s.file? d = none →
      (∀ (form : ReadForm) (count : Nat) (pace : Pace), s.Fails (.read form d count pace)
        (readReply form count ⟨World.failure, []⟩) .badDescriptor) ∧
      (∀ (size : Nat) (paces : List Pace), s.Fails (.stream (.once size) d paces)
        (.stream (.error (.system .badDescriptor)) (Buffer.ofSize size)) .badDescriptor) ∧
      ∀ (way : Reading) (paces : List Pace),
        (s.step (.stream way d paces)).1.world.host = s.world.host ∧
        ∀ call ∈ s.calls (.stream way d paces),
          call.result = World.failure ∧ call.fault = some .badDescriptor) ∧
    (∀ (first second : Step) (later : List Step) (d : Descriptor),
      first.closes? = some d → second.closes? = some d →
      (∀ call ∈ (s.step first).1.trail later, call.opened? ≠ some d) →
      ((s.step first).1.run later).1.Fails second (.closed World.failure) .badDescriptor) ∧
    ∀ (opener : Step) (later : List Step) (d : Descriptor) (id : NodeId), s.Opens opener d id →
      (∀ step ∈ later, step.closes? ≠ some d) →
      let t := ((s.step opener).1.run later).1
      ∃ position, t.file? d = some ⟨id, position⟩ ∧
        (∀ form count pace, t.Takes form d ⟨id, position⟩ count pace) ∧
        (∀ step, step.reads? = some d → t.Reads step d) ∧
        ∀ step, step.closes? = some d → t.Closes step d := by
  intro s held
  -- The numbers that are held are followed from the start, when none is open, through all the calls
  -- of the run.
  have hholds : s.world.host.Holds held := holds_run (.nil (table_prepared changes)) steps
  refine ⟨⟨hholds.nodup, hholds.mem_iff⟩, ?_, ?_, ?_, ?_, ?_⟩
  · -- This rule and the next two hold of any session, whatever led to it.
    intro form path hform
    exact s.openFile_rule hform
  · intro step d hstep
    exact s.close_rule hstep
  · intro d hfree
    exact ⟨read_rule_of_not_open hfree, once_rule_of_not_open hfree,
      stream_rule_of_not_open hfree⟩
  · -- The last two look ahead from the session, over the steps that follow.
    intro first second later d hfirst hsecond hcalls
    exact second_close hfirst hsecond hcalls
  · intro opener later d id hopens hlater
    exact file_of_opens hopens hlater

/-- Two files. -/
def twoFiles : List Change :=
  [.file (ascii "one") (ascii "first"), .file (ascii "two") (ascii "second")]

/-- Steps that open two files and close the first, under a nesting hook that panics and is removed
in the end. -/
def aliasingSteps : List Step :=
  [.setHook (some ⟨"hook", some ⟨72⟩, true, some "told", none⟩),
    .openFile (.bytes (ascii "one")),
    .openFile (.pointer (some (ascii "two" ++ [nul]))),
    .close ⟨0⟩,
    .setHook none]

/-- The session that these steps lead to. -/
def aliased : Session := ((prepared twoFiles).run aliasingSteps).1

theorem descriptor_lifecycle_aliased :
    (⟨1⟩ : Descriptor) ∈ SystemCall.heldAfter ((prepared twoFiles).trail aliasingSteps) ∧
    (aliased.file? ⟨0⟩ = none ∧
      aliased.Fails (.close ⟨0⟩) (.closed World.failure) .badDescriptor ∧
      aliased.Fails (.read (.c .null) ⟨0⟩ 0 .interrupted)
        (readReply (.c .null) 0 ⟨World.failure, []⟩) .badDescriptor) ∧
    ((aliased.step (.close ⟨1⟩)).1.run [.openFile (.bytes (ascii "one"))]).1.Fails (.closeByC ⟨1⟩)
      (.closed World.failure) .badDescriptor ∧
    ∃ id, aliased.Opens (.openFile (.bytes (ascii "two"))) ⟨0⟩ id ∧
      ∃ position, ((aliased.step (.openFile (.bytes (ascii "two")))).1.run
        [.read .buffer ⟨0⟩ 2 .full, .close ⟨1⟩]).1.file? ⟨0⟩ = some ⟨id, position⟩ := by
  obtain ⟨⟨-, hheld⟩, hopen, hclose, hread, hsecond, hnumber⟩ :=
    descriptor_lifecycle twoFiles aliasingSteps
  have hfree : aliased.file? ⟨0⟩ = none := by decide
  have hstale : aliased.Fails (.close ⟨0⟩) (.closed World.failure) .badDescriptor := by
    -- The descriptor is stale, so of the two ways to close only the failing one is left.
    rcases hclose (.close ⟨0⟩) ⟨0⟩ rfl with ⟨-, hfails⟩ | ⟨hopen, -⟩
    · exact hfails
    · have hnone : ¬(aliased.file? ⟨0⟩).isSome := by decide
      exact absurd hopen hnone
  have htwice := hsecond (.close ⟨1⟩) (.closeByC ⟨1⟩) [.openFile (.bytes (ascii "one"))] ⟨1⟩ rfl rfl
    (by decide)
  have hagain : ∃ id, aliased.Opens (.openFile (.bytes (ascii "two"))) ⟨0⟩ id := by
    have hform : (OpenForm.bytes (ascii "two")).path
        = .ok (some (Pathname.upToTerminator (ascii "two"))) := by rfl
    -- The call answers with 0, so it did not fail, and the number that it took is 0 again.
    rcases hopen _ _ hform with ⟨e, hfails⟩ | ⟨given, d, id, -, -, hopens⟩
    · have hresult : (aliased.calls (.openFile (.bytes (ascii "two")))).map SystemCall.result
          = [0] := by decide
      exact absurd (hresult.symm.trans hfails.result) (by decide)
    · have hcall : (aliased.calls (.openFile (.bytes (ascii "two")))).map SystemCall.opened?
          = [some ⟨0⟩] := by decide
      obtain rfl : ⟨0⟩ = d := by simpa using hcall.symm.trans hopens.call
      exact ⟨id, hopens⟩
  obtain ⟨id, hopens⟩ := hagain
  obtain ⟨position, hfile, -⟩ := hnumber (.openFile (.bytes (ascii "two")))
    [.read .buffer ⟨0⟩ 2 .full, .close ⟨1⟩] ⟨0⟩ id hopens (by decide)
  exact ⟨(hheld ⟨1⟩).mpr (by decide),
    ⟨hfree, hstale, (hread ⟨0⟩ hfree).1 (.c .null) 0 .interrupted⟩,
    htwice, id, hopens, position, hfile⟩

end Session

end TracedPipe
