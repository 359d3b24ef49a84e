import TracedPipe.Proofs.Host.SystemCall
import TracedPipe.Proofs.Tracing.Line
import TracedPipe.Session.Basic
import TracedPipe.Tracing.Announce

/-!
# Calls and their entries

What the announcement of an event leaves behind, and what becomes of a call that ends with one.
-/

namespace TracedPipe

/-!
## What an announcement shows

An announcement threads a world through the logger, the observer, and the call that a nesting hook
makes. What comes of it is said here without any world, from the settings of tracing, the event, and
the value that errno had when the announcement began:

* `Tracing.entries` — the entries, in order (`entries_announce`);
* `Tracing.panic` — the panic that ends it, if one does (`panic_announce`);
* and if none does, the world is left as it was (`world_announce`).

An announcement inside the call of a hook comes first (`…_announceInside`), then that call
(`…_nestedClose`), then the announcement itself; there is no third level.
-/

/-- What the call of a nesting hook announces. -/
def Event.closedInvalid : Event := .closed .invalid World.failure

namespace Tracing

variable {t : Tracing}

/-- Whether there is an observer, as the records show it. -/
theorem hasObserver_eq (t : Tracing) : t.hasObserver = t.observer.isSome :=
  t.slot.isOccupied_eq

/-! ### In closed form -/

/-- The message that the observer panics with when it is told of an event, if it does. -/
def panic (t : Tracing) : Option String :=
  match t.observer with
  | some (.hook hook) => hook.panic
  | _ => none

/-- The records of a text: one if the log takes debug records, else none. -/
def records (t : Tracing) (text : Bytes) : List Entry :=
  if t.log.level.takesDebug then [.record text t.hasObserver] else []

/-- The errno that the observer finds, where it was `e` before the log was offered a record. -/
def seen (t : Tracing) (e : Errno) : Errno :=
  if t.log.level.takesDebug then t.log.errno.getD e else e

/-- The entries of the call that a nesting hook makes: a record of the closing, the hook told of it
once more, and what came of the call, unless the hook panicked inside it. -/
def nestedEntries (t : Tracing) (hook : Hook) : List Entry :=
  t.records Event.closedInvalid.line ++
    .hook hook.label (t.seen .badDescriptor) .closedInvalid ::
      match hook.panic with
      | none => [.nested World.failure .badDescriptor]
      | some _ => []

/-- The entries of an event in their order: a record of its line, then what the observer was told,
with the errno it found, then, if that is a nesting hook, the entries `nested` of the call that it
makes. -/
def entriesWith (t : Tracing) (nested : Hook → List Entry) (e : Errno) (event : Event) :
    List Entry :=
  t.records event.line ++
    match t.observer with
    | none => []
    | some (.callback _) => [.callback event.line (t.seen e)]
    | some (.hook hook) =>
      .hook hook.label (t.seen e) event :: if hook.nested then nested hook else []

/-- **The entries that an event causes,** where its system call left `e` in errno. -/
def entries (t : Tracing) (e : Errno) (event : Event) : List Entry :=
  t.entriesWith t.nestedEntries e event

theorem record_eq (t : Tracing) (text : Bytes) (w : World) :
    t.record text w = ({ w with errno := t.seen w.errno }, t.records text) := by
  unfold record seen records
  split <;> rfl

/-! ### Announcements with a given call -/

section With

variable {call : World → Announcement} {nested : Hook → List Entry}

/-- Where the call of a nesting hook panics as the hook does, so does the announcement. -/
theorem panic_announceWith (event : Event) (w : World)
    (hcall : ∀ w, (call w).panic = none ∨ (call w).panic = t.panic) :
    (t.announceWith call event w).panic = t.panic := by
  unfold announceWith tell tellHook panic
  cases ho : t.observer with
  | none => rfl
  | some observer =>
    cases observer with
    | callback errno => rfl
    | hook hook =>
      have hpanic : t.panic = hook.panic := by rw [panic, ho]
      cases hn : hook.nested with
      | false => cases hp : hook.panic <;> simp [hn, hp]
      | true =>
        -- The nested call may panic first; if so, it panics with the same message.
        rcases hcall (t.record event.line w).1 with hc | hc
        · cases hp : hook.panic <;> simp [hn, hp, hc]
        · rw [hpanic] at hc
          cases hp : hook.panic <;> simp [hn, hp, hc]

/-- The entries of an announcement are those in closed form if those of the call are. -/
theorem entries_announceWith (event : Event) (w : World)
    (hcall : ∀ hook w, t.observer = some (.hook hook) → (call w).entries = nested hook) :
    (t.announceWith call event w).entries = t.entriesWith nested w.errno event := by
  unfold announceWith tell tellHook entriesWith
  rw [record_eq]
  cases ho : t.observer with
  | none => rfl
  | some observer =>
    cases observer with
    | callback errno => simp [readLine_terminatedLine]
    | hook hook =>
      cases hn : hook.nested with
      | false => cases hp : hook.panic <;> simp [hn, hp]
      | true =>
        have hentries := hcall hook { w with errno := t.seen w.errno } ho
        -- A panic inside the nested call ends the announcement after the entries of that call.
        cases hp : (call { w with errno := t.seen w.errno }).panic with
        | none => cases hk : hook.panic <;> simp [hn, hp, hk, hentries]
        | some message => simp [hn, hp, hentries]

/-- An announcement that ends as it should leaves the world as it was. -/
theorem world_announceWith (event : Event) (w : World)
    (hcall : ∀ w, (call w).world.host = w.host)
    (h : (t.announceWith call event w).panic = none) :
    (t.announceWith call event w).world = w := by
  have herrno := errno_announceWith t call event w h
  have hhost := host_announceWith (t := t) event w hcall
  calc (t.announceWith call event w).world
      = ⟨(t.announceWith call event w).world.host, (t.announceWith call event w).world.errno⟩ := rfl
    _ = w := by rw [hhost, herrno]

end With

/-! ### Announcements inside the call of a hook -/

theorem panic_announceInside (t : Tracing) (event : Event) (w : World) :
    (t.announceInside event w).panic = t.panic :=
  panic_announceWith event w fun _ => .inl rfl

theorem entries_announceInside (t : Tracing) (event : Event) (w : World) :
    (t.announceInside event w).entries = t.entriesWith (fun _ => []) w.errno event :=
  entries_announceWith event w fun _ _ _ => rfl

theorem world_announceInside (event : Event) (w : World) (h : t.panic = none) :
    (t.announceInside event w).world = w :=
  world_announceWith event w (fun _ => rfl) ((t.panic_announceInside event w).trans h)

/-! ### The call of a nesting hook -/

theorem panic_nestedClose (t : Tracing) (w : World) : (t.nestedClose w).panic = t.panic := by
  have hinside := t.panic_announceInside .closedInvalid { w with errno := .badDescriptor }
  unfold nestedClose
  rw [World.close_invalid]
  dsimp only [Event.closedInvalid] at hinside ⊢
  split <;> exact hinside

theorem entries_nestedClose (t : Tracing) {hook : Hook} (w : World)
    (ho : t.observer = some (.hook hook)) : (t.nestedClose w).entries = t.nestedEntries hook := by
  have hpanic : t.panic = hook.panic := by rw [panic, ho]
  have hinside := t.panic_announceInside .closedInvalid { w with errno := .badDescriptor }
  have hentries := t.entries_announceInside .closedInvalid { w with errno := .badDescriptor }
  rw [entriesWith, ho] at hentries
  unfold nestedClose nestedEntries
  rw [World.close_invalid]
  dsimp only [Event.closedInvalid] at hinside hentries ⊢
  rw [hinside, hpanic]
  -- What came of the call is noted only if the hook did not panic inside it.
  cases hp : hook.panic with
  | some message => simpa using hentries
  | none =>
    have hworld := world_announceInside .closedInvalid { w with errno := .badDescriptor }
      (hpanic.trans hp)
    dsimp only [Event.closedInvalid] at hworld
    simp [hentries, hworld]

/-! ### Announcements -/

/-- **An announcement panics if the observer does,** and as it does. -/
theorem panic_announce (t : Tracing) (event : Event) (w : World) :
    (t.announce event w).panic = t.panic :=
  panic_announceWith event w fun w => .inr (t.panic_nestedClose w)

/-- **The entries of an announcement** depend on no world, but for errno. -/
theorem entries_announce (t : Tracing) (event : Event) (w : World) :
    (t.announce event w).entries = t.entries w.errno event :=
  entries_announceWith event w fun _ w ho => t.entries_nestedClose w ho

/-- **An announcement without a panic changes nothing.** -/
theorem world_announce (event : Event) (w : World) (h : t.panic = none) :
    (t.announce event w).world = w :=
  world_announceWith event w t.host_nestedClose ((t.panic_announce event w).trans h)

end Tracing

/-!
## Calls under tracing

A call of this library makes its system call and announces it. With the announcement in closed form
there are two ways to end (`Session.finish_of_calm`, `Session.finish_of_panic`): the observer does
not panic, and the session is left with the world that the system call left; or it panics, and then
the host is that world's all the same, whatever stands in errno.

`Session.LeadsTo` says of a row of calls what both have in common. It is the relation that loops of
calls and whole steps are shown to keep: the settings of tracing stay, the host is the one that the
last call left, errno takes the codes of the calls that failed unless a panic ended the last call,
and the entries are those of one call after another (`Tracing.entriesOf`).
-/

/-- The entries of a row of system calls, the first of which is made in the world `w`. -/
def Tracing.entriesOf (t : Tracing) (w : World) : List SystemCall → List Entry
  | [] => []
  | call :: calls => t.entries (w.after call).errno call.event ++ t.entriesOf (w.after call) calls

namespace Session

variable {α : Type} {s : Session}

/-- **A call whose observer does not panic** leaves the world of its system call. -/
theorem finish_of_calm (h : s.tracing.panic = none) (w : World) (event : Event) (value : α) :
    s.finish w event value
      = ⟨⟨w, s.tracing⟩, s.tracing.entries w.errno event, .returned value⟩ := by
  have hpanic := (s.tracing.panic_announce event w).trans h
  have hworld := Tracing.world_announce event w h
  have hentries := s.tracing.entries_announce event w
  unfold finish
  dsimp only
  rw [hpanic, hworld, hentries]

/-- **A call whose observer panics** leaves the host of its system call. -/
theorem finish_of_panic {message : String} (h : s.tracing.panic = some message) (w : World)
    (event : Event) (value : α) :
    ∃ e, s.finish w event value
      = ⟨⟨⟨w.host, e⟩, s.tracing⟩, s.tracing.entries w.errno event, .panicked message⟩ := by
  have hpanic := (s.tracing.panic_announce event w).trans h
  have hhost := s.tracing.host_announce event w
  have hentries := s.tracing.entries_announce event w
  refine ⟨(s.tracing.announce event w).world.errno, ?_⟩
  unfold finish
  dsimp only
  rw [hpanic, hentries, ← hhost]

/-! ### Each call announces its system call -/

theorem openPointer_eq (s : Session) (pointer : Option Bytes) :
    let call := s.world.host.opening (pointer.map Pathname.upToTerminator)
    s.openPointer pointer = s.finish (s.world.after call) call.event ⟨call.result⟩ := by
  unfold openPointer
  simp only [World.openFile_eq, Host.event_opening]

theorem readPointer_eq (s : Session) (d : Descriptor) (count : Nat) (destination : Destination)
    (pace : Pace) :
    let call := s.world.host.reading d count destination pace
    s.readPointer d count destination pace
      = s.finish (s.world.after call) call.event ⟨call.result, call.data⟩ := by
  unfold readPointer
  simp only [World.read_eq, Host.event_reading]

theorem close_eq (s : Session) (d : Descriptor) :
    let call := s.world.host.closing d
    s.close d = s.finish (s.world.after call) call.event call.result := by
  unfold close
  simp only [World.close_eq, Host.event_closing]

/-! ### Rows of calls -/

/-- The system calls `calls`, made from `s` one after another, lead to the session `after` and make
`entries`; `panicked` says whether a panic ended the last of them. -/
structure LeadsTo (s : Session) (calls : List SystemCall) (panicked : Bool) (after : Session)
    (entries : List Entry) : Prop where
  tracing : after.tracing = s.tracing
  host : after.world.host = (s.world.afterAll calls).host
  /-- A panic may leave anything in errno. -/
  errno : panicked = false → after.world.errno = (s.world.afterAll calls).errno
  entries : entries = s.tracing.entriesOf s.world calls

namespace LeadsTo

theorem nil (s : Session) (panicked : Bool) : s.LeadsTo [] panicked s [] :=
  ⟨rfl, rfl, fun _ => rfl, rfl⟩

/-- A call in front of others, which start from the world that it leaves. -/
theorem cons {call : SystemCall} {calls : List SystemCall} {panicked : Bool} {after : Session}
    {entries : List Entry}
    (h : LeadsTo ⟨s.world.after call, s.tracing⟩ calls panicked after entries) :
    s.LeadsTo (call :: calls) panicked after
      (s.tracing.entries (s.world.after call).errno call.event ++ entries) where
  tracing := h.tracing
  host := h.host
  errno := h.errno
  entries := congrArg (_ ++ ·) h.entries

/-- A single call that no panic ended. -/
theorem single (s : Session) (call : SystemCall) (panicked : Bool) :
    s.LeadsTo [call] panicked ⟨s.world.after call, s.tracing⟩
      (s.tracing.entries (s.world.after call).errno call.event) := by
  have h := cons (nil ⟨s.world.after call, s.tracing⟩ panicked)
  rwa [List.append_nil] at h

/-- A single call that a panic ended. -/
theorem panicked (s : Session) (call : SystemCall) (e : Errno) :
    s.LeadsTo [call] true ⟨⟨call.host, e⟩, s.tracing⟩
      (s.tracing.entries (s.world.after call).errno call.event) where
  tracing := rfl
  host := rfl
  errno := nofun
  entries := (List.append_nil _).symm

end LeadsTo

/-- How a call ends whose system call gave `value`: the observer may panic. -/
def ending (s : Session) (value : α) : Ending α :=
  match s.tracing.panic with
  | none => .returned value
  | some message => .panicked message

/-- **A call leads from its system call** to the session that it leaves. -/
theorem finish_leadsTo (s : Session) (call : SystemCall) (value : α) :
    s.LeadsTo [call] s.tracing.panic.isSome (s.finish (s.world.after call) call.event value).session
        (s.finish (s.world.after call) call.event value).entries ∧
      (s.finish (s.world.after call) call.event value).ending = s.ending value := by
  unfold ending
  cases hpanic : s.tracing.panic with
  | none =>
    rw [finish_of_calm hpanic]
    exact ⟨.single s call false, rfl⟩
  | some message =>
    obtain ⟨e, he⟩ := finish_of_panic hpanic (s.world.after call) call.event value
    rw [he]
    exact ⟨.panicked s call e, rfl⟩

end Session

end TracedPipe
