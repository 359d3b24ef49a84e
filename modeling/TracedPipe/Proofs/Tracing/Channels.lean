import TracedPipe.Proofs.Session.Calls

/-!
# The two channels of tracing

An event goes out on two channels: the log may take a record of it, and the observer may be told.
What comes out of one of them is a matter of its own settings and of the calls that were made:

* of the observer's channel, `Entry.told?` leaves out the records and what the observer found in
  errno; the rest is a matter of the observer alone (`Tracing.told?_entriesOf`);
* of the log's channel, `Entry.recordsOf false` has the texts of the records that come of the
  caller's own calls, and they are a matter of the log alone (`Tracing.recordsOf_entriesOf`).

A nesting hook makes a call of its own, and the log takes a record of that as well. Such a record
can be told by what follows it: the hook is told of the call, and then notes what came of it, as
long as it does not panic.
-/

namespace TracedPipe

namespace Entry

/-- The entry, but for what an observer found in errno. What a hook finds after its own call
stays. -/
def blind : Entry → Entry
  | .hook label _ event => .hook label .success event
  | .callback line _ => .callback line .success
  | entry => entry

/-- What an entry shows of the observer's channel, but for what the observer found in errno. -/
def told? : Entry → Option Entry
  | .record _ _ => none
  | entry => some entry.blind

/-- Whether what came of a hook's own call comes first. -/
def startsNested : List Entry → Bool
  | .nested _ _ :: _ => true
  | _ => false

/-- Whether a hook is told of its own call first, and notes then what came of it. -/
def tellsNested : List Entry → Bool
  | .hook _ _ _ :: entries => startsNested entries
  | _ => false

/-- **The texts of the records** that come of the calls of hooks, or else of all other calls. -/
def recordsOf (ofHooks : Bool) : List Entry → List Bytes
  | [] => []
  | .record text _ :: entries =>
    if tellsNested entries = ofHooks then text :: recordsOf ofHooks entries
    else recordsOf ofHooks entries
  | _ :: entries => recordsOf ofHooks entries

theorem recordsOf_hook (ofHooks : Bool) (label : String) (e : Errno) (event : Event)
    (entries : List Entry) :
    recordsOf ofHooks (.hook label e event :: entries) = recordsOf ofHooks entries := rfl

/-- Entries that do not begin in the middle of a hook's own call. -/
structure Fresh (entries : List Entry) : Prop where
  starts : startsNested entries = false
  tells : tellsNested entries = false

theorem Fresh.nil : Fresh [] := ⟨rfl, rfl⟩

end Entry

/-- The texts that a log takes of a text that it is offered. -/
def Log.texts (log : Log) (text : Bytes) : List Bytes :=
  if log.level.takesDebug then [text] else []

/-- What an observer is told of an event, and of the call that it makes itself, but for what it
finds in errno. -/
def Observer.told (event : Event) : Observer → List Entry
  | .callback _ => [.callback event.line .success]
  | .hook h =>
    .hook h.label .success event ::
      if h.nested then
        .hook h.label .success .closedInvalid ::
          match h.panic with
          | none => [.nested World.failure .badDescriptor]
          | some _ => []
      else []

namespace Tracing

variable {t : Tracing} {rest : List Entry}

/-! ### The observer's channel -/

theorem told?_records (t : Tracing) (text : Bytes) :
    (t.records text).filterMap Entry.told? = [] := by
  unfold records
  split <;> rfl

/-- **What is told of an event** is a matter of the observer. -/
theorem told?_entries (t : Tracing) (e : Errno) (event : Event) :
    (t.entries e event).filterMap Entry.told?
      = t.observer.toList.flatMap (Observer.told event) := by
  unfold entries entriesWith
  rw [List.filterMap_append, told?_records, List.nil_append]
  -- There is no observer, or it is a hook, or it is a callback, which is told of the line.
  rcases t.observer with _ | hook | errno
  · rfl
  · have hnested : (t.nestedEntries hook).filterMap Entry.told?
        = .hook hook.label .success .closedInvalid ::
          match hook.panic with
          | none => [.nested World.failure .badDescriptor]
          | some _ => [] := by
      unfold nestedEntries
      rw [List.filterMap_append, told?_records, List.nil_append]
      cases hook.panic <;> rfl
    rw [Option.toList_some, List.flatMap_singleton, Observer.told]
    dsimp only
    -- A nesting hook is told of its own call as well, and what came of it is noted behind that.
    cases hook.nested with
    | true =>
      rw [if_pos rfl, ← hnested]
      rfl
    | false => rfl
  · rfl

theorem told?_entriesOf (t : Tracing) (w : World) (calls : List SystemCall) :
    (t.entriesOf w calls).filterMap Entry.told?
      = calls.flatMap fun call => t.observer.toList.flatMap (Observer.told call.event) := by
  induction calls generalizing w with
  | nil => rfl
  | cons call calls ih =>
    rw [entriesOf, List.filterMap_append, told?_entries, ih, List.flatMap_cons]

/-! ### Entries but for errno -/

/-- What errno was when a call was announced shows only where an observer found it. -/
theorem blind_entries (t : Tracing) (e other : Errno) (event : Event) :
    (t.entries e event).map Entry.blind = (t.entries other event).map Entry.blind := by
  unfold entries entriesWith
  rw [List.map_append, List.map_append]
  rcases t.observer with _ | hook | errno <;> rfl

theorem blind_entriesOf (t : Tracing) (w other : World) (calls : List SystemCall) :
    (t.entriesOf w calls).map Entry.blind = (t.entriesOf other calls).map Entry.blind := by
  induction calls generalizing w other with
  | nil => rfl
  | cons call calls ih =>
    rw [entriesOf, entriesOf, List.map_append, List.map_append,
      t.blind_entries _ (other.after call).errno,
      ih (w.after call) (other.after call)]

/-! ### The log's channel -/

/-- Whether the observer is a nesting hook. -/
def nests (t : Tracing) : Bool :=
  match t.observer with
  | some (.hook hook) => hook.nested
  | _ => false

/-- The texts that the log takes of one event: of the call of a hook, or else of the event
itself. -/
def textsOf (t : Tracing) (ofHooks : Bool) (event : Event) : List Bytes :=
  if ofHooks then
    if t.nests then t.log.texts Event.closedInvalid.line else []
  else t.log.texts event.line

/-- A record is of a hook's call if the entries after it say so. -/
theorem recordsOf_records (t : Tracing) (ofHooks : Bool) (text : Bytes) (rest : List Entry) :
    Entry.recordsOf ofHooks (t.records text ++ rest)
      = (if Entry.tellsNested rest = ofHooks then t.log.texts text else [])
        ++ Entry.recordsOf ofHooks rest := by
  unfold records Log.texts
  cases t.log.level.takesDebug with
  | false => rw [if_neg Bool.false_ne_true, if_neg Bool.false_ne_true, ite_self]; rfl
  | true =>
    rw [if_pos rfl, if_pos rfl, List.singleton_append, Entry.recordsOf]
    split <;> rfl

/-- A row of entries that a record begins is a fresh one, if the others are. -/
theorem fresh_records (t : Tracing) (text : Bytes) (h : Entry.Fresh rest) :
    Entry.Fresh (t.records text ++ rest) := by
  unfold records
  split
  · exact ⟨rfl, rfl⟩
  · exact h

/-- The entries of a hook's own call begin with its record, or with the hook that is told of it. -/
theorem startsNested_nestedEntries (t : Tracing) (hook : Hook) (rest : List Entry) :
    Entry.startsNested (t.nestedEntries hook ++ rest) = false := by
  unfold nestedEntries records
  split <;> rfl

/-- What the observer is told of an event begins outside its own call. -/
theorem fresh_entries (t : Tracing) (e : Errno) (event : Event) (h : Entry.Fresh rest) :
    Entry.Fresh (t.entries e event ++ rest) := by
  unfold entries entriesWith
  rw [List.append_assoc]
  refine t.fresh_records event.line ?_
  rcases t.observer with _ | hook | errno
  · exact h
  · refine ⟨rfl, ?_⟩
    dsimp only
    rw [List.cons_append, Entry.tellsNested]
    cases hook.nested with
    | true => exact t.startsNested_nestedEntries hook rest
    | false => exact h.starts
  · exact ⟨rfl, rfl⟩

theorem fresh_entriesOf (t : Tracing) (w : World) (calls : List SystemCall) :
    Entry.Fresh (t.entriesOf w calls) := by
  induction calls generalizing w with
  | nil => exact .nil
  | cons call calls ih => exact t.fresh_entries _ call.event (ih _)

/-- The records of a hook's own call, where the hook does not panic: one that the entries after it
show to be such. -/
theorem recordsOf_nestedEntries (t : Tracing) {hook : Hook} (hpanic : hook.panic = none)
    (ofHooks : Bool) (rest : List Entry) :
    Entry.recordsOf ofHooks (t.nestedEntries hook ++ rest)
      = (if ofHooks then t.log.texts Event.closedInvalid.line else [])
        ++ Entry.recordsOf ofHooks rest := by
  unfold nestedEntries
  rw [hpanic, List.append_assoc, recordsOf_records]
  cases ofHooks <;> rfl

/-- **The records of an event** that no panic ends are a matter of the log, but for that of a hook's
own call. -/
theorem recordsOf_entries (hpanic : t.panic = none) (ofHooks : Bool) (e : Errno) (event : Event)
    (h : Entry.Fresh rest) :
    Entry.recordsOf ofHooks (t.entries e event ++ rest)
      = t.textsOf ofHooks event ++ Entry.recordsOf ofHooks rest := by
  unfold entries entriesWith textsOf nests
  unfold panic at hpanic
  rw [List.append_assoc, recordsOf_records]
  rcases ho : t.observer with _ | hook | errno
  · -- Nobody is told: the record is followed by the entries of the next call.
    dsimp only
    rw [List.nil_append, h.tells]
    cases ofHooks <;> rfl
  · -- A hook is told: whether the record is its own is for the entry after that to say.
    rw [ho] at hpanic
    dsimp only at hpanic ⊢
    rw [List.cons_append, Entry.tellsNested, Entry.recordsOf_hook]
    by_cases hnested : hook.nested = true
    · rw [if_pos hnested, if_pos hnested, t.startsNested_nestedEntries,
        t.recordsOf_nestedEntries hpanic]
      cases ofHooks <;> rfl
    · rw [if_neg hnested, if_neg hnested, List.nil_append, h.starts]
      cases ofHooks <;> rfl
  · cases ofHooks <;> rfl

/-- **The records of a row of calls,** those of a hook's calls apart from the others. -/
theorem recordsOf_entriesOf (hpanic : t.panic = none) (ofHooks : Bool) (w : World)
    (calls : List SystemCall) :
    Entry.recordsOf ofHooks (t.entriesOf w calls)
      = calls.flatMap fun call => t.textsOf ofHooks call.event := by
  induction calls generalizing w with
  | nil => rfl
  | cons call calls ih =>
    rw [entriesOf, recordsOf_entries hpanic _ _ _ (t.fresh_entriesOf _ calls), ih,
      List.flatMap_cons]

/-- A text that the log takes of a hook's call says that something was closed. -/
theorem eq_of_mem_textsOf {event : Event} {text : Bytes} (h : text ∈ t.textsOf true event) :
    text = Event.closedInvalid.line := by
  unfold textsOf Log.texts at h
  rw [if_pos rfl] at h
  split at h
  · split at h
    · exact List.mem_singleton.mp h
    · exact absurd h List.not_mem_nil
  · exact absurd h List.not_mem_nil

end Tracing

end TracedPipe
