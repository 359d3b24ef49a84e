import TracedPipe.Event
import TracedPipe.Proofs.Text.Units

/-!
# The debug form tells events apart

A debug form is a row of fixed words with the fields of the event between them. The fields are texts
of any length, and a path in quotes may hold whatever the other fields are written with. So each
field has to say by itself where it ends (`Quoted.encode_append_inj`, `Decimal.ofInt_append_inj`,
`Descriptor.debug_append_inj`, `Event.pathDebug_append_inj`): then the fields can be read off one
after another, and equal forms have equal fields.

Main statement: `Event.debug_identifies`.
-/

namespace TracedPipe

/-! ### Fields of a debug form -/

/-- The debug form of a descriptor can be told from what follows it. -/
theorem Descriptor.debug_append_inj {d other : Descriptor} {rest behind : Bytes}
    (h : d.debug ++ rest = other.debug ++ behind) : d = other ∧ rest = behind := by
  unfold debug at h
  simp only [List.append_assoc] at h
  obtain ⟨heq, hbehind⟩ := Decimal.ofInt_append_inj (by decide) (List.append_cancel_left h)
  refine ⟨?_, hbehind⟩
  cases d
  cases other
  exact congrArg Descriptor.mk heq

namespace Event

/-- The debug form of a path, or of none, can be told from what follows it. -/
theorem pathDebug_append_inj {path other : Option Pathname} {rest behind : Bytes}
    (h : pathDebug path ++ rest = pathDebug other ++ behind) : path = other ∧ rest = behind := by
  cases path with
  | none =>
    cases other with
    | none => exact ⟨rfl, List.append_cancel_left h⟩
    -- The null path is written without quotes around it, so it begins with another letter.
    | some other =>
      have hhead : some (78 : UInt8) = some 83 := congrArg List.head? h
      cases hhead
  | some path =>
    cases other with
    | none =>
      have hhead : some (83 : UInt8) = some 78 := congrArg List.head? h
      cases hhead
    | some other =>
      simp only [pathDebug, List.append_assoc] at h
      -- The quoted form ends where its closing quote is, so nothing of what follows belongs to it.
      obtain ⟨hbytes, hbehind⟩ := Quoted.encode_append_inj (List.append_cancel_left h)
      exact ⟨congrArg some (Pathname.ext hbytes), List.append_cancel_left hbehind⟩

/-- The letter that a debug form begins with. -/
def initial : Event → UInt8
  | .opened _ _ => 79
  | .read _ _ _ => 82
  | .closed _ _ => 67

theorem head?_debug (event : Event) : event.debug.head? = some event.initial := by
  cases event <;> rfl

/-- **Equal debug forms have equal fields.** -/
theorem eq_of_debug {event other : Event} (h : event.debug = other.debug) : event = other := by
  have hinitial : event.initial = other.initial := by
    rw [← Option.some.injEq, ← head?_debug, ← head?_debug, h]
  -- Of one kind, the fields are read off in their order, with the same words between them.
  cases event with
  | opened path handle =>
    -- The path is in quotes and the descriptor ends before a bracket: each of them is read off
    -- whatever follows.
    cases other with
    | opened path' handle' =>
      simp only [debug, List.append_assoc] at h
      obtain ⟨rfl, hbehind⟩ := pathDebug_append_inj (List.append_cancel_left h)
      obtain ⟨rfl, -⟩ := Descriptor.debug_append_inj (List.append_cancel_left hbehind)
      rfl
    -- The forms begin with the name of the kind, and the first letters differ.
    | read handle' requested result => cases hinitial
    | closed handle' result => cases hinitial
  | read handle requested result =>
    cases other with
    | opened path' handle' => cases hinitial
    | read handle' requested' result' =>
      simp only [debug, List.append_assoc] at h
      obtain ⟨rfl, hbehind⟩ := Descriptor.debug_append_inj (List.append_cancel_left h)
      -- A number is read off only if no digit follows it; behind this one there is a comma.
      have hrequested : Decimal.ofInt (.ofNat requested) ++ _
          = Decimal.ofInt (.ofNat requested') ++ _ := List.append_cancel_left hbehind
      obtain ⟨heq, hresult⟩ := Decimal.ofInt_append_inj (by decide) hrequested
      obtain rfl := Int.ofNat.inj heq
      obtain rfl := Decimal.ofInt_inj.mp (List.append_cancel_right hresult)
      rfl
    | closed handle' result' => cases hinitial
  | closed handle result =>
    cases other with
    | opened path' handle' => cases hinitial
    | read handle' requested result' => cases hinitial
    | closed handle' result' =>
      simp only [debug, List.append_assoc] at h
      obtain ⟨rfl, hbehind⟩ := Descriptor.debug_append_inj (List.append_cancel_left h)
      have hresult := List.append_cancel_left hbehind
      obtain rfl := Decimal.ofInt_inj.mp (List.append_cancel_right hresult)
      rfl

/-! ### Debug forms of paths -/

/-- Equal debug forms of paths have equal bytes. -/
theorem bytes_eq_of_debug {path other : Pathname} (h : path.debug = other.debug) :
    path.bytes = other.bytes := by
  simp only [Pathname.debug, List.append_assoc] at h
  exact (Quoted.encode_append_inj (List.append_cancel_left h)).1

/-- **A debug form says which event it is of, and which path.**

* Two events have the same debug form only if they are the same: the same kind of call with the same
  fields, where no path differs from the empty path.
* Two paths have the same debug form only if they have the same bytes.
* The quoted path inside is read back as the bytes of the path.
* It falls into units, each standing for some of these bytes, and the bytes that stand as `\x` and a
  number from 80 are the ones in whose place lossy text has a replacement character. -/
theorem debug_identifies :
    (∀ event other : Event, event.debug = other.debug ↔ event = other) ∧
    (∀ path other : Pathname, path.debug = other.debug ↔ path.bytes = other.bytes) ∧
    (∀ path : Pathname, Quoted.decode path.quoted = some path.bytes) ∧
    ∀ path : Pathname, ∃ units : List Quoted.WrittenUnit,
      Quoted.units? path.quoted = some units ∧
      Quoted.quote :: units.flatMap Quoted.WrittenUnit.text ++ [Quoted.quote] = path.quoted ∧
      units.flatMap Quoted.WrittenUnit.bytes = path.bytes ∧
      units.flatMap Quoted.WrittenUnit.marks = Utf8.replaced path.bytes := by
  refine ⟨?_, ?_, ?_, ?_⟩
  · intro event other
    constructor
    · exact eq_of_debug
    · rintro rfl
      rfl
  · intro path other
    constructor
    · exact bytes_eq_of_debug
    · intro h
      rw [Pathname.ext h]
  · -- The decoder reads units up to the closing quote, and every unit gives back its bytes.
    intro path
    exact Quoted.decode_encode path.bytes
  · -- The units that were written are those that are read, and each is marked as replaced or not.
    intro path
    have hwrites := Quoted.writes_body path.bytes
    refine ⟨Quoted.unitsOf path.bytes, Quoted.units?_encode path.bytes, ?_, hwrites.bytes,
      hwrites.marks⟩
    rw [hwrites.text]
    rfl

end Event

end TracedPipe
