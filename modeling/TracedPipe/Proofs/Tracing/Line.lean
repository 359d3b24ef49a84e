import TracedPipe.Event
import TracedPipe.Proofs.Text.Decomposition
import TracedPipe.Tracing.Announce

/-!
# Lines of events

What the line of an event shows, and what it hides.

Main statements: `Event.line_of_path`, `Event.shared_lines`.
-/

namespace TracedPipe

/-!
## Lines have no NUL

The line of an event lies in memory for a callback up to its first NUL, so a NUL in a line would cut
it short. There is none: the fixed words and the digits have none, a pathname has none, and lossy
text has only bytes of the path and of replacement characters (`Utf8.mem_lossy`). What a callback
reads is therefore the whole line (`readLine_terminatedLine`).
-/

/-- A byte of lossy text is a byte of the text itself or of a replacement character. -/
theorem Utf8.mem_lossy {bytes : Bytes} {b : UInt8} (h : b ∈ Utf8.lossy bytes) :
    b ∈ bytes ∨ b ∈ Utf8.replacement := by
  obtain ⟨piece, hpiece, hb⟩ := List.mem_flatMap.1 h
  cases piece with
  | character taken =>
    left
    rw [← Utf8.bytes_pieces bytes]
    exact List.mem_flatMap.2 ⟨_, hpiece, hb⟩
  | invalid taken => exact .inr hb

theorem Utf8.nul_notMem_lossy {bytes : Bytes} (h : nul ∉ bytes) : nul ∉ Utf8.lossy bytes := by
  intro hmem
  rcases Utf8.mem_lossy hmem with hb | hb
  · exact h hb
  · exact absurd hb (by decide)

theorem Decimal.nul_notMem_ofNat (n : Nat) : nul ∉ Decimal.ofNat n := by
  intro h
  have hdigit := Decimal.isDigit_of_mem_ofNat h
  exact absurd hdigit (by decide)

theorem Decimal.nul_notMem_ofInt (n : Int) : nul ∉ Decimal.ofInt n := by
  cases n with
  | ofNat n => exact Decimal.nul_notMem_ofNat n
  | negSucc n =>
    rw [Decimal.ofInt, List.mem_cons, not_or]
    exact ⟨by decide, Decimal.nul_notMem_ofNat (n + 1)⟩

namespace Event

theorem nul_notMem_pathText (path : Option Pathname) : nul ∉ pathText path := by
  cases path with
  | none => decide
  | some path => exact Utf8.nul_notMem_lossy path.nul_notMem

/-- **No line has a NUL,** whatever path or number it shows. -/
theorem nul_notMem_line (event : Event) : nul ∉ event.line := by
  cases event with
  | opened path handle =>
    rw [line, List.mem_append, not_or]
    exact ⟨by decide, nul_notMem_pathText path⟩
  | read handle requested result =>
    rw [line, List.mem_append, List.mem_append, not_or, not_or]
    exact ⟨⟨by decide, Decimal.nul_notMem_ofInt result⟩, by decide⟩
  | closed handle result => rw [line]; decide

end Event

/-! ### Lines in memory -/

/-- What is left of a line has no NUL, whatever the line had. -/
theorem nul_notMem_cutLine (line : Bytes) : nul ∉ cutLine line := by
  unfold cutLine
  cases hposition : line.idxOf? nul with
  | none => exact List.idxOf?_eq_none_iff.mp hposition
  | some position =>
    obtain ⟨hlength, hthere, hbefore⟩ := List.idxOf?_eq_some_iff.mp hposition
    intro hmem
    obtain ⟨i, hi, hnul⟩ := List.mem_take_iff_getElem.mp hmem
    exact hbefore i (Nat.lt_of_lt_of_le hi (Nat.min_le_left _ _)) hnul

/-- The empty string never takes the place of a line. -/
theorem terminated?_cutLine (line : Bytes) :
    terminated? (cutLine line) = some (cutLine line ++ [nul]) :=
  if_neg (nul_notMem_cutLine line)

/-- A line without a NUL is not cut. -/
theorem cutLine_of_notMem {line : Bytes} (h : nul ∉ line) : cutLine line = line := by
  rw [cutLine, List.idxOf?_eq_none_iff.mpr h]

theorem terminatedLine_of_notMem {line : Bytes} (h : nul ∉ line) :
    terminatedLine line = line ++ [nul] := by
  rw [terminatedLine, terminated?_cutLine, cutLine_of_notMem h, Option.getD_some]

/-- What stands before a terminator is read back, whatever lies behind it in memory. -/
theorem readLine_append_nul {line : Bytes} (h : nul ∉ line) (behind : Bytes) :
    readLine (line ++ nul :: behind) = line :=
  takeWhile_append_nul h behind

/-- **A callback reads the whole line** of an event. -/
theorem readLine_terminatedLine (event : Event) :
    readLine (terminatedLine event.line) = event.line := by
  rw [terminatedLine_of_notMem event.nul_notMem_line]
  exact readLine_append_nul event.nul_notMem_line []

/-!
## The line of an open

The line of an open shows the path as text, and a path need not be text. What it shows is settled by
the path alone: the path falls in one way into characters and maximal invalid subparts, and the line
has each character as it is and U+FFFD for each subpart. Nothing is skipped, and nothing is read
twice where the reading starts again after a subpart.
-/

namespace Event

open Utf8

/-- **What the line of an open shows of a path.**

* The line is the fixed words and then the lossy text of the path.
* Every byte string falls in exactly one way into pieces, without a rest, and its lossy text is put
  together from these pieces; where the characters are the encodings of the scalar values.
* Lossy text is well-formed, and differs from the byte string unless that is well-formed; made lossy
  once more it stays as it is.
* What is well-formed in front of a byte string makes no difference to the text of the rest.
* No NUL comes into the text of a path. -/
theorem line_of_path :
    (∀ (path : Pathname) (handle : Descriptor),
      (opened (some path) handle).line
        = ascii "PJReader opened for read file " ++ lossy path.bytes) ∧
    (∀ bytes : Bytes, ∃ list : List Piece,
      (∀ other : List Piece, Decomposes bytes other ↔ other = list) ∧
      list.flatMap Piece.bytes = bytes ∧
      lossy bytes = list.flatMap Piece.lossy) ∧
    (∀ bytes : Bytes,
      IsCharacter bytes ↔ ∃ n : Nat, n.isValidChar ∧ bytes = CodePoint.toBytes n) ∧
    (∀ bytes : Bytes, WellFormed (lossy bytes)) ∧
    (∀ bytes : Bytes, lossy bytes = bytes ↔ WellFormed bytes) ∧
    (∀ bytes : Bytes, lossy (lossy bytes) = lossy bytes) ∧
    (∀ front rest : Bytes, WellFormed front → lossy (front ++ rest) = lossy front ++ lossy rest) ∧
    (∀ path : Pathname, nul ∉ lossy path.bytes) := by
  refine ⟨?_, ?_, isCharacter_iff, wellFormed_lossy, lossy_eq_self_iff, lossy_lossy, ?_, ?_⟩
  · -- The line of a call that opened a path is the words and the path, as defined.
    intro path handle
    rfl
  · -- The pieces that the text is read in are the one way to decompose it.
    intro bytes
    exact ⟨pieces bytes, decomposes_iff bytes, bytes_pieces bytes, rfl⟩
  · intro front rest h
    exact lossy_append h rest
  · intro path
    exact nul_notMem_lossy path.nul_notMem

/-- A path with a letter beyond ASCII, a character cut short by a slash, a surrogate, and a
character cut short by the end. -/
def cutPath : Pathname where
  bytes := ascii "/caf" ++ [0xc3, 0xa9]
    ++ ([0xe2, 0x82, 0x2f] ++ [0xed, 0xa0, 0x80] ++ [0xf0, 0x9f, 0x8e])
  nul_notMem := by decide

theorem line_of_path_cutPath :
    WellFormed (ascii "/caf" ++ [0xc3, 0xa9]) ∧
    (opened (some cutPath) ⟨3⟩).line
      = ascii "PJReader opened for read file /caf" ++ [0xc3, 0xa9] ++ replacement ++ [0x2f]
        ++ replacement ++ replacement ++ replacement ++ replacement := by
  obtain ⟨hline, -, -, -, -, -, hfront, -⟩ := line_of_path
  have hwellFormed : WellFormed (ascii "/caf" ++ [0xc3, 0xa9]) :=
    (isWellFormed_iff _).mp (by decide +kernel)
  refine ⟨hwellFormed, ?_⟩
  rw [hline, cutPath, hfront _ _ hwellFormed]
  decide +kernel

end Event

/-!
## Events that share a line

A line is shorter than its event: it leaves out the handle and the bytes asked for, and a path
stands in it as text. Which events share a line is therefore a question about three things only. A
letter behind the first word tells the kind of call, whatever text a path holds
(`Event.verb_of_line`). Of a read, the line keeps the result. Of an open, it keeps the text of the
path, and there two paths may look alike: bytes that are no text look like the U+FFFD put in their
place (`Utf8.exists_alike`), and the path `(null)` looks like a missing one. No other paths are
confused.
-/

/-! ### Byte strings with the same text -/

namespace Utf8

/-- **A text without replacement characters determines the bytes.** -/
theorem eq_of_lossy {bytes other : Bytes} (h : WellFormed bytes)
    (hreplacement : .character replacement ∉ pieces bytes) (heq : lossy other = lossy bytes) :
    other = bytes := by
  rw [lossy_of_wellFormed h] at heq
  have hother : WellFormed other := wellFormed_of_lossy (heq ▸ hreplacement)
  rw [← lossy_of_wellFormed hother, heq]

/-- The byte `ff` begins no character, so a replacement character stands for it alone. -/
theorem lossy_ff (rest : Bytes) : lossy (0xff :: rest) = replacement ++ lossy rest := by
  have hpieces : pieces (0xff :: rest) = .invalid [0xff] :: pieces rest :=
    pieces_append_of_standsBefore (.invalid (isMaximalInvalid_of_none (by decide) rest))
  rw [lossy, hpieces, List.flatMap_cons]
  rfl

/-- Where a text has a replacement character, there may have been an invalid byte instead. -/
theorem exists_alike_of_replacement {bytes : Bytes} (h : WellFormed bytes)
    (hmem : .character replacement ∈ pieces bytes) :
    ∃ other, other ≠ bytes ∧ lossy other = lossy bytes ∧ (nul ∈ other → nul ∈ bytes) := by
  induction h with
  | nil => rw [pieces] at hmem; cases hmem
  | @cons character rest first more ih =>
    rw [pieces_character first, List.mem_cons] at hmem
    rcases hmem with hfirst | hrest
    · -- The character in front is U+FFFD: the byte `ff` could have been there.
      obtain rfl : replacement = character := by injection hfirst
      refine ⟨0xff :: rest, ?_, ?_, ?_⟩
      · intro heq
        have hhead : some (0xff : UInt8) = some 0xef := congrArg List.head? heq
        cases hhead
      · rw [lossy_ff, lossy_character first]
      · intro hnul
        rw [List.mem_cons] at hnul
        rcases hnul with hff | hnul
        · cases hff
        · exact List.mem_append_right _ hnul
    · -- It comes further behind, and the character in front is kept.
      obtain ⟨other, hne, heq, hnul⟩ := ih hrest
      refine ⟨character ++ other, ?_, ?_, ?_⟩
      · intro happend
        exact hne (List.append_cancel_left happend)
      · rw [lossy_character first, lossy_character first, heq]
      · rw [List.mem_append, List.mem_append]
        exact Or.imp_right hnul

/-- **Every other text looks like some further bytes,** and a path's like a further path's. -/
theorem exists_alike {bytes : Bytes}
    (h : ¬ (WellFormed bytes ∧ .character replacement ∉ pieces bytes)) :
    ∃ other, other ≠ bytes ∧ lossy other = lossy bytes ∧ (nul ∈ other → nul ∈ bytes) := by
  by_cases hbytes : WellFormed bytes
  · refine exists_alike_of_replacement hbytes ?_
    exact Decidable.not_not.mp fun hreplacement => h ⟨hbytes, hreplacement⟩
  · refine ⟨lossy bytes, ?_, lossy_lossy bytes, ?_⟩
    · intro heq
      exact hbytes ((lossy_eq_self_iff bytes).mp heq)
    · intro hnul
      exact Decidable.not_not.mp fun hbytes => nul_notMem_lossy hbytes hnul

end Utf8

/-! ### Lines of events -/

namespace Event

open Utf8

/-- What two events have in common if their lines are the same: the kind of call, and of a read the
result, and of an open how the path shows. -/
def SharesLine : Event → Event → Prop
  | .opened path _, .opened other _ => pathText path = pathText other
  | .read _ _ result, .read _ _ other => result = other
  | .closed _ _, .closed _ _ => True
  | _, _ => False

/-- The letter that the verb of a line begins with. -/
def verb : Event → UInt8
  | .opened _ _ => 111
  | .read _ _ _ => 114
  | .closed _ _ => 99

/-- The verb stands behind the first word, out of reach of any path or number. -/
theorem verb_of_line (event : Event) : event.line[9]? = some event.verb := by
  cases event <;> rfl

theorem sharesLine_of_line {event other : Event} (h : event.line = other.line) :
    SharesLine event other := by
  have hverb : event.verb = other.verb := by
    rw [← Option.some.injEq, ← verb_of_line, ← verb_of_line, h]
  -- Of one kind, both lines have the same words around what they show: in front of a path, and on
  -- both sides of a result.
  cases event with
  | opened path handle =>
    cases other with
    | opened other handle' => exact List.append_cancel_left h
    | read handle' requested result => cases hverb
    | closed handle' result => cases hverb
  | read handle requested result =>
    cases other with
    -- The first letters of the verbs differ, and so do the lines.
    | opened path handle' => cases hverb
    | read handle' requested' other =>
      have hresult := List.append_cancel_right h
      exact Decimal.ofInt_inj.mp (List.append_cancel_left hresult)
    | closed handle' result' => cases hverb
  | closed handle result =>
    cases other with
    | opened path handle' => cases hverb
    | read handle' requested result' => cases hverb
    -- Lines of calls that closed something do not depend on the call at all.
    | closed handle' result' => trivial

theorem line_of_sharesLine {event other : Event} (h : SharesLine event other) :
    event.line = other.line := by
  -- What two events share by definition is all that their line is made of.
  cases event with
  | opened path handle =>
    cases other with
    | opened other handle' =>
      have hpath : pathText path = pathText other := h
      rw [line, line, hpath]
    | read handle' requested result => exact h.elim
    | closed handle' result => exact h.elim
  | read handle requested result =>
    cases other with
    | opened path handle' => exact h.elim
    | read handle' requested' other =>
      have hresult : result = other := h
      rw [line, line, hresult]
    | closed handle' result' => exact h.elim
  | closed handle result =>
    cases other with
    | opened path handle' => exact h.elim
    | read handle' requested result' => exact h.elim
    | closed handle' result' => rfl

/-! ### Lines of opens -/

/-- A path that shows as the word for a missing one is that word. -/
theorem lossy_null : lossy (ascii "(null)") = ascii "(null)" :=
  lossy_of_wellFormed ((isWellFormed_iff _).mp (by decide +kernel))

/-- Whether a path can be told from the line of an open: no other path, and no missing one, gives
the same line. -/
def ShowsPath (path : Pathname) : Prop :=
  ∀ (handle handle' : Descriptor) (other : Option Pathname),
    (opened (some path) handle).line = (opened other handle').line → other = some path

theorem showsPath_of_text {path : Pathname} (h : WellFormed path.bytes)
    (hreplacement : .character replacement ∉ pieces path.bytes)
    (hnull : path.bytes ≠ ascii "(null)") : ShowsPath path := by
  intro handle handle' other heq
  have htext : lossy path.bytes = pathText other := sharesLine_of_line heq
  cases other with
  | none =>
    rw [lossy_of_wellFormed h] at htext
    exact absurd htext hnull
  | some other => rw [Pathname.ext (eq_of_lossy h hreplacement htext.symm)]

/-- A path that can be told from the line is a text without replacement characters. -/
theorem ShowsPath.text {path : Pathname} (h : ShowsPath path) :
    WellFormed path.bytes ∧ .character replacement ∉ pieces path.bytes := by
  by_cases htext : WellFormed path.bytes ∧ .character replacement ∉ pieces path.bytes
  · exact htext
  · -- Otherwise some other bytes look the same, and they are a path too.
    obtain ⟨bytes, hne, heq, hnul⟩ := exists_alike htext
    let other : Pathname := ⟨bytes, fun hmem => path.nul_notMem (hnul hmem)⟩
    have hshares : SharesLine (opened (some path) ⟨0⟩) (opened (some other) ⟨0⟩) := heq.symm
    have hsame : some other = some path := h ⟨0⟩ ⟨0⟩ (some other) (line_of_sharesLine hshares)
    injection hsame with hsame
    exact absurd (congrArg Pathname.bytes hsame) hne

theorem ShowsPath.ne_null {path : Pathname} (h : ShowsPath path) :
    path.bytes ≠ ascii "(null)" := by
  intro hnull
  have hshares : SharesLine (opened (some path) ⟨0⟩) (opened none ⟨0⟩) := by
    change lossy path.bytes = ascii "(null)"
    rw [hnull, lossy_null]
  cases h ⟨0⟩ ⟨0⟩ none (line_of_sharesLine hshares)

/-- **Which events share a line.**

* Two lines are the same exactly if both events are closes, or both reads with the same result, or
  both opens with paths that show alike; where a missing path shows as `(null)` and a path as lossy
  text.
* The line of an open is never the line of a read or of a close, whatever the path.
* The line of a read determines the result, and nothing else of it.
* The line of an open determines the path exactly if the path is well-formed, has no U+FFFD in it,
  and is not `(null)`. -/
theorem shared_lines :
    (∀ event other : Event, event.line = other.line ↔ SharesLine event other) ∧
    (pathText none = ascii "(null)" ∧ ∀ path : Pathname, pathText (some path) = lossy path.bytes) ∧
    (∀ (path : Option Pathname) (handle handle' : Descriptor) (requested : Nat) (result : Int),
      (opened path handle).line ≠ (read handle' requested result).line ∧
      (opened path handle).line ≠ (closed handle' result).line) ∧
    (∀ (handle handle' : Descriptor) (requested requested' : Nat) (result other : Int),
      (read handle requested result).line = (read handle' requested' other).line ↔
        result = other) ∧
    (∀ path : Pathname, ShowsPath path ↔
      WellFormed path.bytes ∧ .character replacement ∉ pieces path.bytes ∧
        path.bytes ≠ ascii "(null)") := by
  refine ⟨?_, ⟨rfl, fun path => rfl⟩, ?_, ?_, ?_⟩
  · intro event other
    exact ⟨sharesLine_of_line, line_of_sharesLine⟩
  · -- Events of different kinds share nothing, so lines that are equal contradict each other.
    intro path handle handle' requested result
    exact ⟨fun h => sharesLine_of_line h, fun h => sharesLine_of_line h⟩
  · intro handle handle' requested requested' result other
    exact ⟨fun h => sharesLine_of_line h, fun h => line_of_sharesLine h⟩
  · -- A path can be read off exactly if its text is that of no other path and not that of the null
    -- path.
    intro path
    constructor
    · intro h
      exact ⟨h.text.1, h.text.2, h.ne_null⟩
    · rintro ⟨htext, hreplacement, hnull⟩
      exact showsPath_of_text htext hreplacement hnull

-- A missing path and the path `(null)`; a cut character and U+FFFD itself.
example : (opened none ⟨3⟩).line = (opened (some ⟨ascii "(null)", by decide⟩) ⟨4⟩).line := by
  decide +kernel
example : (opened (some ⟨[0xe2, 0x82], by decide⟩) ⟨3⟩).line
    = (opened (some ⟨[0xef, 0xbf, 0xbd], by decide⟩) ⟨3⟩).line := by
  decide +kernel

end Event

end TracedPipe
