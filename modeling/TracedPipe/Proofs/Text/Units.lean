import TracedPipe.Proofs.Text.Decomposition
import TracedPipe.Text.Quoted

/-!
# The units of a quoted form

A quoted form (`Quoted.encode`) is a row of *units* between two quotes: a byte that stands for
itself, a backslash with a letter or mark, `\x` with two digits, or `\u` with a number in braces. A
byte string is written piece by piece, and which units a piece is written in is said here a second
time, without putting their texts together (`Quoted.pieceUnits`).

What carries the file is that such a unit is *readable* (`Quoted.WrittenUnit.IsReadable`): it is
read as it was written, whatever stands behind it, and it does not begin like the closing quote.
What holds of a whole form then follows along the row of its units, by induction over the pieces
(`Quoted.writes_body`).

Main statements:

* `Quoted.units?_encode`, `Quoted.decode_encode` — a quoted form is read back, as the units it was
  written in and as the bytes it was written from;
* `Quoted.writes_body` — the bytes written as `\x` and a number from 80 are those of invalid
  subparts;
* `Quoted.encode_append_inj` — a quoted form ends where it does, whatever follows it.
-/

namespace TracedPipe

/-! ### Hexadecimal digits -/

namespace Hex

/-- What a number is written with. -/
theorem exists_of_mem_ofNat {n : Nat} {b : UInt8} (h : b ∈ ofNat n) : ∃ m < 16, b = digit m := by
  induction n using Nat.strongRecOn with
  | _ n ih =>
    rw [ofNat] at h
    split at h
    · next hn => exact ⟨n, hn, List.mem_singleton.mp h⟩
    · next hn =>
      rcases List.mem_append.mp h with h | h
      · exact ih (n / 16) (by omega) h
      · exact ⟨n % 16, Nat.mod_lt n (by decide), List.mem_singleton.mp h⟩

end Hex

namespace Quoted

theorem hexValue?_append_digit (digits : Bytes) {n : Nat} (h : n < 16) :
    hexValue? (digits ++ [Hex.digit n]) = (hexValue? digits).map (16 * · + n) := by
  unfold hexValue?
  rw [List.foldl_append, List.foldl_cons, List.foldl_nil, Hex.digitValue?_digit h]
  cases digits.foldl (fun acc b => acc.bind fun n => (Hex.digitValue? b).map (16 * n + ·))
    (some 0) <;> rfl

/-- The digits of a number have its value. -/
theorem hexValue?_ofNat (n : Nat) : hexValue? (Hex.ofNat n) = some n := by
  induction n using Nat.strongRecOn with
  | _ n ih =>
    rw [Hex.ofNat]
    split
    · next hn =>
      rw [← List.nil_append [Hex.digit n], hexValue?_append_digit [] hn]
      simp [hexValue?]
    · next hn =>
      rw [hexValue?_append_digit _ (Nat.mod_lt n (by decide)), ih (n / 16) (by omega)]
      simp only [Option.map_some, Option.some.injEq]
      omega

/-- The two digits of a byte have its value. -/
theorem hexValue?_ofByte (b : UInt8) : hexValue? (Hex.ofByte b) = some b.toNat := by
  have hlt : b.toNat < 256 := b.toNat_lt
  have hdigits : Hex.ofByte b = ([] ++ [Hex.digit (b.toNat / 16)]) ++ [Hex.digit (b.toNat % 16)] :=
    rfl
  rw [hdigits, hexValue?_append_digit _ (Nat.mod_lt _ (by decide)),
    hexValue?_append_digit [] (by omega)]
  simp only [hexValue?, List.foldl_nil, Option.map_some, Option.some.injEq]
  omega

/-! ### Single units -/

/-- A byte that is no backslash stands for itself. -/
theorem unit?_cons {b : UInt8} (h : b ≠ backslash) (rest : Bytes) :
    unit? (b :: rest) = some ([b], rest) := by
  unfold unit?
  exact if_pos h

theorem unit?_hexEscape (b : UInt8) (rest : Bytes) :
    unit? (hexEscape b ++ rest) = some ([b], rest) := by
  have hdigits : hexValue? [Hex.digit (b.toNat / 16), Hex.digit (b.toNat % 16)] = some b.toNat :=
    hexValue?_ofByte b
  have hunit : unit? (hexEscape b ++ rest)
      = (hexValue? [Hex.digit (b.toNat / 16), Hex.digit (b.toNat % 16)]).map
          fun n => ([UInt8.ofNat n], rest) := rfl
  rw [hunit, hdigits, Option.map_some, UInt8.ofNat_toNat]

/-- The brace that ends the digits of a code point is none of them. -/
theorem ne_brace_of_mem_ofNat {n : Nat} {b : UInt8} (h : b ∈ Hex.ofNat n) : b ≠ 125 := by
  obtain ⟨m, hm, rfl⟩ := Hex.exists_of_mem_ofNat h
  intro heq
  have hdigit := Hex.digit_toNat hm
  rw [heq] at hdigit
  split at hdigit
  · have : (125 : UInt8).toNat = 125 := rfl
    omega
  · have : (125 : UInt8).toNat = 125 := rfl
    omega

theorem unit?_codePointEscape (n : Nat) (rest : Bytes) :
    unit? (codePointEscape n ++ rest) = some (CodePoint.toBytes n, rest) := by
  -- A hexadecimal digit is no closing brace, so the digits are what is read up to the brace.
  have hdigits : ∀ b ∈ Hex.ofNat n, decide (b ≠ 125) = true := by
    intro b hb
    exact decide_eq_true (ne_brace_of_mem_ofNat hb)
  have htake : (Hex.ofNat n ++ 125 :: rest).takeWhile (· ≠ 125) = Hex.ofNat n := by
    rw [List.takeWhile_append_of_pos hdigits]
    simp
  have hdrop : (Hex.ofNat n ++ 125 :: rest).dropWhile (· ≠ 125) = 125 :: rest := by
    rw [List.dropWhile_append_of_pos hdigits]
    simp
  have htext : codePointEscape n ++ rest
      = backslash :: 117 :: 123 :: (Hex.ofNat n ++ 125 :: rest) := by
    simp [codePointEscape]
  rw [htext, unit?, if_neg (fun h => h rfl)]
  -- What is left of the match asks only whether there is a closing brace.
  split
  · next after heq =>
    rw [hdrop] at heq
    cases heq
    dsimp only
    rw [htake, hexValue?_ofNat]
    rfl
  · next heq =>
    rw [hdrop] at heq
    cases heq

/-- A letter or mark after a backslash stands for the byte it was put for. -/
theorem unit?_shorthand {b letter : UInt8} (h : shorthand? b = some letter) (rest : Bytes) :
    unit? (backslash :: letter :: rest) = some ([b], rest) := by
  -- One byte of the table after the other.
  unfold shorthand? at h
  split at h
  · next hb =>
    cases hb
    cases h
    rfl
  split at h
  · next hb =>
    cases hb
    cases h
    rfl
  split at h
  · next hb =>
    cases hb
    cases h
    rfl
  split at h
  · next hb =>
    -- A quote and a backslash are written with themselves as the letter.
    cases h
    rcases hb with rfl | rfl | rfl <;> rfl
  · cases h

theorem unit?_asciiForm {b : UInt8} (rest : Bytes) :
    unit? (asciiForm b ++ rest) = some ([b], rest) := by
  unfold asciiForm
  split
  · next letter h => exact unit?_shorthand h rest
  · next h =>
    split
    · exact unit?_hexEscape b rest
    · refine unit?_cons ?_ rest
      rintro rfl
      cases h

end Quoted

/-- **For each byte, whether lossy text puts a replacement character in its place.** -/
def Utf8.replaced (bytes : Bytes) : List Bool :=
  (pieces bytes).flatMap fun piece => piece.bytes.map fun _ => !piece.isCharacter

namespace Quoted

/-! ### Rows of units -/

/-- A unit of a written form: its text, and the bytes it stands for. -/
structure WrittenUnit where
  text : Bytes
  bytes : Bytes
deriving DecidableEq, Repr

namespace WrittenUnit

/-- Whether a text is `\x` and two digits, of which the first is 8 or more. -/
def isHighEscape : Bytes → Bool
  | [mark, letter, first, _] => mark = backslash && letter = 120 && 56 ≤ first.toNat
  | _ => false

/-- For each byte that the unit stands for, whether it is written as `\x` and a number from 80. -/
def marks (u : WrittenUnit) : List Bool := u.bytes.map fun _ => isHighEscape u.text

/-- A unit that is read as it was written, whatever comes after it, and does not begin like the
closing quote. -/
structure IsReadable (u : WrittenUnit) : Prop where
  unit : ∀ rest, unit? (u.text ++ rest) = some (u.bytes, rest)
  noQuote : u.text.head? ≠ some quote

theorem IsReadable.ne_nil {u : WrittenUnit} (h : u.IsReadable) : u.text ≠ [] := by
  intro hnil
  have hunit := h.unit []
  rw [hnil] at hunit
  cases hunit

end WrittenUnit

/-- The units of a written form, read off one after another; `limit` bounds their number. -/
def unitsWithin : Nat → Bytes → Option (List WrittenUnit)
  | _, [] => some []
  | 0, _ => none
  | limit + 1, written =>
    match unit? written with
    | some (bytes, rest) =>
      (unitsWithin limit rest).map (⟨written.take (written.length - rest.length), bytes⟩ :: ·)
    | none => none

/-- **The units of a quoted form,** between its quotes. -/
def units? (written : Bytes) : Option (List WrittenUnit) :=
  match written with
  | [] => none
  | first :: rest =>
    if first = quote ∧ rest.getLast? = some quote then
      unitsWithin rest.dropLast.length rest.dropLast
    else none

/-- Reading a written form is reading its units. -/
theorem readUnits_eq (limit : Nat) (written : Bytes) :
    readUnits limit written = (unitsWithin limit written).map (·.flatMap WrittenUnit.bytes) := by
  induction limit generalizing written with
  | zero => cases written <;> rfl
  | succ limit ih =>
    cases written with
    | nil => rfl
    | cons first others =>
      unfold readUnits unitsWithin
      cases unit? (first :: others) with
      | none => rfl
      | some found =>
        obtain ⟨bytes, rest⟩ := found
        dsimp only
        rw [ih, Option.map_map, Option.map_map]
        rfl

theorem decode_eq (written : Bytes) :
    decode written = (units? written).map (·.flatMap WrittenUnit.bytes) := by
  cases written with
  | nil => rfl
  | cons first rest =>
    by_cases hquotes : first = quote ∧ rest.getLast? = some quote
    · rw [decode, units?, if_pos hquotes, if_pos hquotes]
      exact readUnits_eq _ _
    · rw [decode, units?, if_neg hquotes, if_neg hquotes]
      rfl

/-- **Readable units are read** one after another, as they were written. -/
theorem unitsWithin_flatMap {list : List WrittenUnit} (h : ∀ u ∈ list, u.IsReadable) {limit : Nat}
    (hlimit : (list.flatMap WrittenUnit.text).length ≤ limit) :
    unitsWithin limit (list.flatMap WrittenUnit.text) = some list := by
  induction list generalizing limit with
  | nil => cases limit <;> rfl
  | cons u others ih =>
    have hu : u.IsReadable := h u List.mem_cons_self
    have hothers : ∀ other ∈ others, other.IsReadable :=
      fun other hother => h other (List.mem_cons_of_mem u hother)
    -- A unit takes one byte of the text at least, so the limit covers the units that are left.
    have hpos := List.length_pos_iff.mpr hu.ne_nil
    rw [List.flatMap_cons, List.length_append] at hlimit
    obtain ⟨limit, rfl⟩ := Nat.exists_eq_add_one_of_ne_zero (show limit ≠ 0 by omega)
    have hunit := hu.unit (others.flatMap WrittenUnit.text)
    rw [List.flatMap_cons]
    cases htext : u.text ++ others.flatMap WrittenUnit.text with
    | nil => exact absurd (List.append_eq_nil_iff.mp htext).1 hu.ne_nil
    | cons first rest =>
      unfold unitsWithin
      rw [← htext, hunit]
      dsimp only
      rw [ih hothers (by omega), List.length_append, Nat.add_sub_cancel, List.take_left]
      rfl

/-- The text of a readable unit is not what a quote begins. -/
theorem WrittenUnit.IsReadable.append_ne_quote {u : WrittenUnit} (h : u.IsReadable)
    (behind rest : Bytes) : u.text ++ behind ≠ quote :: rest := by
  intro heq
  cases htext : u.text with
  | nil => exact h.ne_nil htext
  | cons first text =>
    rw [htext, List.cons_append, List.cons.injEq] at heq
    refine h.noQuote ?_
    rw [htext, heq.1, List.head?_cons]

/-- **Readable units up to a quote can be told from what follows it,** and from each other. -/
theorem flatMap_text_inj {list other : List WrittenUnit} (h : ∀ u ∈ list, u.IsReadable)
    (hother : ∀ u ∈ other, u.IsReadable) {rest behind : Bytes}
    (heq : list.flatMap WrittenUnit.text ++ quote :: rest
      = other.flatMap WrittenUnit.text ++ quote :: behind) : list = other ∧ rest = behind := by
  -- By induction on the first row. No unit begins with a quote, so both rows end at the same place.
  induction list generalizing other with
  | nil =>
    cases other with
    | nil => exact ⟨rfl, List.tail_eq_of_cons_eq heq⟩
    | cons v other =>
      rw [List.flatMap_cons, List.append_assoc] at heq
      exact absurd heq.symm ((hother v List.mem_cons_self).append_ne_quote _ _)
  | cons u list ih =>
    have hu : u.IsReadable := h u List.mem_cons_self
    rw [List.flatMap_cons, List.append_assoc] at heq
    cases other with
    | nil => exact absurd heq (hu.append_ne_quote _ _)
    | cons v other =>
      have hv : v.IsReadable := hother v List.mem_cons_self
      rw [List.flatMap_cons, List.append_assoc] at heq
      -- Both rows are one text, and the first unit of a text is read in one way.
      have hunit := hu.unit (list.flatMap WrittenUnit.text ++ quote :: rest)
      rw [heq, hv.unit, Option.some.injEq, Prod.mk.injEq] at hunit
      obtain ⟨hbytes, hbehind⟩ := hunit
      obtain ⟨rfl, rfl⟩ := ih (fun w hw => h w (List.mem_cons_of_mem u hw))
        (fun w hw => hother w (List.mem_cons_of_mem v hw)) hbehind.symm
      -- What is behind the first units is the same, and so are their texts.
      have htext : u.text = v.text := List.append_cancel_right heq
      obtain ⟨utext, ubytes⟩ := u
      obtain ⟨vtext, vbytes⟩ := v
      obtain rfl : utext = vtext := htext
      obtain rfl : vbytes = ubytes := hbytes
      exact ⟨rfl, rfl⟩

/-! ### The units of a piece -/

/-- A byte as a unit that is the byte itself. -/
def plainUnit (b : UInt8) : WrittenUnit := ⟨[b], [b]⟩

/-- A byte as a unit that is an escape. -/
def hexUnit (b : UInt8) : WrittenUnit := ⟨hexEscape b, [b]⟩

/-- The units that a piece is written in. -/
def pieceUnits : Utf8.Piece → List WrittenUnit
  | .character [b] => [⟨asciiForm b, [b]⟩]
  | .character bytes =>
    let n := CodePoint.ofBytes bytes
    if Hidden.contains n then [⟨codePointEscape n, bytes⟩] else bytes.map plainUnit
  | .invalid bytes => bytes.map hexUnit

/-- The units that a byte string is written in. -/
def unitsOf (bytes : Bytes) : List WrittenUnit := (Utf8.pieces bytes).flatMap pieceUnits

/-- Units that write `bytes` as `text`, each byte marked as in `marks`. -/
structure Writes (list : List WrittenUnit) (bytes text : Bytes) (marks : List Bool) : Prop where
  bytes : list.flatMap WrittenUnit.bytes = bytes
  text : list.flatMap WrittenUnit.text = text
  marks : list.flatMap WrittenUnit.marks = marks
  readable : ∀ u ∈ list, u.IsReadable

namespace Writes

variable {list others : List WrittenUnit} {bytes text : Bytes} {marks : List Bool}

theorem nil : Writes [] [] [] [] where
  bytes := rfl
  text := rfl
  marks := rfl
  readable := nofun

theorem append {bytes' text' : Bytes} {marks' : List Bool} (h : Writes list bytes text marks)
    (hothers : Writes others bytes' text' marks') :
    Writes (list ++ others) (bytes ++ bytes') (text ++ text') (marks ++ marks') where
  bytes := by rw [List.flatMap_append, h.bytes, hothers.bytes]
  text := by rw [List.flatMap_append, h.text, hothers.text]
  marks := by rw [List.flatMap_append, h.marks, hothers.marks]
  readable := by
    intro u hu
    rcases List.mem_append.mp hu with hu | hu
    · exact h.readable u hu
    · exact hothers.readable u hu

theorem single {u : WrittenUnit} (h : u.IsReadable) : Writes [u] u.bytes u.text u.marks where
  bytes := List.flatMap_singleton _ _
  text := List.flatMap_singleton _ _
  marks := List.flatMap_singleton _ _
  readable := by
    intro v hv
    rw [List.mem_singleton.mp hv]
    exact h

/-- Byte by byte: each byte of a row is a unit of its own, and all of them are marked alike. -/
theorem map {unit : UInt8 → WrittenUnit} {form : UInt8 → Bytes} {mark : Bool} {bytes : Bytes}
    (hunit : ∀ b ∈ bytes, Writes [unit b] [b] (form b) [mark]) :
    Writes (bytes.map unit) bytes (bytes.flatMap form) (bytes.map fun _ => mark) := by
  induction bytes with
  | nil => exact nil
  | cons b bytes ih =>
    have hfirst := hunit b List.mem_cons_self
    have hothers := ih fun c hc => hunit c (List.mem_cons_of_mem b hc)
    exact hfirst.append hothers

end Writes

/-! ### Each form of a piece -/

/-- The escape of a byte is one from 80 if the byte is. -/
theorem isHighEscape_hexEscape (b : UInt8) :
    WrittenUnit.isHighEscape (hexEscape b) = decide (0x80 ≤ b.toNat) := by
  have hlt : b.toNat < 256 := b.toNat_lt
  have hescape : WrittenUnit.isHighEscape (hexEscape b)
      = decide (56 ≤ (Hex.digit (b.toNat / 16)).toNat) := rfl
  rw [hescape, Hex.digit_toNat (by omega), decide_eq_decide]
  split <;> omega

/-- An ASCII character is never written as an escape from 80. -/
theorem isHighEscape_asciiForm {b : UInt8} (h : b.toNat < 0x80) :
    WrittenUnit.isHighEscape (asciiForm b) = false := by
  unfold asciiForm
  split
  · rfl
  · split
    · rw [isHighEscape_hexEscape, decide_eq_false_iff_not]
      omega
    · rfl

/-- A code point is no escape of a byte. -/
theorem isHighEscape_codePointEscape (n : Nat) :
    WrittenUnit.isHighEscape (codePointEscape n) = false := by
  have htext : codePointEscape n = backslash :: 117 :: 123 :: (Hex.ofNat n ++ [125]) := rfl
  rw [htext]
  cases Hex.ofNat n ++ [125] with
  | nil => rfl
  | cons digit digits => cases digits <;> rfl

theorem writes_plainUnit {b : UInt8} (h : 0x80 ≤ b.toNat) :
    Writes [plainUnit b] [b] [b] [false] := by
  refine .single ⟨?_, ?_⟩
  · intro rest
    refine unit?_cons ?_ rest
    rintro rfl
    exact absurd h (by decide)
  · intro hquote
    obtain rfl := Option.some.inj hquote
    exact absurd h (by decide)

theorem writes_hexUnit {b : UInt8} (h : 0x80 ≤ b.toNat) :
    Writes [hexUnit b] [b] (hexEscape b) [true] := by
  have hmark : (hexUnit b).marks = [true] := by
    rw [WrittenUnit.marks, hexUnit, isHighEscape_hexEscape, decide_eq_true h]
    rfl
  rw [← hmark]
  refine .single ⟨?_, ?_⟩
  · intro rest
    exact unit?_hexEscape b rest
  · intro hquote
    cases hquote

theorem writes_asciiForm {b : UInt8} (h : b.toNat < 0x80) :
    Writes [⟨asciiForm b, [b]⟩] [b] (asciiForm b) [false] := by
  have hmark : WrittenUnit.marks ⟨asciiForm b, [b]⟩ = [false] := by
    rw [WrittenUnit.marks, isHighEscape_asciiForm h]
    rfl
  rw [← hmark]
  refine .single ⟨?_, ?_⟩
  · intro rest
    exact unit?_asciiForm rest
  · -- Only a quote that stands alone would be taken for the closing one.
    intro hquote
    unfold asciiForm at hquote
    split at hquote
    · cases hquote
    · next hplain =>
      split at hquote
      · cases hquote
      · -- The quote itself is written with a backslash.
        obtain rfl := Option.some.inj hquote
        cases hplain

theorem writes_codePointEscape {bytes : Bytes} (h : Utf8.IsCharacter bytes) :
    Writes [⟨codePointEscape (CodePoint.ofBytes bytes), bytes⟩] bytes
      (codePointEscape (CodePoint.ofBytes bytes)) (bytes.map fun _ => false) := by
  have hmark : WrittenUnit.marks ⟨codePointEscape (CodePoint.ofBytes bytes), bytes⟩
      = bytes.map fun _ => false := by
    rw [WrittenUnit.marks, isHighEscape_codePointEscape]
  rw [← hmark]
  refine .single ⟨?_, ?_⟩
  · intro rest
    rw [unit?_codePointEscape, Utf8.toBytes_ofBytes h]
  · intro hquote
    cases hquote

/-- **A piece is written in its units,** and the bytes that are written as escapes from 80 are those
of an invalid subpart. -/
theorem writes_piece {piece : Utf8.Piece} {rest : Bytes} (h : piece.StandsBefore rest) :
    Writes (pieceUnits piece) piece.bytes (pieceForm piece)
      (piece.bytes.map fun _ => !piece.isCharacter) := by
  cases h with
  -- The bytes of an invalid subpart are high, and each has a unit of its own.
  | @invalid part h => exact .map fun b hb => writes_hexUnit (h.high b hb)
  | @character bytes h =>
    -- Only ASCII has shorthands and escapes of bytes; any other character is written as a whole.
    rcases h.ascii_or_high with ⟨a, rfl, ha⟩ | ⟨⟨first, second, others, hbytes⟩, hhigh⟩
    · exact writes_asciiForm ha
    · have hform : pieceForm (.character bytes)
          = if Hidden.contains (CodePoint.ofBytes bytes) then
              codePointEscape (CodePoint.ofBytes bytes)
            else bytes := by rw [hbytes]; rfl
      have hunits : pieceUnits (.character bytes)
          = if Hidden.contains (CodePoint.ofBytes bytes) then
              [⟨codePointEscape (CodePoint.ofBytes bytes), bytes⟩]
            else bytes.map plainUnit := by rw [hbytes]; rfl
      rw [hform, hunits]
      split
      · exact writes_codePointEscape h
      · have hplain : Writes (bytes.map plainUnit) bytes (bytes.flatMap fun b => [b])
            (bytes.map fun _ => false) := .map fun b hb => writes_plainUnit (hhigh b hb)
        rwa [List.flatMap_singleton'] at hplain

/-! ### The units of a byte string -/

theorem writes_of_decomposes {bytes : Bytes} {list : List Utf8.Piece}
    (h : Utf8.Decomposes bytes list) :
    Writes (list.flatMap pieceUnits) bytes (list.flatMap pieceForm)
      (list.flatMap fun piece => piece.bytes.map fun _ => !piece.isCharacter) := by
  induction h with
  | nil => exact .nil
  | cons first more ih =>
    rw [List.flatMap_cons, List.flatMap_cons, List.flatMap_cons]
    exact (writes_piece first).append ih

/-- **A byte string is written in its units.** -/
theorem writes_body (bytes : Bytes) :
    Writes (unitsOf bytes) bytes (body bytes) (Utf8.replaced bytes) :=
  writes_of_decomposes (Utf8.decomposes_pieces bytes)

/-- **The units of a quoted form are those it was written in.** -/
theorem units?_encode (bytes : Bytes) : units? (encode bytes) = some (unitsOf bytes) := by
  have hwrites := writes_body bytes
  have hencode : encode bytes = quote :: (body bytes ++ [quote]) := rfl
  have hlast : quote = quote ∧ (body bytes ++ [quote]).getLast? = some quote :=
    ⟨rfl, List.getLast?_concat⟩
  rw [hencode, units?, if_pos hlast, List.dropLast_concat, ← hwrites.text]
  exact unitsWithin_flatMap hwrites.readable (Nat.le_refl _)

/-- **Reading undoes quoting.** -/
theorem decode_encode (bytes : Bytes) : decode (encode bytes) = some bytes := by
  rw [decode_eq, units?_encode, Option.map_some, (writes_body bytes).bytes]

/-- **Where a quoted form ends can be seen from what it begins with:** two of them that begin the
same text are the same, and so is what follows them. -/
theorem encode_append_inj {bytes other rest behind : Bytes}
    (h : encode bytes ++ rest = encode other ++ behind) : bytes = other ∧ rest = behind := by
  have hbytes := writes_body bytes
  have hother := writes_body other
  have hencode (bytes rest : Bytes) :
      encode bytes ++ rest = quote :: (body bytes ++ quote :: rest) := by
    rw [encode, List.cons_append, List.cons_append, List.append_assoc, List.singleton_append]
  rw [hencode, hencode, List.cons.injEq, ← hbytes.text, ← hother.text] at h
  obtain ⟨hunits, hrest⟩ := flatMap_text_inj hbytes.readable hother.readable h.2
  refine ⟨?_, hrest⟩
  rw [← hbytes.bytes, hunits, hother.bytes]

end Quoted

end TracedPipe
