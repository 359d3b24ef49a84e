import TracedPipe.Text.Basic

/-!
# UTF-8

The numbers of characters, and how a byte string falls into characters and into what is none.
-/

namespace TracedPipe

/-!
## Code points

The number of a UTF-8 character and the character of a number, by the payload bits of its bytes: the
lead byte carries what its length leaves over, each later byte carries six bits.
-/

namespace CodePoint

/-- The number of a character given by its bytes. -/
def ofBytes : Bytes → Nat
  | [a] => a.toNat
  | [a, b] => (a.toNat - 0xc0) * 64 + (b.toNat - 0x80)
  | [a, b, c] => ((a.toNat - 0xe0) * 64 + (b.toNat - 0x80)) * 64 + (c.toNat - 0x80)
  | [a, b, c, d] =>
    (((a.toNat - 0xf0) * 64 + (b.toNat - 0x80)) * 64 + (c.toNat - 0x80)) * 64 + (d.toNat - 0x80)
  | _ => 0

/-- The bytes of the character with a given number. -/
def toBytes (n : Nat) : Bytes :=
  if n < 0x80 then [UInt8.ofNat n]
  else if n < 0x800 then [UInt8.ofNat (0xc0 + n / 64), UInt8.ofNat (0x80 + n % 64)]
  else if n < 0x10000 then
    [UInt8.ofNat (0xe0 + n / 4096), UInt8.ofNat (0x80 + n / 64 % 64), UInt8.ofNat (0x80 + n % 64)]
  else
    [UInt8.ofNat (0xf0 + n / 262144), UInt8.ofNat (0x80 + n / 4096 % 64),
      UInt8.ofNat (0x80 + n / 64 % 64), UInt8.ofNat (0x80 + n % 64)]

end CodePoint

/-!
## UTF-8: characters and maximal invalid subparts

A byte string falls, from left to right, into *pieces*: a well-formed character, or a maximal
invalid subpart, which is the longest stretch that could have begun a character, and one byte
where no character can begin. `Utf8.pieces` is that decomposition, and everything said about a
path's text is said of its pieces:

* `Utf8.lossy` keeps the characters and puts one replacement character for each invalid subpart;
* `Utf8.isWellFormed` holds if there are only characters; `Utf8.WellFormed` says so without the
  decomposition, as a row of characters, each a lead byte with the bytes its row of the Unicode
  table asks for.

`Utf8.bytes_pieces` says that the pieces are the byte string again.
-/

namespace Utf8

/-- The bytes from `low` to `high`, both included. -/
structure ByteRange where
  low : Nat
  high : Nat
deriving DecidableEq, Repr

/-- Whether a byte lies in the range. -/
def ByteRange.contains (range : ByteRange) (b : UInt8) : Bool :=
  range.low ≤ b.toNat && b.toNat ≤ range.high

/-- The bytes that continue a character where nothing narrower is asked for. -/
def tail : ByteRange := ⟨0x80, 0xbf⟩

/-- **The table of well-formed characters.** For each lead byte, the ranges of the bytes that follow
it; `none` if no character begins with it. The narrower second ranges exclude overlong forms
(after `e0` and `f0`), surrogates (after `ed`) and numbers above 10ffff (after `f4`). -/
def followers (lead : UInt8) : Option (List ByteRange) :=
  let b := lead.toNat
  if b < 0x80 then some []
  else if b < 0xc2 then none
  else if b < 0xe0 then some [tail]
  else if b = 0xe0 then some [⟨0xa0, 0xbf⟩, tail]
  else if b = 0xed then some [⟨0x80, 0x9f⟩, tail]
  else if b < 0xf0 then some [tail, tail]
  else if b = 0xf0 then some [⟨0x90, 0xbf⟩, tail, tail]
  else if b < 0xf4 then some [tail, tail, tail]
  else if b = 0xf4 then some [⟨0x80, 0x8f⟩, tail, tail]
  else none

/-- The longest beginning of a byte string that lies in the given ranges, byte by byte. -/
def fitting : List ByteRange → Bytes → Bytes
  | range :: ranges, b :: bytes =>
    if range.contains b then b :: fitting ranges bytes else []
  | _, _ => []

/-- Bytes that lie in the given ranges, one in each. -/
inductive Fits : List ByteRange → Bytes → Prop where
  | nil : Fits [] []
  | cons {range : ByteRange} {ranges : List ByteRange} {b : UInt8} {bytes : Bytes}
      (first : range.contains b = true) (others : Fits ranges bytes) :
      Fits (range :: ranges) (b :: bytes)

/-- A character is a lead byte and one byte from each range that it asks for. -/
inductive IsCharacter : Bytes → Prop where
  | mk {lead : UInt8} {ranges : List ByteRange} {rest : Bytes}
      (row : followers lead = some ranges) (fits : Fits ranges rest) :
      IsCharacter (lead :: rest)

/-- A well-formed byte string is a row of characters. -/
inductive WellFormed : Bytes → Prop where
  | nil : WellFormed []
  | cons {character rest : Bytes} (first : IsCharacter character) (others : WellFormed rest) :
      WellFormed (character ++ rest)

/-! ### Pieces -/

/-- A part of a byte string, as far as it is text. -/
inductive Piece where
  /-- A well-formed character. -/
  | character (bytes : Bytes)
  /-- A maximal invalid subpart. -/
  | invalid (bytes : Bytes)
deriving DecidableEq, Repr

/-- The bytes a piece is made of. -/
def Piece.bytes : Piece → Bytes
  | .character bytes => bytes
  | .invalid bytes => bytes

/-- Whether a piece is a character. -/
def Piece.isCharacter : Piece → Bool
  | .character _ => true
  | .invalid _ => false

/-- The first piece of `lead :: rest`. -/
def firstPiece (lead : UInt8) (rest : Bytes) : Piece :=
  match followers lead with
  | none => .invalid [lead]
  | some ranges =>
    let taken := fitting ranges rest
    if taken.length = ranges.length then .character (lead :: taken) else .invalid (lead :: taken)

/-- **The decomposition of a byte string** into characters and maximal invalid subparts. -/
def pieces : Bytes → List Piece
  | [] => []
  | lead :: rest =>
    let piece := firstPiece lead rest
    piece :: pieces (rest.drop (piece.bytes.length - 1))
termination_by bytes => bytes.length
decreasing_by simp only [List.length_drop, List.length_cons]; omega

/-- The replacement character, U+FFFD. -/
def replacement : Bytes := [0xef, 0xbf, 0xbd]

/-- What a piece looks like as text. -/
def Piece.lossy : Piece → Bytes
  | .character bytes => bytes
  | .invalid _ => replacement

/-- **Lossy text.** Characters are kept, each maximal invalid subpart becomes one replacement
character. -/
def lossy (bytes : Bytes) : Bytes := (pieces bytes).flatMap Piece.lossy

/-- Whether a byte string is a row of characters. -/
def isWellFormed : Bytes → Bool
  | [] => true
  | lead :: rest =>
    match followers lead with
    | none => false
    | some ranges =>
      if (fitting ranges rest).length = ranges.length then isWellFormed (rest.drop ranges.length)
      else false
termination_by bytes => bytes.length
decreasing_by simp only [List.length_drop, List.length_cons]; omega

/-! ### The pieces are the byte string again -/

theorem fitting_prefix (ranges : List ByteRange) (bytes : Bytes) :
    fitting ranges bytes <+: bytes := by
  fun_induction fitting ranges bytes with
  | case1 range ranges b bytes _ ih => exact List.cons_prefix_cons.2 ⟨rfl, ih⟩
  | case2 => exact List.nil_prefix
  | case3 => exact List.nil_prefix

theorem firstPiece_bytes (lead : UInt8) (rest : Bytes) :
    ∃ taken, (firstPiece lead rest).bytes = lead :: taken ∧ taken <+: rest := by
  unfold firstPiece
  split
  · exact ⟨[], rfl, List.nil_prefix⟩
  · next ranges _ =>
    refine ⟨fitting ranges rest, ?_, fitting_prefix ranges rest⟩
    dsimp only
    split <;> rfl

/-- **Nothing is lost, added or moved** by the decomposition. -/
theorem bytes_pieces (bytes : Bytes) : (pieces bytes).flatMap Piece.bytes = bytes := by
  fun_induction pieces bytes with
  | case1 => rfl
  | case2 lead rest piece ih =>
    obtain ⟨taken, hbytes, more, rfl⟩ := firstPiece_bytes lead rest
    rw [List.flatMap_cons, ih, show piece.bytes = lead :: taken from hbytes]
    simp

end Utf8

end TracedPipe
