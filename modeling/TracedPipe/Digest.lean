import TracedPipe.Text.Basic

/-!
# Byte strings in hexadecimal

How bytes that are no text are shown: by two digits each, or, where there are too many of them, by a
digest.
-/

namespace TracedPipe

/-!
## Hexadecimal digits

Lowercase hexadecimal digits: two for each byte of a byte string, and as few as possible for a
number. `Hex.digitValue?` reads one digit back.
-/

namespace Hex

/-- The digit for a number below sixteen. -/
def digit (n : Nat) : UInt8 := UInt8.ofNat (if n < 10 then 48 + n else 87 + n)

/-- The two digits of a byte, high half first. -/
def ofByte (b : UInt8) : Bytes := [digit (b.toNat / 16), digit (b.toNat % 16)]

/-- The digits of a byte string, two for each byte. -/
def ofBytes (bytes : Bytes) : Bytes := bytes.flatMap ofByte

/-- The digits of a natural number, most significant first and without leading zeros. -/
def ofNat (n : Nat) : Bytes :=
  if n < 16 then [digit n] else ofNat (n / 16) ++ [digit (n % 16)]

/-- The number a digit stands for. -/
def digitValue? (b : UInt8) : Option Nat :=
  if 48 ≤ b.toNat ∧ b.toNat ≤ 57 then some (b.toNat - 48)
  else if 97 ≤ b.toNat ∧ b.toNat ≤ 102 then some (b.toNat - 87)
  else none

/-- The digits of a 64-bit word: sixteen, with leading zeros. -/
def ofWord (w : UInt64) : Bytes :=
  (List.range 16).map fun i => digit (w.toNat >>> (60 - 4 * i) % 16)

/-! ### Reading a digit back -/

theorem digit_toNat {n : Nat} (h : n < 16) :
    (digit n).toNat = if n < 10 then 48 + n else 87 + n := by
  unfold digit
  split <;> simp <;> omega

@[simp] theorem digitValue?_digit {n : Nat} (h : n < 16) : digitValue? (digit n) = some n := by
  unfold digitValue?
  rw [digit_toNat h]
  split <;> split <;> simp <;> omega

end Hex

/-!
## Digests of long byte strings

A byte string too long to be shown is summed up by its length, a 64-bit digest, and its two
ends. The digest is FNV-1a: each byte is mixed in by an exclusive or, then the word is
multiplied by a prime.
-/

namespace Digest

/-- The digest of the empty byte string. -/
def offsetBasis : UInt64 := 0xcbf29ce484222325

/-- The prime that each step multiplies by. -/
def prime : UInt64 := 0x100000001b3

/-- The digest after one more byte. -/
def mix (digest : UInt64) (b : UInt8) : UInt64 := (digest ^^^ b.toUInt64) * prime

/-- **The digest of a byte string.** -/
def ofBytes (bytes : Bytes) : UInt64 := bytes.foldl mix offsetBasis

/-- The longest byte string that is shown in full. -/
def longestShown : Nat := 256

/-- How many bytes of each end of a longer one are shown. -/
def endLength : Nat := 16

end Digest

end TracedPipe
