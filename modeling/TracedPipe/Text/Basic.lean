/-!
# Bytes, plain text and decimal numbers

Everything this library writes is a byte string: fixed words, which `ascii` turns into bytes, and
numbers in decimal between them.
-/

namespace TracedPipe

/-!
## Bytes and plain text

Paths, file contents and every line this library writes are byte strings. `ascii` turns the fixed
words of a line into bytes; it is meant for ASCII text alone, where a character is one byte.
-/

/-- A string of bytes. -/
abbrev Bytes := List UInt8

/-- The bytes of an ASCII text, one for each character. -/
def ascii (text : String) : Bytes :=
  text.toList.map fun c => UInt8.ofNat c.toNat

/-- The byte that ends a C string and that no path contains. -/
def nul : UInt8 := 0

/-- **Bytes without a NUL are found again** in front of one, whatever lies behind it in memory. -/
theorem takeWhile_append_nul {bytes : Bytes} (h : nul ∉ bytes) (behind : Bytes) :
    (bytes ++ nul :: behind).takeWhile (· ≠ nul) = bytes := by
  have hall : ∀ b ∈ bytes, decide (b ≠ nul) = true := by
    intro b hb
    exact decide_eq_true fun heq => h (heq ▸ hb)
  rw [List.takeWhile_append_of_pos hall, List.takeWhile_cons_of_neg (by decide), List.append_nil]

/-!
## Decimal numbers

Numbers in trace lines, debug forms and error messages are written in decimal, without leading
zeros, and with a minus sign in front if they are negative. `Decimal.value` reads digits back.

* `Decimal.value_ofNat` — the digits of a number have its value;
* `Decimal.ofNat_inj`, `Decimal.ofInt_inj` — different numbers are written differently;
* `Decimal.ofInt_append_inj`, `Decimal.append_ofInt_inj` — and can be told from what is written
  behind them, or in front.
-/

namespace Decimal

/-- The digit for a number below ten. -/
def digit (n : Nat) : UInt8 := UInt8.ofNat (48 + n)

/-- Whether a byte is one of the ten digits. -/
def isDigit (b : UInt8) : Bool := 48 ≤ b.toNat && b.toNat ≤ 57

/-- The digits of a natural number, most significant first. -/
def ofNat (n : Nat) : Bytes :=
  if n < 10 then [digit n] else ofNat (n / 10) ++ [digit (n % 10)]

/-- The minus sign. -/
def minus : UInt8 := 45

/-- The digits of an integer, after a minus sign if it is negative. -/
def ofInt : Int → Bytes
  | .ofNat n => ofNat n
  | .negSucc n => minus :: ofNat (n + 1)

/-- The number that a row of digits stands for. -/
def value (digits : Bytes) : Nat :=
  digits.foldl (fun acc b => 10 * acc + (b.toNat - 48)) 0

/-! ### Reading digits back -/

theorem digit_toNat {n : Nat} (h : n < 10) : (digit n).toNat = 48 + n := by
  simp [digit]; omega

theorem value_append_digit (digits : Bytes) (b : UInt8) :
    value (digits ++ [b]) = 10 * value digits + (b.toNat - 48) := by
  simp [value]

/-- **Reading undoes writing.** -/
theorem value_ofNat (n : Nat) : value (ofNat n) = n := by
  induction n using Nat.strongRecOn with
  | _ n ih =>
    rw [ofNat]
    split
    · next h => simp [value, digit_toNat h]
    · next h =>
      rw [value_append_digit, ih (n / 10) (by omega), digit_toNat (Nat.mod_lt _ (by omega))]
      omega

theorem ofNat_inj {m n : Nat} : ofNat m = ofNat n ↔ m = n :=
  ⟨fun h => by rw [← value_ofNat m, h, value_ofNat], fun h => h ▸ rfl⟩

/-- A written number consists of digits. -/
theorem isDigit_of_mem_ofNat {n : Nat} {b : UInt8} (h : b ∈ ofNat n) : isDigit b := by
  induction n using Nat.strongRecOn with
  | _ n ih =>
    rw [ofNat] at h
    split at h
    · next hn =>
      simp only [List.mem_singleton] at h
      subst h
      simp [isDigit, digit_toNat hn]; omega
    · next hn =>
      simp only [List.mem_append, List.mem_singleton] at h
      rcases h with h | rfl
      · exact ih (n / 10) (by omega) h
      · have hd := digit_toNat (Nat.mod_lt n (show 0 < 10 by omega))
        simp [isDigit, hd]; omega

/-- A minus sign is not a digit, so a negative number is never written like another one. -/
theorem minus_notMem_ofNat (n : Nat) : minus ∉ ofNat n := fun h => by
  have := isDigit_of_mem_ofNat h
  simp [isDigit, minus] at this

theorem ofInt_inj {a b : Int} : ofInt a = ofInt b ↔ a = b := by
  refine ⟨fun h => ?_, fun h => h ▸ rfl⟩
  match a, b with
  | .ofNat m, .ofNat n => exact congrArg Int.ofNat (ofNat_inj.1 h)
  | .negSucc m, .negSucc n =>
    have : m + 1 = n + 1 := ofNat_inj.1 (List.cons.inj h).2
    exact congrArg Int.negSucc (by omega)
  | .ofNat m, .negSucc n =>
    exact absurd (by rw [show ofNat m = minus :: ofNat (n + 1) from h]; simp) (minus_notMem_ofNat m)
  | .negSucc m, .ofNat n =>
    exact absurd (by rw [← show minus :: ofNat (m + 1) = ofNat n from h]; simp)
      (minus_notMem_ofNat n)

/-! ### Numbers in front of something else -/

/-- Whether a byte occurs in written numbers. -/
def isNumeral (b : UInt8) : Bool := isDigit b || b = minus

theorem isNumeral_of_mem_ofInt {n : Int} {b : UInt8} (h : b ∈ ofInt n) : isNumeral b = true := by
  have hdigit {m : Nat} (h : b ∈ ofNat m) : isNumeral b = true := by
    rw [isNumeral, isDigit_of_mem_ofNat h, Bool.true_or]
  match n with
  | .ofNat m => exact hdigit h
  | .negSucc m =>
    rcases List.mem_cons.mp h with rfl | h
    · rfl
    · exact hdigit h

/-- A number is read off the front, up to a word that does not begin like a number. -/
theorem takeWhile_isNumeral {number word : Bytes} (hnumber : ∀ b ∈ number, isNumeral b = true)
    (hword : word.head?.any (!isNumeral ·) = true) (rest : Bytes) :
    (number ++ (word ++ rest)).takeWhile isNumeral = number := by
  cases word with
  | nil => cases hword
  | cons b word =>
    have hb : ¬isNumeral b = true := by simpa using hword
    rw [List.takeWhile_append_of_pos hnumber, List.cons_append, List.takeWhile_cons_of_neg hb,
      List.append_nil]

/-- **A number can be told from the word behind it,** where that does not begin like a number. -/
theorem ofInt_append_inj {m n : Int} {word rest behind : Bytes}
    (hword : word.head?.any (!isNumeral ·) = true)
    (h : ofInt m ++ (word ++ rest) = ofInt n ++ (word ++ behind)) : m = n ∧ rest = behind := by
  have hread (k : Int) (others : Bytes) :
      (ofInt k ++ (word ++ others)).takeWhile isNumeral = ofInt k :=
    takeWhile_isNumeral (fun b hb => isNumeral_of_mem_ofInt hb) hword others
  have hnumber : ofInt m = ofInt n := by rw [← hread m rest, h, hread n behind]
  refine ⟨ofInt_inj.mp hnumber, ?_⟩
  rw [hnumber] at h
  exact List.append_cancel_left (List.append_cancel_left h)

/-- **A number can be told from the word in front of it,** where that does not end like a number:
then it is read from its end. -/
theorem append_ofInt_inj {m n : Int} {word front before : Bytes}
    (hword : word.getLast?.any (!isNumeral ·) = true)
    (h : front ++ word ++ ofInt m = before ++ word ++ ofInt n) : front = before ∧ m = n := by
  have hread (k : Int) (others : Bytes) :
      (others ++ word ++ ofInt k).reverse.takeWhile isNumeral = (ofInt k).reverse := by
    rw [List.reverse_append, List.reverse_append]
    apply takeWhile_isNumeral
    · intro b hb
      exact isNumeral_of_mem_ofInt (List.mem_reverse.mp hb)
    · rw [List.head?_reverse]
      exact hword
  have hnumber : ofInt m = ofInt n := by
    apply List.reverse_inj.mp
    rw [← hread m front, h, hread n before]
  refine ⟨?_, ofInt_inj.mp hnumber⟩
  rw [hnumber] at h
  exact List.append_cancel_right (List.append_cancel_right h)

end Decimal

end TracedPipe
