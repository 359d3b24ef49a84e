import TracedPipe.Text.Utf8

/-!
# Characters

Which byte strings are characters, and which are rows of them.
-/

namespace TracedPipe.Utf8

/-!
## Deciding well-formedness

`Utf8.isWellFormed` reads a byte string from left to right and takes the bytes that fit after each
lead byte. It finds a row of characters wherever there is one (`Utf8.isWellFormed_iff`): a lead byte
settles how many bytes its character has, so a row of characters can be cut in one way only.
-/

variable {ranges : List ByteRange}

/-- The bytes that fit are found, whatever comes after them. -/
theorem fitting_append {bytes : Bytes} (h : Fits ranges bytes) (rest : Bytes) :
    fitting ranges (bytes ++ rest) = bytes := by
  induction h with
  | nil => cases rest <;> rfl
  | cons first others ih => rw [List.cons_append, fitting, if_pos first, ih]

theorem length_of_fits {bytes : Bytes} (h : Fits ranges bytes) : bytes.length = ranges.length := by
  induction h with
  | nil => rfl
  | cons first others ih => rw [List.length_cons, List.length_cons, ih]

/-- If one byte was found for each range, then they fit. -/
theorem fits_fitting {bytes : Bytes} (h : (fitting ranges bytes).length = ranges.length) :
    Fits ranges (fitting ranges bytes) := by
  fun_induction fitting ranges bytes with
  | case1 range ranges b bytes hb ih => exact .cons hb (ih (Nat.succ.inj h))
  | case2 range ranges b bytes hb => cases h
  | case3 ranges bytes hempty =>
    cases ranges with
    | nil => exact .nil
    | cons range ranges => cases h

/-- A row of characters is empty or begins with one. -/
theorem WellFormed.first {bytes : Bytes} (h : WellFormed bytes) :
    bytes = [] ∨ ∃ character rest, bytes = character ++ rest ∧ IsCharacter character ∧
      WellFormed rest := by
  cases h with
  | nil => exact .inl rfl
  | cons first others => exact .inr ⟨_, _, rfl, first, others⟩

/-- **What comes first in a row of characters:** a lead byte, and the bytes that it asks for. -/
theorem wellFormed_cons_iff (lead : UInt8) (rest : Bytes) :
    WellFormed (lead :: rest) ↔
      ∃ ranges, followers lead = some ranges ∧ (fitting ranges rest).length = ranges.length ∧
        WellFormed (rest.drop ranges.length) := by
  constructor
  · -- A text with a first byte starts with a character, whose other bytes are those that fit.
    intro h
    rcases h.first with hnil | ⟨character, others, heq, @⟨lead', ranges, taken, row, fits⟩, hothers⟩
    · cases hnil
    · rw [List.cons_append, List.cons.injEq] at heq
      obtain ⟨rfl, rfl⟩ := heq
      have hlength := length_of_fits fits
      refine ⟨ranges, row, ?_, ?_⟩
      · rw [fitting_append fits, hlength]
      · rwa [← hlength, List.drop_left]
  · rintro ⟨ranges, row, hlength, hothers⟩
    -- The bytes that fit and those behind them are all there is.
    have hfront := fitting_prefix ranges rest
    have htake : fitting ranges rest = rest.take ranges.length := by
      rw [← hlength]
      exact List.prefix_iff_eq_take.mp hfront
    have hfits := fits_fitting hlength
    rw [htake] at hfits
    have hrow := WellFormed.cons (.mk row hfits) hothers
    rwa [List.cons_append, List.take_append_drop] at hrow

/-- **The decision is right:** it holds of the rows of characters and of nothing else. -/
theorem isWellFormed_iff (bytes : Bytes) : isWellFormed bytes = true ↔ WellFormed bytes := by
  -- Along the check itself: it looks at one character, and then at what is behind it.
  fun_induction isWellFormed bytes with
  | case1 => exact iff_of_true rfl .nil
  | case2 lead rest hrow =>
    -- No character begins with such a byte.
    rw [wellFormed_cons_iff, hrow]
    exact iff_of_false nofun (by rintro ⟨ranges, ⟨⟩, -⟩)
  | case3 lead rest ranges hrow hlength ih =>
    rw [ih, wellFormed_cons_iff, hrow]
    constructor
    · intro hothers
      exact ⟨ranges, rfl, hlength, hothers⟩
    · rintro ⟨_, ⟨⟩, -, hothers⟩
      exact hothers
  | case4 lead rest ranges hrow hlength =>
    -- The character is cut short.
    rw [wellFormed_cons_iff, hrow]
    refine iff_of_false nofun ?_
    rintro ⟨_, ⟨⟩, hfull, -⟩
    exact hlength hfull

/-!
## The characters are the encodings of the Unicode scalar values

The table of lead bytes (`Utf8.followers`) says which bytes may stand after which, byte by byte. The
standard says it by numbers: a scalar value is a number up to 10ffff that is no surrogate, and its
bytes are its bits, six to each byte after the first (`CodePoint.toBytes`). Both mean the same byte
strings.

The way between them is by length: a character has one to four bytes (`Utf8.Shape`), and where the
second byte is narrowed, the table leaves out a form that would be too long for its number, the
surrogates, and the numbers above 10ffff.

Main statements:

* `Utf8.isCharacter_iff` — the characters are the encodings of the scalar values;
* `Utf8.toBytes_ofBytes` — the number of a character has the bytes of that character.
-/

theorem ByteRange.contains_iff (range : ByteRange) (b : UInt8) :
    range.contains b = true ↔ range.low ≤ b.toNat ∧ b.toNat ≤ range.high := by
  rw [contains, Bool.and_eq_true, decide_eq_true_iff, decide_eq_true_iff]

/-! ### The table, length by length -/

/-- The range of the second byte of a character of three: no overlong form, no surrogate. -/
def secondOfThree (lead : UInt8) : ByteRange :=
  ⟨if lead.toNat = 0xe0 then 0xa0 else 0x80, if lead.toNat = 0xed then 0x9f else 0xbf⟩

/-- The range of the second byte of a character of four: no overlong form, no number above
10ffff. -/
def secondOfFour (lead : UInt8) : ByteRange :=
  ⟨if lead.toNat = 0xf0 then 0x90 else 0x80, if lead.toNat = 0xf4 then 0x8f else 0xbf⟩

section Table

variable {lead : UInt8}

theorem followers_one (h : lead.toNat < 0x80) : followers lead = some [] := by
  rw [followers, if_pos h]

theorem followers_two (h : 0xc2 ≤ lead.toNat ∧ lead.toNat < 0xe0) :
    followers lead = some [tail] := by
  rw [followers, if_neg (by omega), if_neg (by omega), if_pos h.2]

theorem followers_three (h : 0xe0 ≤ lead.toNat ∧ lead.toNat < 0xf0) :
    followers lead = some [secondOfThree lead, tail] := by
  rw [followers, if_neg (by omega), if_neg (by omega), if_neg (by omega), secondOfThree]
  by_cases he0 : lead.toNat = 0xe0
  · rw [if_pos he0, if_pos he0, if_neg (by omega)]
  by_cases hed : lead.toNat = 0xed
  · rw [if_neg he0, if_pos hed, if_neg he0, if_pos hed]
  · rw [if_neg he0, if_neg hed, if_neg he0, if_neg hed, if_pos h.2]
    rfl

theorem followers_four (h : 0xf0 ≤ lead.toNat ∧ lead.toNat < 0xf5) :
    followers lead = some [secondOfFour lead, tail, tail] := by
  rw [followers, if_neg (by omega), if_neg (by omega), if_neg (by omega), if_neg (by omega),
    if_neg (by omega), if_neg (by omega), secondOfFour]
  by_cases hf0 : lead.toNat = 0xf0
  · rw [if_pos hf0, if_pos hf0, if_neg (by omega)]
  by_cases hf4 : lead.toNat = 0xf4
  · rw [if_neg hf0, if_neg (by omega), if_pos hf4, if_neg hf0, if_pos hf4]
  · rw [if_neg hf0, if_pos (by omega), if_neg hf0, if_neg hf4]
    rfl

/-- No character begins with a continuation byte, with `c0` and `c1`, or with a byte above `f4`. -/
theorem followers_none (h : 0x80 ≤ lead.toNat ∧ lead.toNat < 0xc2 ∨ 0xf5 ≤ lead.toNat) :
    followers lead = none := by
  rw [followers, if_neg (by omega)]
  rcases h with h | h
  · rw [if_pos h.2]
  · rw [if_neg (by omega), if_neg (by omega), if_neg (by omega), if_neg (by omega),
      if_neg (by omega), if_neg (by omega), if_neg (by omega), if_neg (by omega)]

/-- **The rows of the table.** -/
theorem followers_cases {ranges : List ByteRange} (row : followers lead = some ranges) :
    lead.toNat < 0x80 ∧ ranges = [] ∨
    (0xc2 ≤ lead.toNat ∧ lead.toNat < 0xe0) ∧ ranges = [tail] ∨
    (0xe0 ≤ lead.toNat ∧ lead.toNat < 0xf0) ∧ ranges = [secondOfThree lead, tail] ∨
    (0xf0 ≤ lead.toNat ∧ lead.toNat < 0xf5) ∧ ranges = [secondOfFour lead, tail, tail] := by
  -- The rows of the table are told apart by the lead byte.
  by_cases hnone : 0x80 ≤ lead.toNat ∧ lead.toNat < 0xc2 ∨ 0xf5 ≤ lead.toNat
  · rw [followers_none hnone] at row
    cases row
  -- The lead bytes that are left, from low to high.
  by_cases hone : lead.toNat < 0x80
  · rw [followers_one hone] at row
    exact .inl ⟨hone, (Option.some.inj row).symm⟩
  by_cases htwo : lead.toNat < 0xe0
  · rw [followers_two (by omega)] at row
    exact .inr (.inl ⟨by omega, (Option.some.inj row).symm⟩)
  by_cases hthree : lead.toNat < 0xf0
  · rw [followers_three (by omega)] at row
    exact .inr (.inr (.inl ⟨by omega, (Option.some.inj row).symm⟩))
  · rw [followers_four (by omega)] at row
    exact .inr (.inr (.inr ⟨by omega, (Option.some.inj row).symm⟩))

/-- Every range of the table has a byte in it, and none that could be a character of its own. -/
theorem bounds_of_mem_followers {ranges : List ByteRange} (row : followers lead = some ranges)
    {range : ByteRange} (h : range ∈ ranges) :
    0x80 ≤ range.low ∧ range.low ≤ range.high ∧ range.high ≤ 0xbf := by
  -- The second byte has the narrowed ranges, against overlong forms, surrogates and numbers that
  -- are too high; they are within those of any tail.
  have hthree : 0x80 ≤ (secondOfThree lead).low ∧ (secondOfThree lead).low ≤
      (secondOfThree lead).high ∧ (secondOfThree lead).high ≤ 0xbf := by
    dsimp only [secondOfThree]
    split <;> split <;> omega
  have hfour : 0x80 ≤ (secondOfFour lead).low ∧ (secondOfFour lead).low ≤
      (secondOfFour lead).high ∧ (secondOfFour lead).high ≤ 0xbf := by
    dsimp only [secondOfFour]
    split <;> split <;> omega
  have htail : 0x80 ≤ tail.low ∧ tail.low ≤ tail.high ∧ tail.high ≤ 0xbf := by decide
  rcases followers_cases row with ⟨-, rfl⟩ | ⟨-, rfl⟩ | ⟨-, rfl⟩ | ⟨-, rfl⟩
  · exact absurd h List.not_mem_nil
  · obtain rfl := List.mem_singleton.mp h
    exact htail
  · simp only [List.mem_cons, List.not_mem_nil, or_false] at h
    rcases h with rfl | rfl
    · exact hthree
    · exact htail
  · simp only [List.mem_cons, List.not_mem_nil, or_false] at h
    rcases h with rfl | rfl | rfl
    · exact hfour
    · exact htail
    · exact htail

end Table

/-! ### Characters, length by length -/

/-- **The characters by their length,** with what is asked of their bytes. -/
inductive Shape : Bytes → Prop where
  | one {a : UInt8} (ha : a.toNat < 0x80) : Shape [a]
  | two {a b : UInt8} (ha : 0xc2 ≤ a.toNat ∧ a.toNat < 0xe0)
      (hb : 0x80 ≤ b.toNat ∧ b.toNat ≤ 0xbf) : Shape [a, b]
  | three {a b c : UInt8} (ha : 0xe0 ≤ a.toNat ∧ a.toNat < 0xf0)
      (hb : 0x80 ≤ b.toNat ∧ b.toNat ≤ 0xbf) (overlong : a.toNat = 0xe0 → 0xa0 ≤ b.toNat)
      (surrogate : a.toNat = 0xed → b.toNat ≤ 0x9f)
      (hc : 0x80 ≤ c.toNat ∧ c.toNat ≤ 0xbf) : Shape [a, b, c]
  | four {a b c d : UInt8} (ha : 0xf0 ≤ a.toNat ∧ a.toNat < 0xf5)
      (hb : 0x80 ≤ b.toNat ∧ b.toNat ≤ 0xbf) (overlong : a.toNat = 0xf0 → 0x90 ≤ b.toNat)
      (above : a.toNat = 0xf4 → b.toNat ≤ 0x8f) (hc : 0x80 ≤ c.toNat ∧ c.toNat ≤ 0xbf)
      (hd : 0x80 ≤ d.toNat ∧ d.toNat ≤ 0xbf) : Shape [a, b, c, d]

theorem fits_nil_iff (bytes : Bytes) : Fits [] bytes ↔ bytes = [] := by
  constructor
  · intro h
    cases h
    rfl
  · rintro rfl
    exact .nil

theorem fits_cons_iff (range : ByteRange) (ranges : List ByteRange) (bytes : Bytes) :
    Fits (range :: ranges) bytes ↔
      ∃ b rest, bytes = b :: rest ∧ (range.low ≤ b.toNat ∧ b.toNat ≤ range.high) ∧
        Fits ranges rest := by
  constructor
  · intro h
    cases h with
    | cons first others => exact ⟨_, _, rfl, (range.contains_iff _).mp first, others⟩
  · rintro ⟨b, rest, rfl, first, others⟩
    exact .cons ((range.contains_iff b).mpr first) others

theorem isCharacter_cons_iff (lead : UInt8) (rest : Bytes) :
    IsCharacter (lead :: rest) ↔ ∃ ranges, followers lead = some ranges ∧ Fits ranges rest := by
  constructor
  · rintro ⟨row, fits⟩
    exact ⟨_, row, fits⟩
  · rintro ⟨ranges, row, fits⟩
    exact .mk row fits

theorem mem_secondOfThree_iff (lead : UInt8) (n : Nat) :
    (secondOfThree lead).low ≤ n ∧ n ≤ (secondOfThree lead).high ↔
      (0x80 ≤ n ∧ n ≤ 0xbf) ∧ (lead.toNat = 0xe0 → 0xa0 ≤ n) ∧ (lead.toNat = 0xed → n ≤ 0x9f) := by
  dsimp only [secondOfThree]
  split <;> split <;> omega

theorem mem_secondOfFour_iff (lead : UInt8) (n : Nat) :
    (secondOfFour lead).low ≤ n ∧ n ≤ (secondOfFour lead).high ↔
      (0x80 ≤ n ∧ n ≤ 0xbf) ∧ (lead.toNat = 0xf0 → 0x90 ≤ n) ∧ (lead.toNat = 0xf4 → n ≤ 0x8f) := by
  dsimp only [secondOfFour]
  split <;> split <;> omega

/-- **The table admits these and no other.** -/
theorem isCharacter_iff_shape (bytes : Bytes) : IsCharacter bytes ↔ Shape bytes := by
  constructor
  · -- Each row fixes the length of the character, and the conditions on its bytes are those of the
    -- shape.
    rintro ⟨row, fits⟩
    rcases followers_cases row with ⟨ha, rfl⟩ | ⟨ha, rfl⟩ | ⟨ha, rfl⟩ | ⟨ha, rfl⟩
    · rw [fits_nil_iff] at fits
      subst fits
      exact .one ha
    · simp only [fits_cons_iff, fits_nil_iff] at fits
      obtain ⟨b, _, rfl, hb, rfl⟩ := fits
      exact .two ha hb
    · simp only [fits_cons_iff, fits_nil_iff, mem_secondOfThree_iff] at fits
      obtain ⟨b, _, rfl, ⟨hb, overlong, surrogate⟩, c, _, rfl, hc, rfl⟩ := fits
      exact .three ha hb overlong surrogate hc
    · simp only [fits_cons_iff, fits_nil_iff, mem_secondOfFour_iff] at fits
      obtain ⟨b, _, rfl, ⟨hb, overlong, above⟩, c, _, rfl, hc, d, _, rfl, hd, rfl⟩ := fits
      exact .four ha hb overlong above hc hd
  · -- Each shape has its row, and its bytes are in the ranges of that row.
    intro h
    cases h with
    | one ha => exact .mk (followers_one ha) .nil
    | two ha hb =>
      refine .mk (followers_two ha) ?_
      simp only [fits_cons_iff, fits_nil_iff]
      exact ⟨_, _, rfl, hb, rfl⟩
    | three ha hb overlong surrogate hc =>
      refine .mk (followers_three ha) ?_
      simp only [fits_cons_iff, fits_nil_iff, mem_secondOfThree_iff]
      exact ⟨_, _, rfl, ⟨hb, overlong, surrogate⟩, _, _, rfl, hc, rfl⟩
    | four ha hb overlong above hc hd =>
      refine .mk (followers_four ha) ?_
      simp only [fits_cons_iff, fits_nil_iff, mem_secondOfFour_iff]
      exact ⟨_, _, rfl, ⟨hb, overlong, above⟩, _, _, rfl, hc, _, _, rfl, hd, rfl⟩

/-- A character is a single ASCII byte, or it has more bytes and none of them is ASCII. -/
theorem IsCharacter.ascii_or_high {bytes : Bytes} (h : IsCharacter bytes) :
    (∃ a : UInt8, bytes = [a] ∧ a.toNat < 0x80) ∨
      (∃ a b rest, bytes = a :: b :: rest) ∧ ∀ b ∈ bytes, 0x80 ≤ b.toNat := by
  -- Of the four shapes only the first has a byte below 0x80, and only that one has no second byte.
  cases (isCharacter_iff_shape bytes).mp h with
  | one ha => exact .inl ⟨_, rfl, ha⟩
  | two ha hb =>
    refine .inr ⟨⟨_, _, _, rfl⟩, ?_⟩
    simp only [List.mem_cons, List.not_mem_nil, or_false]
    rintro _ (rfl | rfl) <;> omega
  | three ha hb overlong surrogate hc =>
    refine .inr ⟨⟨_, _, _, rfl⟩, ?_⟩
    simp only [List.mem_cons, List.not_mem_nil, or_false]
    rintro _ (rfl | rfl | rfl) <;> omega
  | four ha hb overlong above hc hd =>
    refine .inr ⟨⟨_, _, _, rfl⟩, ?_⟩
    simp only [List.mem_cons, List.not_mem_nil, or_false]
    rintro _ (rfl | rfl | rfl | rfl) <;> omega

/-! ### Numbers and their bytes -/

theorem byte_eq {n : Nat} {b : UInt8} (h : n = b.toNat) : UInt8.ofNat n = b := by
  rw [h, UInt8.ofNat_toNat]

/-- The number of a character is a scalar value, and has the bytes of that character. -/
theorem Shape.encodes {bytes : Bytes} (h : Shape bytes) :
    ∃ n, n = CodePoint.ofBytes bytes ∧ n.isValidChar ∧ CodePoint.toBytes n = bytes := by
  -- With the number spelled out, each byte comes back as one of its digits to the base 64.
  cases h with
  | @one a ha =>
    refine ⟨a.toNat, rfl, .inl (by omega), ?_⟩
    rw [CodePoint.toBytes, if_pos ha, byte_eq rfl]
  | @two a b ha hb =>
    refine ⟨(a.toNat - 0xc0) * 64 + (b.toNat - 0x80), rfl, .inl (by omega), ?_⟩
    rw [CodePoint.toBytes, if_neg (by omega), if_pos (by omega), byte_eq (b := a) (by omega),
      byte_eq (b := b) (by omega)]
  | @three a b c ha hb overlong surrogate hc =>
    -- That the number is no surrogate is what the condition on the second byte says; the same
    -- condition keeps out the overlong forms, so the number takes three bytes.
    refine ⟨((a.toNat - 0xe0) * 64 + (b.toNat - 0x80)) * 64 + (c.toNat - 0x80), rfl, ?_, ?_⟩
    · unfold Nat.isValidChar
      omega
    · rw [CodePoint.toBytes, if_neg (by omega), if_neg (by omega), if_pos (by omega),
        byte_eq (b := a) (by omega), byte_eq (b := b) (by omega), byte_eq (b := c) (by omega)]
  | @four a b c d ha hb overlong above hc hd =>
    -- Here the condition on the second byte keeps the number between 0x10000 and 0x10ffff.
    refine ⟨(((a.toNat - 0xf0) * 64 + (b.toNat - 0x80)) * 64 + (c.toNat - 0x80)) * 64
      + (d.toNat - 0x80), rfl, ?_, ?_⟩
    · unfold Nat.isValidChar
      omega
    · rw [CodePoint.toBytes, if_neg (by omega), if_neg (by omega), if_neg (by omega),
        byte_eq (b := a) (by omega), byte_eq (b := b) (by omega), byte_eq (b := c) (by omega),
        byte_eq (b := d) (by omega)]

/-- The bytes of a scalar value are a character. -/
theorem shape_toBytes {n : Nat} (h : n.isValidChar) : Shape (CodePoint.toBytes n) := by
  -- The bytes are given by their numbers, all below 256, so the conditions of the shape are
  -- arithmetic of `n`.
  have hbyte {m : Nat} (hm : m < 256) : (UInt8.ofNat m).toNat = m := UInt8.toNat_ofNat_of_lt hm
  unfold Nat.isValidChar at h
  unfold CodePoint.toBytes
  -- One byte, two, three and four, by the size of `n`.
  split
  · refine .one ?_
    rw [hbyte (by omega)]
    omega
  split
  · refine .two ?_ ?_
    · rw [hbyte (by omega)]
      omega
    · rw [hbyte (by omega)]
      omega
  split
  · have ha := hbyte (m := 0xe0 + n / 4096) (by omega)
    have hb := hbyte (m := 0x80 + n / 64 % 64) (by omega)
    have hc := hbyte (m := 0x80 + n % 64) (by omega)
    exact .three (by omega) (by omega) (by omega) (by omega) (by omega)
  · have ha := hbyte (m := 0xf0 + n / 262144) (by omega)
    have hb := hbyte (m := 0x80 + n / 4096 % 64) (by omega)
    have hc := hbyte (m := 0x80 + n / 64 % 64) (by omega)
    have hd := hbyte (m := 0x80 + n % 64) (by omega)
    exact .four (by omega) (by omega) (by omega) (by omega) (by omega) (by omega)

/-- The number of a character leads back to it. -/
theorem toBytes_ofBytes {bytes : Bytes} (h : IsCharacter bytes) :
    CodePoint.toBytes (CodePoint.ofBytes bytes) = bytes := by
  obtain ⟨n, rfl, -, hbytes⟩ := ((isCharacter_iff_shape bytes).mp h).encodes
  exact hbytes

/-- **The characters are the encodings of the scalar values.** -/
theorem isCharacter_iff (bytes : Bytes) :
    IsCharacter bytes ↔ ∃ n : Nat, n.isValidChar ∧ bytes = CodePoint.toBytes n := by
  rw [isCharacter_iff_shape]
  constructor
  · intro h
    obtain ⟨n, -, hvalid, hbytes⟩ := h.encodes
    exact ⟨n, hvalid, hbytes.symm⟩
  · rintro ⟨n, hvalid, rfl⟩
    exact shape_toBytes hvalid

end TracedPipe.Utf8
