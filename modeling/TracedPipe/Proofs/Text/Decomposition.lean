import TracedPipe.Proofs.Text.Characters

/-!
# Pieces and lossy text

What the pieces of a byte string are, and what making it lossy does to them.
-/

namespace TracedPipe.Utf8

/-!
## What the pieces of a byte string are

`Utf8.pieces` cuts a byte string by one look at the table of lead bytes after another. What the
pieces are is said here without the cutting, from the characters alone.

* `Utf8.IsMaximalInvalid` — a maximal invalid subpart: no character stands in its place, and it is
  the longest stretch there that begins a character, or one byte where nothing does.
* `Utf8.Decomposes` — a byte string falls from left to right into characters and maximal invalid
  subparts, with nothing between them and nothing left.

Main statement: `Utf8.decomposes_iff` — a byte string decomposes in exactly one way, which is
`Utf8.pieces`.
-/

/-- Whether bytes begin a character: with some more they are one. -/
def Begins (bytes : Bytes) : Prop := ∃ more, IsCharacter (bytes ++ more)

/-- **A maximal invalid subpart** of `part ++ rest`, at its beginning. -/
structure IsMaximalInvalid (part rest : Bytes) : Prop where
  nonempty : part ≠ []
  /-- No character stands here. -/
  noCharacter : ∀ character, IsCharacter character → ¬ character <+: part ++ rest
  begins : part.length = 1 ∨ Begins part
  /-- Nothing longer that stands here begins a character. -/
  longest : ∀ stretch, stretch <+: part ++ rest → Begins stretch → stretch.length ≤ part.length

/-- A piece in its place, with `rest` behind it. -/
inductive Piece.StandsBefore (rest : Bytes) : Piece → Prop where
  | character {bytes : Bytes} (h : IsCharacter bytes) : StandsBefore rest (.character bytes)
  | invalid {part : Bytes} (h : IsMaximalInvalid part rest) : StandsBefore rest (.invalid part)

/-- **A byte string falls into pieces,** from left to right. -/
inductive Decomposes : Bytes → List Piece → Prop where
  | nil : Decomposes [] []
  | cons {piece : Piece} {rest : Bytes} {others : List Piece} (first : piece.StandsBefore rest)
      (more : Decomposes rest others) : Decomposes (piece.bytes ++ rest) (piece :: others)

/-! ### Characters and their beginnings -/

theorem IsCharacter.ne_nil {bytes : Bytes} (h : IsCharacter bytes) : bytes ≠ [] := by
  cases h
  exact List.cons_ne_nil _ _

theorem begins_cons_iff (lead : UInt8) (taken : Bytes) :
    Begins (lead :: taken) ↔
      ∃ ranges, followers lead = some ranges ∧ ∃ more, Fits ranges (taken ++ more) := by
  constructor
  · rintro ⟨more, h⟩
    rw [List.cons_append, isCharacter_cons_iff] at h
    obtain ⟨ranges, row, fits⟩ := h
    exact ⟨ranges, row, more, fits⟩
  · rintro ⟨ranges, row, more, fits⟩
    exact ⟨more, .mk row fits⟩

/-- No character has another one as its beginning. -/
theorem IsCharacter.eq_of_append_eq {first second rest others : Bytes} (hfirst : IsCharacter first)
    (hsecond : IsCharacter second) (h : first ++ rest = second ++ others) : first = second := by
  obtain @⟨lead, ranges, taken, row, fits⟩ := hfirst
  obtain @⟨lead', ranges', taken', row', fits'⟩ := hsecond
  rw [List.cons_append, List.cons_append, List.cons.injEq] at h
  obtain ⟨rfl, h⟩ := h
  -- The same lead byte asks for the same number of bytes.
  obtain rfl : ranges = ranges' := Option.some.inj (row.symm.trans row')
  have hlength : taken.length = taken'.length := by
    rw [length_of_fits fits, length_of_fits fits']
  rw [(List.append_inj h hlength).1]

/-! ### The bytes that fit -/

variable {ranges : List ByteRange}

/-- What begins bytes that fit, and stands in front, is among the bytes found to fit. -/
theorem prefix_fitting {front more bytes : Bytes} (hfits : Fits ranges (front ++ more))
    (hfront : front <+: bytes) : front <+: fitting ranges bytes := by
  induction front generalizing ranges bytes with
  | nil => exact List.nil_prefix
  | cons b front ih =>
    obtain ⟨rest, rfl⟩ := hfront
    cases hfits with
    | cons first others =>
      rw [List.cons_append, fitting, if_pos first]
      exact List.cons_prefix_cons.mpr ⟨rfl, ih others (List.prefix_append front rest)⟩

/-- Some bytes fit ranges that have a byte in each of them. -/
theorem exists_fits (hranges : ∀ range ∈ ranges, ∃ b, range.contains b = true) :
    ∃ more, Fits ranges more := by
  induction ranges with
  | nil => exact ⟨[], .nil⟩
  | cons range ranges ih =>
    rw [List.forall_mem_cons] at hranges
    obtain ⟨b, hb⟩ := hranges.1
    obtain ⟨more, hmore⟩ := ih hranges.2
    exact ⟨b :: more, .cons hb hmore⟩

/-- Ranges that some byte lies in, each of them, can be filled up behind the bytes that fit. -/
theorem exists_fits_fitting (hranges : ∀ range ∈ ranges, ∃ b, range.contains b = true)
    (bytes : Bytes) : ∃ more, Fits ranges (fitting ranges bytes ++ more) := by
  -- Along the bytes that fit; where they end, the ranges that are left are filled.
  fun_induction fitting ranges bytes with
  | case1 range ranges b bytes hb ih =>
    obtain ⟨more, hmore⟩ := ih fun other hother => hranges other (List.mem_cons_of_mem range hother)
    exact ⟨more, .cons hb hmore⟩
  | case2 range ranges b bytes hb => exact exists_fits hranges
  | case3 ranges bytes hempty => exact exists_fits hranges

/-- Each range of the table has a byte in it. -/
theorem exists_of_mem_followers {lead : UInt8} (row : followers lead = some ranges) :
    ∀ range ∈ ranges, ∃ b, range.contains b = true := by
  intro range hrange
  obtain ⟨-, hle, hhigh⟩ := bounds_of_mem_followers row hrange
  have hbyte : range.low < 256 := by omega
  have hlow : (UInt8.ofNat range.low).toNat = range.low := UInt8.toNat_ofNat_of_lt hbyte
  refine ⟨UInt8.ofNat range.low, ?_⟩
  rw [ByteRange.contains_iff, hlow]
  exact ⟨Nat.le_refl _, hle⟩

/-! ### The first piece -/

/-- Where the byte in front begins no character, it is a maximal invalid subpart by itself. -/
theorem isMaximalInvalid_of_none {lead : UInt8} (row : followers lead = none) (rest : Bytes) :
    IsMaximalInvalid [lead] rest where
  nonempty := List.cons_ne_nil _ _
  -- A character would need a row for its lead byte, and so would the beginning of one.
  noCharacter := by
    rintro _ @⟨lead', ranges, taken, row', fits⟩ hfront
    rw [List.cons_append, List.cons_prefix_cons] at hfront
    obtain ⟨rfl, -⟩ := hfront
    rw [row] at row'
    cases row'
  begins := .inl rfl
  longest := by
    intro stretch hfront hbegins
    cases stretch with
    | nil => exact Nat.zero_le _
    | cons lead' taken =>
      rw [List.cons_append, List.cons_prefix_cons] at hfront
      obtain ⟨rfl, -⟩ := hfront
      obtain ⟨ranges, row', -⟩ := (begins_cons_iff lead' taken).mp hbegins
      rw [row] at row'
      cases row'

/-- Where a character is cut short, the bytes that fit are a maximal invalid subpart. -/
theorem isMaximalInvalid_of_short {lead : UInt8} (row : followers lead = some ranges)
    (bytes : Bytes) (hshort : (fitting ranges bytes).length ≠ ranges.length) :
    IsMaximalInvalid (lead :: fitting ranges bytes)
      (bytes.drop (fitting ranges bytes).length) := by
  have hwhole : lead :: fitting ranges bytes ++ bytes.drop (fitting ranges bytes).length
      = lead :: bytes := by
    have hfront := fitting_prefix ranges bytes
    rw [List.cons_append, List.prefix_iff_eq_append.mp hfront]
  refine ⟨List.cons_ne_nil _ _, ?_, .inr ?_, ?_⟩
  · -- A character would have taken one byte from each range.
    rintro _ @⟨lead', ranges', taken, row', fits⟩ hfront
    rw [hwhole, List.cons_prefix_cons] at hfront
    obtain ⟨rfl, rest, rfl⟩ := hfront
    obtain rfl : ranges = ranges' := Option.some.inj (row.symm.trans row')
    rw [fitting_append fits] at hshort
    exact hshort (length_of_fits fits)
  · -- Bytes can be found for the ranges that were not met, so the subpart begins a character.
    rw [begins_cons_iff]
    exact ⟨ranges, row, exists_fits_fitting (exists_of_mem_followers row) bytes⟩
  · -- What begins a character fits the same row, and the bytes that fit are the most that do.
    intro stretch hfront hbegins
    rw [hwhole] at hfront
    cases stretch with
    | nil => exact Nat.zero_le _
    | cons lead' taken =>
      rw [List.cons_prefix_cons] at hfront
      obtain ⟨rfl, hfront⟩ := hfront
      obtain ⟨ranges', row', more, fits⟩ := (begins_cons_iff lead' taken).mp hbegins
      obtain rfl : ranges = ranges' := Option.some.inj (row.symm.trans row')
      have hle := (prefix_fitting fits hfront).length_le
      rw [List.length_cons, List.length_cons]
      omega

/-- **The first piece is what stands in front.** -/
theorem firstPiece_standsBefore (lead : UInt8) (bytes : Bytes) :
    (firstPiece lead bytes).StandsBefore
      (bytes.drop ((firstPiece lead bytes).bytes.length - 1)) := by
  unfold firstPiece
  split
  · next row => exact .invalid (isMaximalInvalid_of_none row _)
  · next ranges row =>
    dsimp only
    split
    · next hfull => exact .character (.mk row (fits_fitting hfull))
    · next hshort => exact .invalid (isMaximalInvalid_of_short row bytes hshort)

/-! ### One decomposition and no other -/

theorem Piece.StandsBefore.ne_nil {piece : Piece} {rest : Bytes} (h : piece.StandsBefore rest) :
    piece.bytes ≠ [] := by
  cases h with
  | character h => exact h.ne_nil
  | invalid h => exact h.nonempty

/-- A maximal invalid subpart and another one in the same place have the same length. -/
theorem IsMaximalInvalid.length_le {part other rest others : Bytes} (h : IsMaximalInvalid part rest)
    (hother : IsMaximalInvalid other others) (heq : part ++ rest = other ++ others) :
    other.length ≤ part.length := by
  rcases hother.begins with hone | hbegins
  · -- A single byte is not longer than anything.
    have := List.length_pos_iff.mpr h.nonempty
    omega
  · refine h.longest other ?_ hbegins
    rw [heq]
    exact List.prefix_append other others

/-- No character stands in the place of a maximal invalid subpart. -/
theorem IsMaximalInvalid.ne_of_isCharacter {part rest character others : Bytes}
    (h : IsMaximalInvalid part rest) (hcharacter : IsCharacter character) :
    character ++ others ≠ part ++ rest := by
  intro heq
  refine h.noCharacter character hcharacter ?_
  rw [← heq]
  exact List.prefix_append character others

/-- **No ASCII byte is part of a maximal invalid subpart:** it would be a character. -/
theorem IsMaximalInvalid.high {part rest : Bytes} (h : IsMaximalInvalid part rest) :
    ∀ b ∈ part, 0x80 ≤ b.toNat := by
  -- So the subpart is not a single ASCII byte.
  have hsingle (a : UInt8) (heq : part = [a]) : 0x80 ≤ a.toNat := by
    refine Nat.not_lt.mp ?_
    intro hlt
    have hcharacter : IsCharacter [a] := .mk (followers_one hlt) .nil
    refine h.noCharacter [a] hcharacter ?_
    rw [heq]
    exact List.prefix_append [a] rest
  -- Either the subpart is one byte, or it begins a character; if that character is ASCII, the
  -- subpart is one byte again.
  rcases h.begins with hone | ⟨more, hcharacter⟩
  · obtain ⟨a, rfl⟩ := List.length_eq_one_iff.mp hone
    intro b hb
    rw [List.mem_singleton.mp hb]
    exact hsingle a rfl
  · rcases hcharacter.ascii_or_high with ⟨a, heq, -⟩ | ⟨-, hhigh⟩
    · rcases List.append_eq_singleton_iff.mp heq with ⟨hnil, -⟩ | ⟨hpart, -⟩
      · exact absurd hnil h.nonempty
      · intro b hb
        rw [hpart] at hb
        rw [List.mem_singleton.mp hb]
        exact hsingle a hpart
    · -- All bytes of a longer character are high, those of its beginning too.
      intro b hb
      exact hhigh b (List.mem_append_left more hb)

/-- **What stands in front is settled by the bytes.** -/
theorem Piece.StandsBefore.unique {piece other : Piece} {rest others : Bytes}
    (h : piece.StandsBefore rest) (hother : other.StandsBefore others)
    (heq : piece.bytes ++ rest = other.bytes ++ others) : piece = other ∧ rest = others := by
  -- One sort of piece is never a prefix of the other; two of a sort that start the same row of
  -- bytes are equally long.
  cases h with
  | character h =>
    cases hother with
    | character hother =>
      obtain rfl := h.eq_of_append_eq hother heq
      exact ⟨rfl, List.append_cancel_left heq⟩
    | invalid hother => exact absurd heq (hother.ne_of_isCharacter h)
  | invalid h =>
    cases hother with
    | character hother => exact absurd heq.symm (h.ne_of_isCharacter hother)
    | invalid hother =>
      -- Each of the two is a longest subpart, so neither is shorter.
      have hlength := Nat.le_antisymm (hother.length_le h heq.symm) (h.length_le hother heq)
      obtain ⟨rfl, rfl⟩ := List.append_inj heq hlength
      exact ⟨rfl, rfl⟩

/-- **The pieces are a decomposition.** -/
theorem decomposes_pieces (bytes : Bytes) : Decomposes bytes (pieces bytes) := by
  fun_induction pieces bytes with
  | case1 => exact .nil
  | case2 lead rest piece ih =>
    -- The piece and what comes behind it are the bytes that were there.
    have hfirst := firstPiece_standsBefore lead rest
    have hdecomposes := Decomposes.cons hfirst ih
    obtain ⟨taken, hbytes, more, rfl⟩ := firstPiece_bytes lead rest
    have hwhole : piece.bytes ++ (taken ++ more).drop (piece.bytes.length - 1)
        = lead :: (taken ++ more) := by
      rw [show piece.bytes = lead :: taken from hbytes, List.length_cons, Nat.add_sub_cancel,
        List.drop_left, List.cons_append]
    rwa [hwhole] at hdecomposes

/-- What a decomposition begins with. -/
theorem Decomposes.cases_append {bytes : Bytes} {list : List Piece} (h : Decomposes bytes list) :
    (bytes = [] ∧ list = []) ∨ ∃ piece rest others, bytes = piece.bytes ++ rest ∧
      list = piece :: others ∧ piece.StandsBefore rest ∧ Decomposes rest others := by
  cases h with
  | nil => exact .inl ⟨rfl, rfl⟩
  | cons first more => exact .inr ⟨_, _, _, rfl, rfl, first, more⟩

theorem Decomposes.unique {bytes : Bytes} {list other : List Piece} (h : Decomposes bytes list)
    (hother : Decomposes bytes other) : list = other := by
  induction h generalizing other with
  | nil =>
    rcases hother.cases_append with ⟨-, rfl⟩ | ⟨piece, rest, others, hnil, -, hfirst, -⟩
    · rfl
    · exact absurd (List.append_eq_nil_iff.mp hnil.symm).1 hfirst.ne_nil
  | cons first more ih =>
    rcases hother.cases_append with ⟨hnil, -⟩ | ⟨piece, rest, others, heq, rfl, hfirst, hmore⟩
    · exact absurd (List.append_eq_nil_iff.mp hnil).1 first.ne_nil
    · obtain ⟨rfl, rfl⟩ := first.unique hfirst heq
      rw [ih hmore]

/-- **A byte string decomposes in one way,** into its pieces. -/
theorem decomposes_iff (bytes : Bytes) (list : List Piece) :
    Decomposes bytes list ↔ list = pieces bytes := by
  constructor
  · intro h
    exact h.unique (decomposes_pieces bytes)
  · rintro rfl
    exact decomposes_pieces bytes

/-- What is in front comes first among the pieces. -/
theorem pieces_append_of_standsBefore {piece : Piece} {rest : Bytes} (h : piece.StandsBefore rest) :
    pieces (piece.bytes ++ rest) = piece :: pieces rest :=
  ((decomposes_iff _ _).mp (.cons h (decomposes_pieces rest))).symm

/-!
## Lossy text

What `Utf8.lossy` does to a byte string, beyond its pieces.

* `wellFormed_lossy` — it always gives a row of characters;
* `lossy_eq_self_iff`, `lossy_lossy` — it changes everything but rows of characters, and so changes
  nothing twice;
* `lossy_append` — a row of characters in front can be taken off;
* `pieces_lossy` — the result has one character for each piece, the character itself or U+FFFD. A
  text that came out without U+FFFD was therefore well-formed from the start
  (`wellFormed_of_lossy`).
-/

/-! ### Rows of characters -/

/-- A character in front is the first piece, whatever comes behind it. -/
theorem pieces_character {character : Bytes} (h : IsCharacter character) (rest : Bytes) :
    pieces (character ++ rest) = .character character :: pieces rest :=
  pieces_append_of_standsBefore (.character h)

/-- The pieces of a row of characters and of what comes behind it. -/
theorem pieces_append {front : Bytes} (h : WellFormed front) (rest : Bytes) :
    pieces (front ++ rest) = pieces front ++ pieces rest := by
  induction h with
  | nil => rw [pieces, List.nil_append, List.nil_append]
  | cons first more ih =>
    rw [List.append_assoc, pieces_character first, pieces_character first, ih, List.cons_append]

/-- A character in front stays as it is. -/
theorem lossy_character {character : Bytes} (h : IsCharacter character) (rest : Bytes) :
    lossy (character ++ rest) = character ++ lossy rest := by
  rw [lossy, pieces_character h, List.flatMap_cons]
  rfl

/-- **A row of characters in front stays as it is,** and what comes behind it does not see it. -/
theorem lossy_append {front : Bytes} (h : WellFormed front) (rest : Bytes) :
    lossy (front ++ rest) = lossy front ++ lossy rest := by
  rw [lossy, pieces_append h, List.flatMap_append]
  rfl

theorem lossy_of_wellFormed {bytes : Bytes} (h : WellFormed bytes) : lossy bytes = bytes := by
  induction h with
  | nil => rw [lossy, pieces, List.flatMap_nil]
  | cons first more ih => rw [lossy_character first, ih]

/-! ### Each piece becomes a character -/

theorem isCharacter_replacement : IsCharacter replacement :=
  (isCharacter_iff replacement).mpr ⟨0xfffd, .inr ⟨by decide, by decide⟩, by decide⟩

theorem Piece.StandsBefore.isCharacter_lossy {piece : Piece} {rest : Bytes}
    (h : piece.StandsBefore rest) : IsCharacter piece.lossy := by
  cases h with
  | character h => exact h
  | invalid h => exact isCharacter_replacement

/-- The text of a decomposition is a row of characters, one for each piece. -/
theorem Decomposes.lossy {bytes : Bytes} {list : List Piece} (h : Decomposes bytes list) :
    WellFormed (list.flatMap Piece.lossy) ∧
      pieces (list.flatMap Piece.lossy) = list.map fun piece => .character piece.lossy := by
  induction h with
  | nil =>
    refine ⟨.nil, ?_⟩
    rw [List.flatMap_nil, pieces, List.map_nil]
  | cons first more ih =>
    have hfirst := first.isCharacter_lossy
    rw [List.flatMap_cons]
    refine ⟨.cons hfirst ih.1, ?_⟩
    rw [pieces_character hfirst, ih.2, List.map_cons]

/-- **Lossy text is well-formed,** always. -/
theorem wellFormed_lossy (bytes : Bytes) : WellFormed (lossy bytes) :=
  (decomposes_pieces bytes).lossy.1

/-- Lossy text has one character for each piece. -/
theorem pieces_lossy (bytes : Bytes) :
    pieces (lossy bytes) = (pieces bytes).map fun piece => .character piece.lossy :=
  (decomposes_pieces bytes).lossy.2

/-- **The texts that stay as they are** are the rows of characters. -/
theorem lossy_eq_self_iff (bytes : Bytes) : lossy bytes = bytes ↔ WellFormed bytes := by
  constructor
  · intro h
    rw [← h]
    exact wellFormed_lossy bytes
  · exact lossy_of_wellFormed

theorem lossy_lossy (bytes : Bytes) : lossy (lossy bytes) = lossy bytes :=
  lossy_of_wellFormed (wellFormed_lossy bytes)

/-! ### Texts without replacement characters -/

theorem Decomposes.wellFormed {bytes : Bytes} {list : List Piece} (h : Decomposes bytes list)
    (hvalid : ∀ part, .invalid part ∉ list) : WellFormed bytes := by
  induction h with
  | nil => exact .nil
  | cons first more ih =>
    cases first with
    | character h =>
      exact .cons h (ih fun part hpart => hvalid part (List.mem_cons_of_mem _ hpart))
    | invalid h => exact absurd List.mem_cons_self (hvalid _)

/-- **A text without replacement characters was well-formed before:** nothing was replaced. -/
theorem wellFormed_of_lossy {bytes : Bytes}
    (h : .character replacement ∉ pieces (lossy bytes)) : WellFormed bytes := by
  refine (decomposes_pieces bytes).wellFormed ?_
  intro part hpart
  rw [pieces_lossy] at h
  exact h (List.mem_map.mpr ⟨.invalid part, hpart, rfl⟩)

end TracedPipe.Utf8
