import Mathlib.Data.List.Basic
import Mathlib.Tactic.SplitIfs
import Rechristen.Text.Encoding

/-!
# Reading bytes as UTF-8

A text that was written as UTF-8 is read back.  Bytes that are no written text are read all the
same: characters that stand there are read as what they are, and every longest stretch with which a
character could have begun, but did not, is read as one replacement character.

The reader goes byte by byte.  `Tracks p begun` says what its state `p` knows about the bytes
`begun` that were read of a character: which bytes complete them to a character, and to which one.
A first byte begins to track (`beginChar_cases`), a byte in the range keeps it up (`Tracks.after`).
-/

namespace Rechristen

namespace Text

open String (utf8EncodeChar)

/-! ## The bytes of a character -/

/-- The numbers of the bytes of a character. -/
def codes (v : Nat) : List Nat :=
  if v < 0x80 then [v]
  else if v < 0x800 then [0xc0 + v / 64, 0x80 + v % 64]
  else if v < 0x10000 then [0xe0 + v / 4096, 0x80 + v / 64 % 64, 0x80 + v % 64]
  else [0xf0 + v / 262144, 0x80 + v / 4096 % 64, 0x80 + v / 64 % 64, 0x80 + v % 64]

theorem toNat_valid (c : Char) : c.toNat < 0xd800 ∨ 0xdfff < c.toNat ∧ c.toNat < 0x110000 :=
  c.valid

theorem map_toNat_utf8EncodeChar (c : Char) :
    (utf8EncodeChar c).map UInt8.toNat = codes c.toNat := by
  have hvalid := toNat_valid c
  have hval : c.val.toNat = c.toNat := rfl
  unfold utf8EncodeChar codes
  rw [hval]
  generalize c.toNat = v at hvalid
  dsimp only
  split_ifs <;> simp <;> omega

/-- Bytes are those of a character if their numbers are. -/
theorem utf8EncodeChar_eq_iff {c : Char} {bytes : Bytes} :
    utf8EncodeChar c = bytes ↔ codes c.toNat = bytes.map UInt8.toNat := by
  rw [← map_toNat_utf8EncodeChar]
  constructor
  · intro heq
    rw [heq]
  · intro hmap
    exact List.map_injective_iff.2 (fun _ _ => UInt8.toNat_inj.1) hmap

/-- What the bytes of a character tell about it, by their number. -/
theorem utf8EncodeChar_cons {c : Char} {b : UInt8} {rest : Bytes}
    (hencode : utf8EncodeChar c = b :: rest) :
    (c.toNat < 0x80 ∧ b.toNat = c.toNat ∧ rest = []) ∨
    (∃ b₁, 0x80 ≤ c.toNat ∧ c.toNat < 0x800 ∧ rest = [b₁] ∧ b.toNat = 0xc0 + c.toNat / 64 ∧
      b₁.toNat = 0x80 + c.toNat % 64) ∨
    (∃ b₁ b₂, 0x800 ≤ c.toNat ∧ c.toNat < 0x10000 ∧ rest = [b₁, b₂] ∧
      b.toNat = 0xe0 + c.toNat / 4096 ∧ b₁.toNat = 0x80 + c.toNat / 64 % 64 ∧
      b₂.toNat = 0x80 + c.toNat % 64) ∨
    (∃ b₁ b₂ b₃, 0x10000 ≤ c.toNat ∧ rest = [b₁, b₂, b₃] ∧ b.toNat = 0xf0 + c.toNat / 262144 ∧
      b₁.toNat = 0x80 + c.toNat / 4096 % 64 ∧ b₂.toNat = 0x80 + c.toNat / 64 % 64 ∧
      b₃.toNat = 0x80 + c.toNat % 64) := by
  rw [utf8EncodeChar_eq_iff, List.map_cons, codes] at hencode
  split_ifs at hencode with hone htwo hthree
  · obtain ⟨hb, hrest⟩ := List.cons.inj hencode
    exact Or.inl ⟨hone, hb.symm, List.map_eq_nil_iff.1 hrest.symm⟩
  · obtain ⟨hb, hrest⟩ := List.cons.inj hencode
    obtain ⟨b₁, rfl, hb₁⟩ := List.map_eq_singleton_iff.1 hrest.symm
    exact Or.inr (Or.inl ⟨b₁, by omega, htwo, rfl, hb.symm, hb₁⟩)
  · obtain ⟨hb, hrest⟩ := List.cons.inj hencode
    obtain ⟨b₁, rest, rfl, hb₁, hrest⟩ := List.map_eq_cons_iff.1 hrest.symm
    obtain ⟨b₂, rfl, hb₂⟩ := List.map_eq_singleton_iff.1 hrest
    exact Or.inr (Or.inr (Or.inl ⟨b₁, b₂, by omega, hthree, rfl, hb.symm, hb₁, hb₂⟩))
  · obtain ⟨hb, hrest⟩ := List.cons.inj hencode
    obtain ⟨b₁, rest, rfl, hb₁, hrest⟩ := List.map_eq_cons_iff.1 hrest.symm
    obtain ⟨b₂, rest, rfl, hb₂, hrest⟩ := List.map_eq_cons_iff.1 hrest
    obtain ⟨b₃, rfl, hb₃⟩ := List.map_eq_singleton_iff.1 hrest
    exact Or.inr (Or.inr (Or.inr ⟨b₁, b₂, b₃, by omega, rfl, hb.symm, hb₁, hb₂, hb₃⟩))

/-! ## What is owed -/

/-- After a byte in the range one byte less is owed. -/
def Partial.after (p : Partial) (b : UInt8) : Partial :=
  ⟨p.owed - 1, 0x80, 0xbf, p.bits * 64 + (b.toNat - 0x80)⟩

/-- The bytes are what is owed: as many of them, and each in its range. -/
def Partial.Fits (p : Partial) : Bytes → Prop
  | [] => p.owed = 0
  | b :: rest => 0 < p.owed ∧ p.low ≤ b ∧ b ≤ p.high ∧ (p.after b).Fits rest

/-- The number of the character that bytes complete. -/
def Partial.value (p : Partial) : Bytes → Nat
  | [] => p.bits
  | b :: rest => (p.after b).value rest

theorem Partial.Fits.length_eq {p : Partial} {bytes : Bytes} (hfits : p.Fits bytes) :
    bytes.length = p.owed := by
  induction bytes generalizing p with
  | nil => exact hfits.symm
  | cons b rest ih =>
      obtain ⟨howed, -, -, hrest⟩ := hfits
      have hlength := ih hrest
      rw [Partial.after] at hlength
      rw [List.length_cons]
      dsimp only at hlength
      omega

/-- In the ordinary range, as many bytes are owed as there are, and each continues a character. -/
theorem Partial.fits_ordinary {n bits : Nat} {bytes : Bytes} (hlength : bytes.length = n)
    (hrange : ∀ b ∈ bytes, 0x80 ≤ b.toNat ∧ b.toNat ≤ 0xbf) :
    Partial.Fits ⟨n, 0x80, 0xbf, bits⟩ bytes := by
  induction bytes generalizing n bits with
  | nil => exact hlength.symm
  | cons b rest ih =>
      obtain ⟨⟨hlow, hhigh⟩, hrest⟩ := List.forall_mem_cons.1 hrange
      rw [List.length_cons] at hlength
      exact ⟨by dsimp only; omega, UInt8.le_iff_toNat_le.2 hlow, UInt8.le_iff_toNat_le.2 hhigh,
        ih (by dsimp only; omega) hrest⟩

theorem Partial.fits_replicate (n bits : Nat) :
    Partial.Fits ⟨n, 0x80, 0xbf, bits⟩ (List.replicate n 0x80) := by
  refine Partial.fits_ordinary List.length_replicate fun b hb => ?_
  rw [List.eq_of_mem_replicate hb]
  decide

/-- The state `p` knows about the bytes `begun` of a character what completes them, and to which
character. -/
structure Tracks (p : Partial) (begun : Bytes) : Prop where
  completes : ∀ rest, p.Fits rest → ∃ c, utf8EncodeChar c = begun ++ rest
  only : ∀ c rest, utf8EncodeChar c = begun ++ rest → p.Fits rest ∧ c.toNat = p.value rest
  possible : ∃ rest, p.Fits rest

theorem Tracks.after {p : Partial} {begun : Bytes} (htracks : Tracks p begun) {b : UInt8}
    (howed : 0 < p.owed) (hlow : p.low ≤ b) (hhigh : b ≤ p.high) :
    Tracks (p.after b) (begun ++ [b]) where
  completes rest hfits := by
    rw [List.append_assoc]
    exact htracks.completes (b :: rest) ⟨howed, hlow, hhigh, hfits⟩
  only c rest hencode := by
    rw [List.append_assoc] at hencode
    obtain ⟨⟨-, -, -, hfits⟩, hvalue⟩ := htracks.only c (b :: rest) hencode
    exact ⟨hfits, hvalue⟩
  possible := ⟨_, Partial.fits_replicate _ _⟩

/-- The state after the last byte of a character has its number. -/
theorem Tracks.ofNat_bits {p : Partial} {begun : Bytes} (htracks : Tracks p begun) {c : Char}
    (hencode : utf8EncodeChar c = begun) : Char.ofNat p.bits = c := by
  have hvalue : c.toNat = p.bits := (htracks.only c [] (by rw [hencode, List.append_nil])).2
  rw [← hvalue, Char.ofNat_toNat]

/-! ## The first byte -/

/-- The character with a number that has these bytes. -/
theorem exists_char {v : Nat} {bytes : Bytes}
    (hvalid : v < 0xd800 ∨ 0xdfff < v ∧ v < 0x110000) (hcodes : codes v = bytes.map UInt8.toNat) :
    ∃ c, utf8EncodeChar c = bytes :=
  ⟨Char.ofNatAux v hvalid, utf8EncodeChar_eq_iff.2 hcodes⟩

theorem tracks_one {b : UInt8} (hhigh : b.toNat < 0x80) :
    Tracks ⟨0, 0x80, 0xbf, b.toNat⟩ [b] where
  completes rest hfits := by
    obtain rfl : rest = [] := List.length_eq_zero_iff.1 hfits.length_eq
    refine exists_char (v := b.toNat) (by omega) ?_
    rw [codes, if_pos hhigh]
    rfl
  only c rest hencode := by
    have hvalid := toNat_valid c
    rcases utf8EncodeChar_cons hencode with ⟨-, hb, rfl⟩ | ⟨b₁, -, -, -, hb, -⟩ |
      ⟨b₁, b₂, -, -, -, hb, -⟩ | ⟨b₁, b₂, b₃, -, -, hb, -⟩
    · exact ⟨rfl, hb.symm⟩
    all_goals omega
  possible := ⟨[], rfl⟩

theorem tracks_two {b : UInt8} (hlow : 0xc2 ≤ b.toNat) (hhigh : b.toNat < 0xe0) :
    Tracks ⟨1, 0x80, 0xbf, b.toNat - 0xc0⟩ [b] where
  completes rest hfits := by
    match rest, hfits with
    | [b₁], ⟨_, hlow₁, hhigh₁, _⟩ =>
      replace hlow₁ : 0x80 ≤ b₁.toNat := hlow₁
      replace hhigh₁ : b₁.toNat ≤ 0xbf := hhigh₁
      refine exists_char (v := (b.toNat - 0xc0) * 64 + (b₁.toNat - 0x80)) (by omega) ?_
      rw [codes, if_neg (by omega), if_pos (by omega)]
      simp only [List.map_cons, List.map_nil, List.singleton_append, List.cons.injEq, and_true]
      omega
  only c rest hencode := by
    have hvalid := toNat_valid c
    rcases utf8EncodeChar_cons hencode with ⟨hmax, hb, -⟩ | ⟨b₁, hmin, hmax, rfl, hb, hb₁⟩ |
      ⟨b₁, b₂, hmin, -, -, hb, -⟩ | ⟨b₁, b₂, b₃, hmin, -, hb, -⟩
    case inr.inl =>
      refine ⟨Partial.fits_ordinary rfl ?_, ?_⟩
      · rw [List.forall_mem_singleton]
        omega
      · simp only [Partial.value, Partial.after]
        omega
    all_goals omega
  possible := ⟨_, Partial.fits_replicate 1 _⟩

theorem tracks_three {b low high : UInt8} (hfirst : 0xe0 ≤ b.toNat) (hlast : b.toNat < 0xf0)
    (hlow : low.toNat = if b.toNat = 0xe0 then 0xa0 else 0x80)
    (hhigh : high.toNat = if b.toNat = 0xed then 0x9f else 0xbf) :
    Tracks ⟨2, low, high, b.toNat - 0xe0⟩ [b] where
  completes rest hfits := by
    match rest, hfits with
    | [b₁, b₂], ⟨_, hlow₁, hhigh₁, _, hlow₂, hhigh₂, _⟩ =>
      replace hlow₁ : low.toNat ≤ b₁.toNat := hlow₁
      replace hhigh₁ : b₁.toNat ≤ high.toNat := hhigh₁
      replace hlow₂ : 0x80 ≤ b₂.toNat := hlow₂
      replace hhigh₂ : b₂.toNat ≤ 0xbf := hhigh₂
      -- The bounds of the second byte keep out numbers that two bytes would do for, and surrogates.
      refine exists_char
        (v := ((b.toNat - 0xe0) * 64 + (b₁.toNat - 0x80)) * 64 + (b₂.toNat - 0x80)) ?_ ?_
      · split_ifs at hlow hhigh <;> omega
      · rw [codes, if_neg (by split_ifs at hlow hhigh <;> omega),
          if_neg (by split_ifs at hlow hhigh <;> omega), if_pos (by split_ifs at hhigh <;> omega)]
        simp only [List.map_cons, List.map_nil, List.singleton_append, List.cons.injEq, and_true]
        split_ifs at hlow hhigh <;> omega
  only c rest hencode := by
    have hvalid := toNat_valid c
    rcases utf8EncodeChar_cons hencode with ⟨hmax, hb, -⟩ | ⟨b₁, -, hmax, -, hb, -⟩ |
      ⟨b₁, b₂, hmin, hmax, rfl, hb, hb₁, hb₂⟩ | ⟨b₁, b₂, b₃, hmin, -, hb, -⟩
    case inr.inr.inl =>
      refine ⟨⟨Nat.two_pos, UInt8.le_iff_toNat_le.2 ?_, UInt8.le_iff_toNat_le.2 ?_,
        Partial.fits_ordinary rfl ?_⟩, ?_⟩
      · dsimp only
        split_ifs at hlow <;> omega
      · dsimp only
        split_ifs at hhigh <;> omega
      · rw [List.forall_mem_singleton]
        omega
      · simp only [Partial.value, Partial.after]
        omega
    all_goals omega
  possible := ⟨low :: [0x80], Nat.two_pos, UInt8.le_refl _,
    UInt8.le_iff_toNat_le.2 (by dsimp only; split_ifs at hlow hhigh <;> omega),
    Partial.fits_replicate 1 _⟩

theorem tracks_four {b low high : UInt8} (hfirst : 0xf0 ≤ b.toNat) (hlast : b.toNat < 0xf5)
    (hlow : low.toNat = if b.toNat = 0xf0 then 0x90 else 0x80)
    (hhigh : high.toNat = if b.toNat = 0xf4 then 0x8f else 0xbf) :
    Tracks ⟨3, low, high, b.toNat - 0xf0⟩ [b] where
  completes rest hfits := by
    match rest, hfits with
    | [b₁, b₂, b₃], ⟨_, hlow₁, hhigh₁, _, hlow₂, hhigh₂, _, hlow₃, hhigh₃, _⟩ =>
      replace hlow₁ : low.toNat ≤ b₁.toNat := hlow₁
      replace hhigh₁ : b₁.toNat ≤ high.toNat := hhigh₁
      replace hlow₂ : 0x80 ≤ b₂.toNat := hlow₂
      replace hhigh₂ : b₂.toNat ≤ 0xbf := hhigh₂
      replace hlow₃ : 0x80 ≤ b₃.toNat := hlow₃
      replace hhigh₃ : b₃.toNat ≤ 0xbf := hhigh₃
      -- Here they keep out numbers that three bytes would do for, and those past the last
      -- character.
      refine exists_char
        (v := (((b.toNat - 0xf0) * 64 + (b₁.toNat - 0x80)) * 64 + (b₂.toNat - 0x80)) * 64 +
          (b₃.toNat - 0x80)) ?_ ?_
      · split_ifs at hlow hhigh <;> omega
      · rw [codes, if_neg (by split_ifs at hlow <;> omega), if_neg (by split_ifs at hlow <;> omega),
          if_neg (by split_ifs at hlow <;> omega)]
        simp only [List.map_cons, List.map_nil, List.singleton_append, List.cons.injEq, and_true]
        split_ifs at hlow hhigh <;> omega
  only c rest hencode := by
    have hvalid := toNat_valid c
    rcases utf8EncodeChar_cons hencode with ⟨hmax, hb, -⟩ | ⟨b₁, -, hmax, -, hb, -⟩ |
      ⟨b₁, b₂, -, hmax, -, hb, -⟩ | ⟨b₁, b₂, b₃, hmin, rfl, hb, hb₁, hb₂, hb₃⟩
    case inr.inr.inr =>
      refine ⟨⟨Nat.succ_pos 2, UInt8.le_iff_toNat_le.2 ?_, UInt8.le_iff_toNat_le.2 ?_,
        Partial.fits_ordinary rfl ?_⟩, ?_⟩
      · dsimp only
        split_ifs at hlow <;> omega
      · dsimp only
        split_ifs at hhigh <;> omega
      · rw [List.forall_mem_cons, List.forall_mem_singleton]
        omega
      · simp only [Partial.value, Partial.after]
        omega
    all_goals omega
  possible := ⟨low :: [0x80, 0x80], Nat.succ_pos 2, UInt8.le_refl _,
    UInt8.le_iff_toNat_le.2 (by dsimp only; split_ifs at hlow hhigh <;> omega),
    Partial.fits_replicate 2 _⟩

/-- A first byte is a character of its own, or no character begins with it, or the state after it
tracks it. -/
theorem beginChar_cases (b : UInt8) :
    (beginChar b = ([Char.ofNat b.toNat], .idle) ∧ Tracks ⟨0, 0x80, 0xbf, b.toNat⟩ [b]) ∨
    (beginChar b = ([replacement], .idle) ∧ ∀ c rest, utf8EncodeChar c ≠ b :: rest) ∨
    ∃ p, beginChar b = ([], p) ∧ 0 < p.owed ∧ Tracks p [b] := by
  have hlead : ∀ c rest, utf8EncodeChar c = b :: rest →
      b.toNat < 0x80 ∨ 0xc2 ≤ b.toNat ∧ b.toNat < 0xf5 := by
    intro c rest hencode
    have hvalid := toNat_valid c
    rcases utf8EncodeChar_cons hencode with ⟨hmax, hb, -⟩ | ⟨b₁, hmin, hmax, -, hb, -⟩ |
      ⟨b₁, b₂, -, hmax, -, hb, -⟩ | ⟨b₁, b₂, b₃, -, -, hb, -⟩ <;> omega
  -- The branches are the ranges of the first byte; the two that no character begins with are ruled
  -- out above.
  unfold beginChar
  simp only [UInt8.lt_iff_toNat_lt, UInt8.reduceToNat]
  split
  case isTrue hascii => exact Or.inl ⟨rfl, tracks_one hascii⟩
  split
  case isTrue hlow =>
    refine Or.inr (Or.inl ⟨rfl, fun c rest hencode => ?_⟩)
    have hb := hlead c rest hencode
    omega
  split
  case isTrue htwo => exact Or.inr (Or.inr ⟨_, rfl, Nat.one_pos, tracks_two (by omega) htwo⟩)
  split
  case isTrue hthree =>
    refine Or.inr (Or.inr ⟨_, rfl, Nat.two_pos, tracks_three (by omega) hthree ?_ ?_⟩) <;>
      simp only [apply_ite UInt8.toNat, ← UInt8.toNat_inj, UInt8.reduceToNat]
  split
  case isTrue hfour =>
    refine Or.inr (Or.inr ⟨_, rfl, Nat.succ_pos 2, tracks_four (by omega) hfour ?_ ?_⟩) <;>
      simp only [apply_ite UInt8.toNat, ← UInt8.toNat_inj, UInt8.reduceToNat]
  case isFalse hhigh =>
    refine Or.inr (Or.inl ⟨rfl, fun c rest hencode => ?_⟩)
    have hb := hlead c rest hencode
    omega

/-- No character's bytes are the beginning of another's. -/
theorem utf8EncodeChar_append {c d : Char} {rest : Bytes}
    (happend : utf8EncodeChar d = utf8EncodeChar c ++ rest) : rest = [] := by
  obtain ⟨b, tail, hc⟩ := List.exists_cons_of_ne_nil (String.utf8EncodeChar_ne_nil (c := c))
  rw [hc] at happend
  -- The first byte is shared, and it tells how many bytes follow.
  have hsame : ∀ p, Tracks p [b] → rest = [] := by
    intro p htracks
    have hlength := (htracks.only c tail hc).1.length_eq
    have hlength' := (htracks.only d (tail ++ rest) happend).1.length_eq
    rw [List.length_append] at hlength'
    exact List.length_eq_zero_iff.1 (by omega)
  rcases beginChar_cases b with ⟨-, htracks⟩ | ⟨-, hnone⟩ | ⟨p, -, -, htracks⟩
  · exact hsame _ htracks
  · exact absurd hc (hnone c tail)
  · exact hsame p htracks

/-! ## Characters are read back -/

theorem Partial.idle_next (b : UInt8) : Partial.idle.next b = beginChar b :=
  if_pos rfl

theorem Partial.next_inside {p : Partial} {b : UInt8} (howed : 0 < p.owed) (hlow : p.low ≤ b)
    (hhigh : b ≤ p.high) :
    p.next b = if p.owed = 1 then ([Char.ofNat (p.after b).bits], .idle) else ([], p.after b) := by
  rw [Partial.next, if_neg (by omega), if_pos (by simp [hlow, hhigh])]
  rfl

theorem Partial.next_outside {p : Partial} {b : UInt8} (howed : 0 < p.owed)
    (houtside : ¬ (p.low ≤ b ∧ b ≤ p.high)) :
    p.next b = (replacement :: (beginChar b).1, (beginChar b).2) := by
  rw [Partial.next, if_neg (by omega), if_neg (by simpa using houtside)]

theorem decodeFrom_tracked {p : Partial} {begun rest : Bytes} (htracks : Tracks p begun) (c : Char)
    (howed : 0 < p.owed) (hencode : utf8EncodeChar c = begun ++ rest) (later : Bytes) :
    decodeFrom p (rest ++ later) = c :: decodeFrom .idle later := by
  induction rest generalizing p begun with
  | nil =>
      have hnone : p.owed = 0 := (htracks.only c [] hencode).1
      omega
  | cons b rest ih =>
      -- The next byte of the character is in the range, so the reader stays on track.
      obtain ⟨⟨-, hlow, hhigh, hrest⟩, -⟩ := htracks.only c (b :: rest) hencode
      rw [List.cons_append, decodeFrom, Partial.next_inside howed hlow hhigh]
      by_cases hlast : p.owed = 1
      · obtain rfl : rest = [] := by
          have hlength := hrest.length_eq
          simp only [Partial.after, hlast] at hlength
          exact List.length_eq_zero_iff.1 hlength
        rw [if_pos hlast, (htracks.after howed hlow hhigh).ofNat_bits hencode]
        rfl
      · rw [if_neg hlast]
        have hmore : 0 < (p.after b).owed := by
          simp only [Partial.after]
          omega
        have hbegun : utf8EncodeChar c = begun ++ [b] ++ rest := by
          rw [List.append_assoc]
          exact hencode
        exact ih (htracks.after howed hlow hhigh) hmore hbegun

theorem decodeFrom_utf8EncodeChar (c : Char) (later : Bytes) :
    decodeFrom .idle (utf8EncodeChar c ++ later) = c :: decodeFrom .idle later := by
  obtain ⟨b, rest, hc⟩ := List.exists_cons_of_ne_nil (String.utf8EncodeChar_ne_nil (c := c))
  rw [hc, List.cons_append, decodeFrom, Partial.idle_next]
  rcases beginChar_cases b with ⟨hbegin, htracks⟩ | ⟨-, hnone⟩ | ⟨p, hbegin, howed, htracks⟩
  · have hlength := (htracks.only c rest hc).1.length_eq
    obtain rfl : rest = [] := List.length_eq_zero_iff.1 hlength
    have hchar : Char.ofNat b.toNat = c := htracks.ofNat_bits hc
    rw [hbegin, hchar]
    rfl
  · exact absurd hc (hnone c rest)
  · rw [hbegin]
    exact decodeFrom_tracked htracks c howed hc later

theorem decodeFrom_flatMap (chars : List Char) (later : Bytes) :
    decodeFrom .idle (chars.flatMap utf8EncodeChar ++ later) = chars ++ decodeFrom .idle later := by
  induction chars with
  | nil => rfl
  | cons c rest ih =>
      rw [List.flatMap_cons, List.append_assoc, decodeFrom_utf8EncodeChar, ih]
      rfl

/-- A text that was written is read back. -/
theorem decodeUtf8_encodeUtf8 (s : String) : decodeUtf8 (encodeUtf8 s) = s := by
  have hchars := decodeFrom_flatMap s.toList []
  rw [List.append_nil, decodeFrom] at hchars
  unfold decodeUtf8 encodeUtf8
  rw [hchars]
  simp [Partial.idle]

/-- The bytes are a written text. -/
def IsUtf8 (bytes : Bytes) : Prop :=
  ∃ s, encodeUtf8 s = bytes

theorem encodeUtf8_decodeUtf8_iff {bytes : Bytes} :
    encodeUtf8 (decodeUtf8 bytes) = bytes ↔ IsUtf8 bytes := by
  constructor
  · intro hback
    exact ⟨decodeUtf8 bytes, hback⟩
  · rintro ⟨s, rfl⟩
    rw [decodeUtf8_encodeUtf8]

instance (bytes : Bytes) : Decidable (IsUtf8 bytes) :=
  decidable_of_iff _ encodeUtf8_decodeUtf8_iff

theorem encodeUtf8_append (s t : String) : encodeUtf8 (s ++ t) = encodeUtf8 s ++ encodeUtf8 t := by
  unfold encodeUtf8
  rw [String.toList_append, List.flatMap_append]

theorem IsUtf8.append {a b : Bytes} (ha : IsUtf8 a) (hb : IsUtf8 b) : IsUtf8 (a ++ b) := by
  obtain ⟨s, rfl⟩ := ha
  obtain ⟨t, rfl⟩ := hb
  exact ⟨s ++ t, encodeUtf8_append s t⟩

/-- What follows a written text is read by itself. -/
theorem decodeUtf8_append {a : Bytes} (ha : IsUtf8 a) (b : Bytes) :
    decodeUtf8 (a ++ b) = decodeUtf8 a ++ decodeUtf8 b := by
  obtain ⟨s, rfl⟩ := ha
  rw [decodeUtf8_encodeUtf8]
  unfold decodeUtf8 encodeUtf8
  rw [decodeFrom_flatMap, String.ofList_append, String.ofList_toList]

/-- What follows a written text in a written text is a written text. -/
theorem IsUtf8.of_append {a b : Bytes} (ha : IsUtf8 a) (hab : IsUtf8 (a ++ b)) : IsUtf8 b := by
  rw [← encodeUtf8_decodeUtf8_iff] at hab ⊢
  rw [decodeUtf8_append ha, encodeUtf8_append, encodeUtf8_decodeUtf8_iff.2 ha] at hab
  exact List.append_cancel_left hab

/-! ## What cannot be read -/

/-- The bytes of some character begin with these. -/
def Starts (bytes : Bytes) : Prop :=
  ∃ c, bytes <+: utf8EncodeChar c

/-- `junk` cannot be read in front of `rest`: no character stands there, and it is a single byte or
the longest stretch with which a character could have begun. -/
structure Stray (junk rest : Bytes) : Prop where
  nonempty : junk ≠ []
  unreadable : ∀ c, ¬ utf8EncodeChar c <+: junk ++ rest
  begun : junk.length = 1 ∨ Starts junk
  longest : ∀ b ∈ rest.head?, ¬ Starts (junk ++ [b])

/-- `mended` are the bytes with every stray stretch replaced by a replacement character. -/
inductive Mends : Bytes → Bytes → Prop where
  | nil : Mends [] []
  | char {rest mended : Bytes} (c : Char) :
      Mends rest mended → Mends (utf8EncodeChar c ++ rest) (utf8EncodeChar c ++ mended)
  | stray {junk rest mended : Bytes} :
      Stray junk rest → Mends rest mended →
      Mends (junk ++ rest) (utf8EncodeChar replacement ++ mended)

theorem stray_single {b : UInt8} (hnone : ∀ c rest, utf8EncodeChar c ≠ b :: rest) (rest : Bytes) :
    Stray [b] rest where
  nonempty := List.cons_ne_nil b []
  unreadable c hprefix := by
    obtain ⟨b', tail, hc⟩ := List.exists_cons_of_ne_nil (String.utf8EncodeChar_ne_nil (c := c))
    rw [hc, List.singleton_append, List.cons_prefix_cons] at hprefix
    exact hnone c tail (by rw [hc, hprefix.1])
  begun := Or.inl rfl
  longest b' _ hstarts := by
    obtain ⟨c, tail, hc⟩ := hstarts
    exact hnone c (b' :: tail) hc.symm

/-- A character that was begun goes on with a byte in the range, or the bytes read of it are
stray. -/
theorem Tracks.stray {p : Partial} {begun rest : Bytes} (htracks : Tracks p begun)
    (hbegun : begun ≠ []) (howed : 0 < p.owed)
    (hrest : ∀ b ∈ rest.head?, ¬ (p.low ≤ b ∧ b ≤ p.high)) : Stray begun rest where
  nonempty := hbegun
  unreadable c hprefix := by
    obtain ⟨later, hlater⟩ := hprefix
    rcases List.append_eq_append_iff.1 hlater with ⟨owed, hdone, -⟩ | ⟨more, hmore, hnext⟩
    · -- The character would end among the bytes that were read, yet another one goes on there.
      obtain ⟨tail, hfits⟩ := htracks.possible
      obtain ⟨d, hd⟩ := htracks.completes tail hfits
      rw [hdone, List.append_assoc] at hd
      obtain ⟨-, rfl⟩ := List.append_eq_nil_iff.1 (utf8EncodeChar_append hd)
      exact absurd hfits (by simp only [Partial.Fits]; omega)
    · -- The character would go on with a byte that is in the range.
      obtain ⟨hfits, -⟩ := htracks.only c more hmore
      cases more with
      | nil => exact absurd hfits (by simp only [Partial.Fits]; omega)
      | cons b more =>
          rw [hnext] at hrest
          exact hrest b rfl ⟨hfits.2.1, hfits.2.2.1⟩
  begun := by
    obtain ⟨tail, hfits⟩ := htracks.possible
    obtain ⟨c, hc⟩ := htracks.completes tail hfits
    exact Or.inr ⟨c, tail, hc.symm⟩
  longest b hb hstarts := by
    obtain ⟨c, tail, hc⟩ := hstarts
    rw [List.append_assoc] at hc
    obtain ⟨⟨-, hlow, hhigh, -⟩, -⟩ := htracks.only c (b :: tail) hc.symm
    exact hrest b hb ⟨hlow, hhigh⟩

/-- By induction on the bytes; between two characters and inside a character at the same time. -/
theorem mends_decodeFrom (bytes : Bytes) :
    Mends bytes ((decodeFrom .idle bytes).flatMap utf8EncodeChar) ∧
    ∀ p begun, Tracks p begun → begun ≠ [] → 0 < p.owed →
      Mends (begun ++ bytes) ((decodeFrom p bytes).flatMap utf8EncodeChar) := by
  induction bytes with
  | nil =>
      refine ⟨Mends.nil, fun p begun htracks hbegun howed => ?_⟩
      rw [decodeFrom, if_neg (by omega)]
      exact Mends.stray (htracks.stray hbegun howed (by simp)) Mends.nil
  | cons b rest ih =>
      obtain ⟨hidle, hinside⟩ := ih
      have hfirst : Mends (b :: rest) ((decodeFrom .idle (b :: rest)).flatMap utf8EncodeChar) := by
        rw [decodeFrom, Partial.idle_next]
        rcases beginChar_cases b with ⟨hbegin, htracks⟩ | ⟨hbegin, hnone⟩ |
          ⟨p, hbegin, howed, htracks⟩
        · obtain ⟨c, hc⟩ := htracks.completes [] rfl
          have hchar : Char.ofNat b.toNat = c := htracks.ofNat_bits hc
          rw [hbegin, hchar]
          have hmends := hidle.char c
          rw [hc] at hmends
          simpa [hc] using hmends
        · rw [hbegin]
          exact Mends.stray (stray_single hnone rest) hidle
        · rw [hbegin]
          exact hinside p [b] htracks (List.cons_ne_nil b []) howed
      refine ⟨hfirst, fun p begun htracks hbegun howed => ?_⟩
      by_cases hrange : p.low ≤ b ∧ b ≤ p.high
      · have hafter := htracks.after howed hrange.1 hrange.2
        rw [decodeFrom, Partial.next_inside howed hrange.1 hrange.2]
        by_cases hlast : p.owed = 1
        · rw [if_pos hlast]
          obtain ⟨c, hc⟩ := hafter.completes [] (by simp [Partial.Fits, Partial.after, hlast])
          rw [List.append_nil] at hc
          have hmends := hidle.char c
          rw [hc, List.append_assoc] at hmends
          rw [hafter.ofNat_bits hc, List.singleton_append, List.flatMap_cons, hc]
          exact hmends
        · rw [if_neg hlast]
          have hmore : 0 < (p.after b).owed := by
            simp only [Partial.after]
            omega
          have hmends := hinside (p.after b) (begun ++ [b]) hafter (by simp) hmore
          rwa [List.append_assoc] at hmends
      · -- What was begun is given up, and the byte is read as a first byte.
        rw [decodeFrom, Partial.next_outside howed hrange]
        rw [decodeFrom, Partial.idle_next] at hfirst
        exact Mends.stray (htracks.stray hbegun howed (by simpa using hrange)) hfirst

theorem mends_decodeUtf8 (bytes : Bytes) : Mends bytes (encodeUtf8 (decodeUtf8 bytes)) := by
  unfold encodeUtf8 decodeUtf8
  rw [String.toList_ofList]
  exact (mends_decodeFrom bytes).1

end Text

end Rechristen
