import Multicast.Bits

/-!
# `Multicast.Octets` — numbers in byte strings

Addresses and packet headers hold numbers with the most significant byte first; the requests handed
to the system hold theirs in the order of the machine, least significant byte first.

## Contents
- **Writing.** `bigEndian` and `littleEndian`, which keep the low bytes of a number that is too
  large.
- **Reading.** `ofBigEndian` and `ofLittleEndian`.
- **Parts.** `zeros`, and `front`, what a byte string is cut to.
- **Laws.** Either order reads back the low bytes of what was written (`ofBigEndian_bigEndian`,
  `ofLittleEndian_littleEndian`), and every byte string writes back as itself
  (`bigEndian_ofBigEndian`).
-/

namespace Multicast

/-- A byte string. -/
abbrev Octets := List UInt8

/-- The low `width` bytes of a number, most significant first. -/
def bigEndian : Nat → Nat → Octets
  | 0, _ => []
  | width + 1, n => UInt8.ofNat (n / 256 ^ width) :: bigEndian width n

/-- The low `width` bytes of a number, least significant first. -/
def littleEndian : Nat → Nat → Octets
  | 0, _ => []
  | width + 1, n => UInt8.ofNat n :: littleEndian width (n / 256)

/-- The number that bytes write, most significant first. -/
def ofBigEndian (bs : Octets) : Nat := bs.foldl (fun n b => 256 * n + b.toNat) 0

/-- The number that bytes write, least significant first. -/
def ofLittleEndian (bs : Octets) : Nat := bs.foldr (fun b n => b.toNat + 256 * n) 0

/-- A run of zero bytes. -/
def zeros (count : Nat) : Octets := List.replicate count 0

/-- The bytes in front of a position; a negative one counts from the end. -/
def front (position : Int) (bs : Octets) : Octets :=
  bs.take (if position < 0 then position + bs.length else position).toNat

/-! ## Laws -/

@[simp] theorem length_bigEndian (width n : Nat) : (bigEndian width n).length = width := by
  induction width with
  | zero => rfl
  | succ width ih => simp [bigEndian, ih]

@[simp] theorem length_littleEndian (width n : Nat) : (littleEndian width n).length = width := by
  induction width generalizing n with
  | zero => rfl
  | succ width ih => simp [littleEndian, ih]

@[simp] theorem length_zeros (count : Nat) : (zeros count).length = count := by simp [zeros]

/-- Reading on from a number puts it in front of all the bytes. -/
theorem foldl_octets (bs : Octets) (n : Nat) :
    bs.foldl (fun n b => 256 * n + b.toNat) n = n * 256 ^ bs.length + ofBigEndian bs := by
  induction bs generalizing n with
  | nil => simp [ofBigEndian]
  | cons b bs ih =>
    simp only [ofBigEndian, List.foldl_cons, List.length_cons]
    rw [ih, ih (256 * 0 + b.toNat), Nat.pow_succ]
    grind

theorem ofBigEndian_cons (b : UInt8) (bs : Octets) :
    ofBigEndian (b :: bs) = b.toNat * 256 ^ bs.length + ofBigEndian bs := by
  simpa [ofBigEndian] using foldl_octets bs b.toNat

theorem ofBigEndian_lt (bs : Octets) : ofBigEndian bs < 256 ^ bs.length := by
  induction bs with
  | nil => decide
  | cons b bs ih =>
    have hb := b.toNat_lt
    rw [ofBigEndian_cons, List.length_cons, Nat.pow_succ]
    calc _ < b.toNat * 256 ^ bs.length + 256 ^ bs.length := by omega
      _ = (b.toNat + 1) * 256 ^ bs.length := by grind
      _ ≤ 256 * 256 ^ bs.length := Nat.mul_le_mul_right _ (by omega)
      _ = _ := Nat.mul_comm ..

/-- Bytes of a known number hold a number below the power of 256. -/
theorem ofBigEndian_lt_of_length {bs : Octets} {width : Nat} (h : bs.length = width) :
    ofBigEndian bs < 256 ^ width :=
  h ▸ ofBigEndian_lt bs

/-- What was written is read back, as far as the bytes hold it. -/
theorem ofBigEndian_bigEndian (width n : Nat) :
    ofBigEndian (bigEndian width n) = n % 256 ^ width := by
  induction width with
  | zero => simp [bigEndian, ofBigEndian, Nat.mod_one]
  | succ width ih =>
    rw [bigEndian, ofBigEndian_cons, ih, length_bigEndian, Nat.pow_succ, Nat.mod_mul]
    simp [UInt8.toNat_ofNat']
    grind

/-- A number that the bytes hold is read back whole. -/
theorem ofBigEndian_bigEndian_of_lt {width n : Nat} (h : n < 256 ^ width) :
    ofBigEndian (bigEndian width n) = n := by
  rw [ofBigEndian_bigEndian, Nat.mod_eq_of_lt h]

/-- Only the part of a number below the width is written. -/
theorem bigEndian_add_mul (width n k : Nat) :
    bigEndian width (n + k * 256 ^ width) = bigEndian width n := by
  induction width generalizing k with
  | zero => rfl
  | succ width ih =>
    have hpos : 0 < 256 ^ width := Nat.pow_pos (by decide)
    have hsplit : n + k * 256 ^ (width + 1) = n + (k * 256) * 256 ^ width := by
      rw [Nat.pow_succ]; grind
    rw [bigEndian, bigEndian, hsplit, ih, Nat.add_mul_div_right _ _ hpos]
    congr 1
    apply UInt8.toNat_inj.1
    simp [UInt8.toNat_ofNat']

/-- Every byte string is the writing of the number that it is read as. -/
theorem bigEndian_ofBigEndian (bs : Octets) : bigEndian bs.length (ofBigEndian bs) = bs := by
  induction bs with
  | nil => rfl
  | cons b bs ih =>
    have hlt := ofBigEndian_lt bs
    have hpos : 0 < 256 ^ bs.length := Nat.pow_pos (by decide)
    rw [List.length_cons, bigEndian, ofBigEndian_cons, Nat.add_comm, bigEndian_add_mul, ih,
      Nat.add_mul_div_right _ _ hpos, Nat.div_eq_of_lt hlt]
    simp

/-- What was written is read back, as far as the bytes hold it. -/
theorem ofLittleEndian_littleEndian (width n : Nat) :
    ofLittleEndian (littleEndian width n) = n % 256 ^ width := by
  induction width generalizing n with
  | zero => simp [littleEndian, ofLittleEndian, Nat.mod_one]
  | succ width ih =>
    have h := ih (n / 256)
    simp only [ofLittleEndian, littleEndian, List.foldr_cons] at h ⊢
    rw [h, Nat.pow_succ, Nat.mul_comm (256 ^ width) 256, Nat.mod_mul]
    simp [UInt8.toNat_ofNat']

end Multicast
