import Multicast.Octets
import Multicast.Room

/-!
# `Multicast.Packet` — the datagrams on the wire

A packet starts with six magic bytes, the low 32 bits of its sequence number and the low 16 bits of
its group's index, most significant byte first; zero bytes fill it up to the size that was asked
for.

## Contents
- **Layout.** `Packet.magic` and `Packet.headerSize`.
- **Writing.** `Packet.encode`, and `Packet.make?`, which refuses sizes whose padding cannot be had.
- **Reading.** `Packet.decode?`, which looks at the header alone; what was written is read back
  (`Packet.decode?_encode_append`).
-/

namespace Multicast.Packet

/-- The bytes that mark a packet as one of ours. -/
def magic : Octets := [0x6d, 0x63, 0x6a, 0x6f, 0x69, 0x6e]

/-- The bytes in front of the padding. -/
def headerSize : Nat := 12

/-- The largest datagram that is sent or received. -/
def maxSize : Nat := 1624

/-- The size of a payload that is asked for, brought between a bare header and the largest
datagram. -/
def clampSize (size : Int) : Nat := (min (max size headerSize) maxSize).toNat

theorem clampSize_bounds (size : Int) : headerSize ≤ clampSize size ∧ clampSize size ≤ maxSize := by
  constructor <;> (simp only [clampSize, headerSize, maxSize]; omega)

/-- A packet of at least `size` bytes. -/
def encode (seq index size : Int) : Octets :=
  magic ++ bigEndian 4 (seq % 2 ^ 32).toNat ++ bigEndian 2 (index % 2 ^ 16).toNat ++
    zeros (size - headerSize).toNat

@[simp] theorem length_encode (seq index size : Int) :
    (encode seq index size).length = max headerSize size.toNat := by
  simp only [encode, magic, headerSize, List.length_append, length_bigEndian, length_zeros,
    List.length_cons, List.length_nil]
  omega

/-- The zero bytes behind the header of a packet. -/
def padding (size : Int) : Int := max (size - headerSize) 0

/-- A packet of at least `size` bytes, if the memory has room for its padding. -/
def make? (memory : Nat) (seq index size : Int) : Except RoomError Octets :=
  (Room.forOctets? memory (padding size)).map fun _ => encode seq index size

/-- Sequence number and index of a packet; nothing if the bytes are not one of ours. -/
def decode? (data : Octets) : Option (Nat × Nat) :=
  if headerSize ≤ data.length ∧ data.take 6 = magic then
    some (ofBigEndian ((data.drop 6).take 4), ofBigEndian ((data.drop 10).take 2))
  else none

/-- A header is read back, whatever follows it. -/
theorem decode?_header {seq index : Nat} (hs : seq < 256 ^ 4) (hi : index < 256 ^ 2)
    (rest : Octets) :
    decode? (magic ++ bigEndian 4 seq ++ bigEndian 2 index ++ rest) = some (seq, index) := by
  have hlength : magic.length = 6 := rfl
  have hdrop : magic.drop 10 = [] := rfl
  simp [decode?, headerSize, List.drop_append, hlength, hdrop, ofBigEndian_bigEndian_of_lt hs,
    ofBigEndian_bigEndian_of_lt hi]
  omega

/-- A packet is read back, whatever follows it. -/
theorem decode?_encode_append (seq index size : Int) (rest : Octets) :
    decode? (encode seq index size ++ rest) =
      some ((seq % 2 ^ 32).toNat, (index % 2 ^ 16).toNat) := by
  rw [encode, List.append_assoc]
  exact decode?_header (by omega) (by omega) _

theorem decode?_encode (seq index size : Int) : decode? (encode seq index size) =
    some ((seq % 2 ^ 32).toNat, (index % 2 ^ 16).toNat) := by
  rw [← decode?_encode_append seq index size [], List.append_nil]

end Multicast.Packet
