import Multicast.Octets

/-!
# `Multicast.Address` — IPv4 and IPv6 addresses

An address is split where groups are counted on: the low 32 bits are stepped from one group to the
next and wrap around on their own, so the upper 96 bits of an IPv6 address never change.

## Contents
- **Families.** `Family`, with the numbers the system knows them by.
- **Addresses.** `Address`, its family, and `Address.step` and `Address.advance`, the next address
  and the one some steps on.
- **Network order.** `Address.packed` and `Address.ofPacked?`, the 4 or 16 bytes of an address,
  which determine each other (`ofPacked?_packed`, `eq_packed_of_ofPacked?`).
-/

namespace Multicast

/-! ## Families -/

/-- The two address families. -/
inductive Family where
  | inet
  | inet6
deriving Repr, DecidableEq

namespace Family

/-- The number of a family in system calls. -/
def number : Family → Nat
  | inet => 2
  | inet6 => 10

/-- The bytes of a packed address. -/
def size : Family → Nat
  | inet => 4
  | inet6 => 16

/-- The address that stands for every local address, as text. -/
def anyAddress : Family → String
  | inet => "0.0.0.0"
  | inet6 => "::"

end Family

/-! ## Addresses -/

/-- An address: the 32 bits that consecutive groups differ in, below the 96 upper bits of IPv6. -/
inductive Address where
  | v4 (host : BitVec 32)
  | v6 (net : BitVec 96) (host : BitVec 32)
deriving Repr, DecidableEq

namespace Address

/-- The family of an address. -/
def family : Address → Family
  | v4 _ => .inet
  | v6 _ _ => .inet6

/-- The address some steps on. The low 32 bits wrap around, nothing is carried above them. -/
def advance (k : Nat) : Address → Address
  | v4 host => v4 (host + BitVec.ofNat 32 k)
  | v6 net host => v6 net (host + BitVec.ofNat 32 k)

/-- The next address. -/
def step (a : Address) : Address := a.advance 1

@[simp] theorem family_advance (k : Nat) (a : Address) : (a.advance k).family = a.family := by
  cases a <;> rfl

@[simp] theorem advance_zero (a : Address) : a.advance 0 = a := by
  cases a <;> simp [advance]

/-- Steps add up. -/
theorem advance_advance (j k : Nat) (a : Address) :
    (a.advance j).advance k = a.advance (j + k) := by
  cases a <;> simp [advance, BitVec.add_assoc, ← BitVec.ofNat_add]

/-! ## Network order -/

/-- The bytes of an address, most significant first. -/
def packed : Address → Octets
  | v4 host => bigEndian 4 host.toNat
  | v6 net host => bigEndian 12 net.toNat ++ bigEndian 4 host.toNat

/-- The address of a family with the given bytes, if there are as many as the family has. -/
def ofPacked? (family : Family) (bytes : Octets) : Option Address :=
  if bytes.length = family.size then
    match family with
    | .inet => some (v4 (BitVec.ofNat 32 (ofBigEndian bytes)))
    | .inet6 =>
      some (v6 (BitVec.ofNat 96 (ofBigEndian (bytes.take 12)))
        (BitVec.ofNat 32 (ofBigEndian (bytes.drop 12))))
  else none

@[simp] theorem length_packed (a : Address) : a.packed.length = a.family.size := by
  cases a <;> simp [packed, family, Family.size]

/-- An address is read back from its bytes. -/
@[simp] theorem ofPacked?_packed (a : Address) : ofPacked? a.family a.packed = some a := by
  cases a with
  | v4 host =>
    have h : ofBigEndian (bigEndian 4 host.toNat) = host.toNat :=
      ofBigEndian_bigEndian_of_lt host.isLt
    simp [ofPacked?, packed, family, Family.size, h]
  | v6 net host =>
    have hn : ofBigEndian (bigEndian 12 net.toNat) = net.toNat :=
      ofBigEndian_bigEndian_of_lt net.isLt
    have hh : ofBigEndian (bigEndian 4 host.toNat) = host.toNat :=
      ofBigEndian_bigEndian_of_lt host.isLt
    simp [ofPacked?, packed, family, Family.size, hn, hh]

/-- Bytes that are read as an address are the bytes of that address. -/
theorem eq_packed_of_ofPacked? {f : Family} {bs : Octets} {a : Address}
    (h : ofPacked? f bs = some a) : a.family = f ∧ bs = a.packed := by
  unfold ofPacked? at h
  split at h
  · rename_i hlen
    cases f with
    | inet =>
      have hb := bigEndian_ofBigEndian bs
      have hlt : ofBigEndian bs < 2 ^ 32 := ofBigEndian_lt_of_length hlen
      simp only [Family.size] at hlen
      simp only [Option.some.injEq] at h
      subst h
      rw [hlen] at hb
      refine ⟨rfl, ?_⟩
      simp only [packed, BitVec.toNat_ofNat]
      rw [Nat.mod_eq_of_lt hlt, hb]
    | inet6 =>
      simp only [Family.size] at hlen
      simp only [Option.some.injEq] at h
      subst h
      refine ⟨rfl, ?_⟩
      have hn := bigEndian_ofBigEndian (bs.take 12)
      have hh := bigEndian_ofBigEndian (bs.drop 12)
      have htake : (bs.take 12).length = 12 := by simp [hlen]
      have hdrop : (bs.drop 12).length = 4 := by simp [hlen]
      have hnlt : ofBigEndian (bs.take 12) < 2 ^ 96 := ofBigEndian_lt_of_length htake
      have hhlt : ofBigEndian (bs.drop 12) < 2 ^ 32 := ofBigEndian_lt_of_length hdrop
      rw [htake] at hn
      rw [hdrop] at hh
      simp only [packed, BitVec.toNat_ofNat]
      rw [Nat.mod_eq_of_lt hnlt, Nat.mod_eq_of_lt hhlt, hn, hh, List.take_append_drop]
  · simp at h

end Address

end Multicast
