import Multicast.Address.Numbers
import Multicast.Membership

/-!
# `Proofs.Membership.Layout` — how the system reads a request to join

To the system, the value of an option is a record with fields at fixed offsets. A field that is
shifted reads as another address, and nothing about the value would tell; so the records are read
here from their offsets alone, and every request is shown to be read as what it was made from.

## Contents
- **Fields.** `Octets.field`, with what it finds in a value that is put together from parts.
- **Records.** `Octets.socketAddress?` and `Membership.Request.decode?`, the four records by level
  and number of their options.
- **Requests.** `Membership.option`, the option for a family with or without a source; what
  `socketAddress?` lays out (`exists_socketAddress`), then `Membership.decode_request`.
-/

namespace Multicast

/-! ## Fields -/

namespace Octets

/-- The bytes of a field. -/
def field (offset width : Nat) (bs : Octets) : Octets := (bs.drop offset).take width

/-- The number in a field of four bytes in machine order. -/
def unsignedAt (offset : Nat) (bs : Octets) : Nat := ofLittleEndian (bs.field offset 4)

/-- The same, where the highest bit is the sign. -/
def signedAt (offset : Nat) (bs : Octets) : Int :=
  let n : Int := bs.unsignedAt offset
  if n < 2 ^ 31 then n else n - 2 ^ 32

/-- The fields of the first part of a value are fields of the value. -/
theorem field_append_of_le {bs : Octets} {offset width : Nat} (h : offset + width ≤ bs.length)
    (rest : Octets) : (bs ++ rest).field offset width = bs.field offset width := by
  have hdrop : (bs ++ rest).drop offset = bs.drop offset ++ rest :=
    List.drop_append_of_le_length (by omega)
  rw [field, field, hdrop]
  apply List.take_append_of_le_length
  rw [List.length_drop]
  omega

/-- A value is a field of itself. -/
theorem field_whole {bs : Octets} {width : Nat} (h : bs.length = width) : bs.field 0 width = bs := by
  rw [field, List.drop_zero, List.take_of_length_le (Nat.le_of_eq h)]

/-- The first part of a value is its first field. -/
theorem field_append_left {bs : Octets} {width : Nat} (h : bs.length = width)
    (rest : Octets) : (bs ++ rest).field 0 width = bs := by
  rw [field_append_of_le (by omega), field_whole h]

/-- Behind its first part, a value has the fields of the rest. -/
theorem field_append_right {bs : Octets} {k : Nat} (h : bs.length = k) (rest : Octets)
    (offset width : Nat) : (bs ++ rest).field (k + offset) width = rest.field offset width := by
  have hdrop : (bs ++ rest).drop (k + offset) = rest.drop offset := by
    rw [← List.drop_drop, List.drop_left' h]
  rw [field, field, hdrop]

/-- A number that was written to a field is read back from it. -/
theorem unsignedAt_of_field {bs : Octets} {offset n : Nat}
    (h : bs.field offset 4 = littleEndian 4 n) (hn : n < 2 ^ 32) : bs.unsignedAt offset = n := by
  rw [unsignedAt, h, ofLittleEndian_littleEndian]
  exact Nat.mod_eq_of_lt hn

theorem signedAt_of_field {bs : Octets} {offset n : Nat}
    (h : bs.field offset 4 = littleEndian 4 n) (hn : n < 2 ^ 31) : bs.signedAt offset = n := by
  have hread : bs.unsignedAt offset = n := unsignedAt_of_field h (by omega)
  have hlow : (n : Int) < 2 ^ 31 := by omega
  unfold signedAt
  rw [hread]
  dsimp only
  rw [if_pos hlow]

/-! ## Records -/

/-- The address in a record of 128 bytes: the family in front, and the address of IPv4 behind the
    port, that of IPv6 behind the port and the flow. -/
def socketAddress? (bs : Octets) : Option Address :=
  match ofLittleEndian (bs.field 0 2) with
  | 2 => Address.ofPacked? .inet (bs.field 4 4)
  | 10 => Address.ofPacked? .inet6 (bs.field 8 16)
  | _ => none

end Octets

namespace Membership

/-- What the system is told about the interface: its number, zero for none in particular, or an
    address that it has. -/
inductive Device where
  | index (n : Int)
  | address (octets : Octets)
deriving Repr, DecidableEq

/-- What the system is asked for. -/
structure Request where
  group : Address
  /-- The only source to receive from, if there is one. -/
  source : Option Address
  device : Device
deriving Repr, DecidableEq

/-- The request that the system reads from the value of an option, given by level and number.

An IPv4 record has 12 bytes, with the group at 0. With a source, it has the interface's address at 4
and the source at 8; without one, it has an address at 4 and an index at 8, of which the index counts
if it is not zero. The IPv6 record for any source has the group at 0 and the index at 16; the one for
a single source has the index at 0, and socket addresses of the group at 8 and of the source at
136. -/
def Request.decode? (option : Nat × Nat) (value : Octets) : Option Request :=
  match option with
  | (0, 39) =>
    if value.length = 12 then do
      let group ← Address.ofPacked? .inet (value.field 0 4)
      let source ← Address.ofPacked? .inet (value.field 8 4)
      some ⟨group, some source, .address (value.field 4 4)⟩
    else none
  | (0, 35) =>
    if value.length = 12 then do
      let group ← Address.ofPacked? .inet (value.field 0 4)
      let index := value.signedAt 8
      if index = 0 ∧ value.field 4 4 ≠ zeros 4 then
        some ⟨group, none, .address (value.field 4 4)⟩
      else some ⟨group, none, .index index⟩
    else none
  | (41, 20) =>
    if value.length = 20 then do
      let group ← Address.ofPacked? .inet6 (value.field 0 16)
      some ⟨group, none, .index (value.signedAt 16)⟩
    else none
  | (41, 46) =>
    if value.length = 264 then do
      let group ← (value.field 8 128).socketAddress?
      let source ← (value.field 136 128).socketAddress?
      some ⟨group, some source, .index (value.unsignedAt 0)⟩
    else none
  | _ => none

/-! ## Requests -/

/-- Level and number of the option that joins a group, by its family and whether it has a source. -/
def option (family : Family) (restricted : Bool) : Nat × Nat :=
  match family, restricted with
  | .inet, true => (0, 39)
  | .inet, false => (0, 35)
  | .inet6, true => (41, 46)
  | .inet6, false => (41, 20)

/-- What the system is told about the interface: an address for an IPv4 source, an index for all
    others. -/
def device (family : Family) (restricted : Bool) (index : Int) (address : Octets) : Device :=
  match family, restricted with
  | .inet, true => .address address
  | _, _ => .index index

variable {target source : Endpoint} {index : Int} {address : Octets}

theorem length_packed_of_family {family : Family} (h : target.family = family) :
    target.packed.length = family.size := by
  rw [Endpoint.packed, Address.length_packed]
  exact congrArg Family.size h

theorem ofPacked?_of_family {family : Family} (h : target.family = family) :
    Address.ofPacked? family target.packed = some target.address := by
  rw [← h]
  exact Address.ofPacked?_packed target.address

/-- A record for an IPv4 source is read as its three addresses. -/
theorem decode_source4 (htarget : target.family = .inet) (hsource : source.family = .inet)
    (haddress : address.length = 4) :
    Request.decode? (0, 39) (target.packed ++ address ++ source.packed) =
      some ⟨target.address, some source.address, .address address⟩ := by
  have hlength := length_packed_of_family htarget
  have hlength' := length_packed_of_family hsource
  have hgroup : (target.packed ++ (address ++ source.packed)).field 0 4 = target.packed :=
    Octets.field_append_left hlength _
  have hbehind := Octets.field_append_right hlength (address ++ source.packed)
  have hlocal : (target.packed ++ (address ++ source.packed)).field 4 4 = address :=
    (hbehind 0 4).trans (Octets.field_append_left haddress _)
  have horigin : (target.packed ++ (address ++ source.packed)).field 8 4 = source.packed := by
    refine (hbehind 4 4).trans ?_
    exact (Octets.field_append_right haddress source.packed 0 4).trans (Octets.field_whole hlength')
  rw [List.append_assoc, Request.decode?, if_pos (by simp [hlength, hlength', haddress, Family.size]),
    hgroup, hlocal, horigin, ofPacked?_of_family htarget, ofPacked?_of_family hsource]
  rfl

/-- A record for an IPv4 group from any source is read as the group and the index. -/
theorem decode_index4 (htarget : target.family = .inet) {n : Nat} (hn : n < 2 ^ 31) :
    Request.decode? (0, 35) (target.packed ++ zeros 4 ++ littleEndian 4 n) =
      some ⟨target.address, none, .index n⟩ := by
  have hlength := length_packed_of_family htarget
  have hgroup : (target.packed ++ (zeros 4 ++ littleEndian 4 n)).field 0 4 = target.packed :=
    Octets.field_append_left hlength _
  have hbehind := Octets.field_append_right hlength (zeros 4 ++ littleEndian 4 n)
  have hlocal : (target.packed ++ (zeros 4 ++ littleEndian 4 n)).field 4 4 = zeros 4 :=
    (hbehind 0 4).trans (Octets.field_append_left (length_zeros 4) _)
  have hindex : (target.packed ++ (zeros 4 ++ littleEndian 4 n)).signedAt 8 = n := by
    refine Octets.signedAt_of_field ?_ hn
    refine (hbehind 4 4).trans ?_
    exact (Octets.field_append_right (length_zeros 4) _ 0 4).trans
      (Octets.field_whole (length_littleEndian 4 n))
  rw [List.append_assoc, Request.decode?, if_pos (by simp [hlength, Family.size]), hgroup, hlocal,
    hindex, ofPacked?_of_family htarget]
  -- The address beside the index is zero, so the index counts whatever it is.
  simp

/-- A record for an IPv6 group from any source is read as the group and the index. -/
theorem decode_index6 (htarget : target.family = .inet6) {n : Nat} (hn : n < 2 ^ 31) :
    Request.decode? (41, 20) (target.packed ++ littleEndian 4 n) =
      some ⟨target.address, none, .index n⟩ := by
  have hlength := length_packed_of_family htarget
  have hgroup : (target.packed ++ littleEndian 4 n).field 0 16 = target.packed :=
    Octets.field_append_left hlength _
  have hindex : (target.packed ++ littleEndian 4 n).signedAt 16 = n := by
    refine Octets.signedAt_of_field ?_ hn
    exact (Octets.field_append_right hlength _ 0 4).trans
      (Octets.field_whole (length_littleEndian 4 n))
  rw [Request.decode?, if_pos (by simp [hlength, Family.size]), hgroup, hindex,
    ofPacked?_of_family htarget]
  rfl

/-- **An IPv6 socket address** takes 128 bytes, with the address at 8. -/
theorem exists_socketAddress (htarget : target.family = .inet6) :
    ∃ record, socketAddress? target.family.number target.packed = some record ∧
      record.length = 128 ∧ record.field 8 16 = target.packed ∧
      record.socketAddress? = some target.address := by
  have hlength := length_packed_of_family htarget
  let head := littleEndian 2 10
  let bare := head ++ (zeros 2 ++ zeros 4 ++ target.packed ++ zeros 4)
  let record := fillTo 128 bare
  have hparts : record = head ++ (zeros 2 ++ (zeros 4 ++ (target.packed ++ (zeros 4 ++
      zeros (128 - bare.length))))) := by
    simp only [record, bare, fillTo, List.append_assoc]
  have hfamily : record.field 0 2 = head := by
    rw [hparts]
    exact Octets.field_append_left (length_littleEndian 2 10) _
  have haddress : record.field 8 16 = target.packed := by
    rw [hparts]
    refine (Octets.field_append_right (length_littleEndian 2 10) _ 6 16).trans ?_
    refine (Octets.field_append_right (length_zeros 2) _ 4 16).trans ?_
    refine (Octets.field_append_right (length_zeros 4) _ 0 16).trans ?_
    exact Octets.field_append_left hlength _
  refine ⟨record, ?_, ?_, haddress, ?_⟩
  · rw [htarget]
    rfl
  · simp [record, bare, head, fillTo, hlength, Family.size]
  · have hnumber : ofLittleEndian head = 10 := by decide
    unfold Octets.socketAddress?
    rw [hfamily, hnumber, haddress]
    exact ofPacked?_of_family htarget

/-- **The record for an IPv6 source** takes 264 bytes, with the socket addresses at 8 and 136. It is
    read as the group, the source and the index. -/
theorem exists_sourceRequest (htarget : target.family = .inet6) (hsource : source.family = .inet6)
    {n : Nat} (hn : n < 2 ^ 32) :
    ∃ value, sourceRequest? n target source = some value ∧ value.length = 264 ∧
      value.field (8 + 8) 16 = target.packed ∧ value.field (136 + 8) 16 = source.packed ∧
      Request.decode? (41, 46) value =
        some ⟨target.address, some source.address, .index n⟩ := by
  obtain ⟨group, hgroup, hgroupLength, hgroupAddress, hgroupRead⟩ := exists_socketAddress htarget
  obtain ⟨origin, horigin, horiginLength, horiginAddress, horiginRead⟩ := exists_socketAddress hsource
  let value := littleEndian 4 n ++ (zeros 4 ++ (group ++ origin))
  have hvalue : sourceRequest? n target source = some value := by
    simp only [sourceRequest?, uint32?_natCast hn, hgroup, horigin, Option.bind_eq_bind,
      Option.bind_some, value, List.append_assoc]
  have hlength : value.length = 264 := by simp [value, hgroupLength, horiginLength]
  have hindex : value.unsignedAt 0 = n :=
    Octets.unsignedAt_of_field (Octets.field_append_left (length_littleEndian 4 n) _) hn
  have hbehind : ∀ offset width,
      value.field (8 + offset) width = (group ++ origin).field offset width := by
    intro offset width
    rw [Nat.add_assoc 4 4 offset]
    exact (Octets.field_append_right (length_littleEndian 4 n) _ (4 + offset) width).trans
      (Octets.field_append_right (length_zeros 4) _ offset width)
  have hsecond : ∀ offset width, value.field (136 + offset) width = origin.field offset width := by
    intro offset width
    rw [Nat.add_assoc 8 128 offset, hbehind]
    exact Octets.field_append_right hgroupLength origin offset width
  have hfirst : value.field 8 128 = group :=
    (hbehind 0 128).trans (Octets.field_append_left hgroupLength origin)
  have hlast : value.field 136 128 = origin :=
    (hsecond 0 128).trans (Octets.field_whole horiginLength)
  refine ⟨value, hvalue, hlength, ?_, ?_, ?_⟩
  · rw [hbehind, Octets.field_append_of_le (by omega), hgroupAddress]
  · rw [hsecond, horiginAddress]
  · rw [Request.decode?, if_pos hlength, hfirst, hlast, hindex, hgroupRead, horiginRead]
    rfl

/-- **A request to join is read as what it was made from**: the option is that of the family, and
    the value holds the group, the source and the interface. -/
theorem decode_request {origin : Option Endpoint} (hindex : 0 ≤ index ∧ index < 2 ^ 31)
    (hfamily : ∀ source ∈ origin, source.family = target.family)
    (haddress : target.family = .inet → origin.isSome → address.length = 4) :
    ∃ name value, request? target origin index address = some (name, value) ∧
      (name.level, name.number) = option target.family origin.isSome ∧
      Request.decode? (option target.family origin.isSome) value =
        some ⟨target.address, origin.map (·.address),
          device target.family origin.isSome index address⟩ ∧
      (target.family = .inet6 → ∀ source ∈ origin, value.length = 264 ∧
        value.field (8 + 8) 16 = target.packed ∧ value.field (136 + 8) 16 = source.packed) := by
  obtain ⟨n, rfl⟩ := Int.eq_ofNat_of_zero_le hindex.1
  have hn : n < 2 ^ 31 := by omega
  cases htarget : target.family with
  | inet =>
      cases origin with
      | none =>
          refine ⟨.join4, target.packed ++ zeros 4 ++ littleEndian 4 n, ?_, rfl, ?_, by simp⟩
          · simp only [request?, htarget, interfaceRequest4?, int32?_natCast hn, Option.map_some]
          · exact decode_index4 htarget hn
      | some source =>
          have hsource : source.family = .inet := (hfamily source rfl).trans htarget
          refine ⟨.joinSource4, target.packed ++ address ++ source.packed, ?_, rfl, ?_, by simp⟩
          · simp only [request?, htarget]
          · exact decode_source4 htarget hsource (haddress htarget rfl)
  | inet6 =>
      cases origin with
      | none =>
          refine ⟨.join6, target.packed ++ littleEndian 4 n, ?_, rfl, ?_, by simp⟩
          · simp only [request?, htarget, groupRequest6?, uint32?_natCast (by omega : n < 2 ^ 32),
              Option.map_some]
          · exact decode_index6 htarget hn
      | some source =>
          have hsource : source.family = .inet6 := (hfamily source rfl).trans htarget
          obtain ⟨value, hvalue, hlength, hgroup, horigin, hread⟩ :=
            exists_sourceRequest htarget hsource (by omega : n < 2 ^ 32)
          refine ⟨.joinSource6, value, ?_, rfl, hread, ?_⟩
          · simp only [request?, htarget, hvalue, Option.map_some]
          · rintro - _ ⟨⟩
            exact ⟨hlength, hgroup, horigin⟩

end Membership

end Multicast
