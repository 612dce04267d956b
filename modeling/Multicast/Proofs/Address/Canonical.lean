import Mathlib.Data.List.Basic
import Mathlib.Data.List.Induction
import Multicast.Endpoint
import Multicast.Proofs.Address.RoundTrip

/-!
# `Proofs.Address.Canonical` — the printed form of what was read

An IPv4 address has one text: octets have no leading zeros and no other spelling, so whatever is
read prints as the text that it was read from. An IPv6 address has many texts, in either case and
with or without the gap and the leading zeros. All of them print as one, and that one denotes the
address that was read.

## Contents
- **Digits.** `toDigits_valueOf`: digits without a leading zero are the digits of their value.
- **IPv4.** `eq_toDigits_of_readOctet?` and `dotted_of_readDotted?`.
- **Families.** `ofText_of_readAs?`: a text that is read as an address of a family shows it.
- **Endpoints.** `Endpoint.printed`, the printed form of what a text denotes, and
  `Endpoint.text_determines_address`.
-/

namespace Multicast

/-! ## Digits -/

/-- Only the ten digits have a decimal value. -/
theorem eq_digitChar_of_decimalValue? {c : Char} {d : Nat} (h : decimalValue? c = some d) :
    d < 10 ∧ c = d.digitChar := by
  unfold decimalValue? at h
  split at h
  · rename_i hc
    have hlow : 48 ≤ c.toNat := hc.1
    have hhigh : c.toNat ≤ 57 := hc.2
    obtain rfl : c.toNat - 48 = d := by simpa using h
    refine ⟨by omega, ?_⟩
    have hdigits : ∀ n ≤ 57, 48 ≤ n → Char.ofNat n = (n - 48).digitChar := by decide
    rw [← hdigits c.toNat hhigh hlow, Char.ofNat_toNat]
  · simp at h

/-- Where each piece is read from one text only, so is a list of pieces. -/
theorem eq_map_of_mapM {α β : Type} {read? : α → Option β} {write : β → α} {valid : β → Prop}
    (hread : ∀ {a b}, read? a = some b → valid b ∧ a = write b) {as : List α} {bs : List β}
    (h : as.mapM read? = some bs) : (∀ b ∈ bs, valid b) ∧ as = bs.map write := by
  induction as generalizing bs with
  | nil =>
      obtain rfl : [] = bs := by simpa using h
      simp
  | cons a as ih =>
      rw [List.mapM_cons] at h
      simp only [Option.bind_eq_bind, Option.bind_eq_some_iff, Option.pure_def,
        Option.some.injEq] at h
      obtain ⟨b, hb, rest, hrest, rfl⟩ := h
      obtain ⟨hvalid, rfl⟩ := hread hb
      obtain ⟨hall, rfl⟩ := ih hrest
      exact ⟨List.forall_mem_cons.2 ⟨hvalid, hall⟩, rfl⟩

/-- **Digits without a leading zero are the digits of their value.** Follows the digits from the
    last one on: in front of it stands a number above zero. -/
theorem toDigits_valueOf {ds : List Nat} (hlt : ∀ d ∈ ds, d < 10) (hne : ds ≠ [])
    (hhead : ds.head? ≠ some 0) :
    0 < valueOf 10 ds ∧ Nat.toDigits 10 (valueOf 10 ds) = ds.map Nat.digitChar := by
  induction ds using List.reverseRecOn with
  | nil => exact absurd rfl hne
  | append_singleton front last ih =>
      rw [List.forall_mem_append, List.forall_mem_singleton] at hlt
      rw [valueOf_append_singleton, Nat.toDigits_eq_if (by decide)]
      cases front with
      | nil =>
          have hlast : last ≠ 0 := by simpa using hhead
          simp only [valueOf, List.foldl_nil, Nat.mul_zero, Nat.zero_add, if_pos hlt.2,
            List.nil_append, List.map_singleton, and_true]
          omega
      | cons first rest =>
          obtain ⟨hpos, hdigits⟩ := ih hlt.1 (by simp) (by simpa using hhead)
          have hdiv : (10 * valueOf 10 (first :: rest) + last) / 10 = valueOf 10 (first :: rest) := by
            omega
          have hmod : (10 * valueOf 10 (first :: rest) + last) % 10 = last := by omega
          rw [if_neg (by omega), hdiv, hmod, hdigits, List.map_append, List.map_singleton]
          exact ⟨by omega, rfl⟩

/-! ## IPv4 -/

/-- **An octet has one text.** -/
theorem eq_toDigits_of_readOctet? {cs : List Char} {n : Nat} (h : readOctet? cs = some n) :
    n ≤ 255 ∧ cs = Nat.toDigits 10 n := by
  simp only [readOctet?, Option.bind_eq_bind, Option.bind_eq_some_iff] at h
  obtain ⟨ds, hds, h⟩ := h
  split at h
  · rename_i hform
    obtain ⟨hne, hzero, hle⟩ := hform
    obtain rfl : valueOf 10 ds = n := by simpa using h
    obtain ⟨hlt, rfl⟩ := eq_map_of_mapM eq_digitChar_of_decimalValue? hds
    refine ⟨hle, ?_⟩
    have hdsne : ds ≠ [] := by simpa using hne
    by_cases hhead : ds.head? = some 0
    · -- A leading zero stands alone.
      obtain ⟨rest, rfl⟩ := List.head?_eq_some_iff.1 hhead
      obtain rfl : rest = [] := by simpa using hzero
      rfl
    · exact (toDigits_valueOf hlt hdsne hhead).2.symm
  · simp at h

/-- Four octets between dots are the printed form of the number to whose digits they are. -/
theorem dotted_ofNat {a b c d : Nat} (ha : a ≤ 255) (hb : b ≤ 255) (hc : c ≤ 255) (hd : d ≤ 255) :
    dotted (BitVec.ofNat 32 (valueOf 256 [a, b, c, d])) =
      ['.'].intercalate ([a, b, c, d].map (Nat.toDigits 10)) := by
  have hvalue : (BitVec.ofNat 32 (valueOf 256 [a, b, c, d])).toNat =
      256 * (256 * (256 * a + b) + c) + d := by
    simp only [valueOf, List.foldl_cons, List.foldl_nil, BitVec.toNat_ofNat]
    omega
  have hfirst : (256 * (256 * (256 * a + b) + c) + d) / 2 ^ 24 = a := by omega
  have hsecond : (256 * (256 * (256 * a + b) + c) + d) / 2 ^ 16 % 256 = b := by omega
  have hthird : (256 * (256 * (256 * a + b) + c) + d) / 2 ^ 8 % 256 = c := by omega
  have hfourth : (256 * (256 * (256 * a + b) + c) + d) % 256 = d := by omega
  simp only [dotted, hvalue, hfirst, hsecond, hthird, hfourth]

/-- **An IPv4 address prints as the text that it was read from.** -/
theorem dotted_of_readDotted? {cs : List Char} {host : BitVec 32}
    (h : readDotted? cs = some host) : dotted host = cs := by
  simp only [readDotted?, Option.bind_eq_bind, Option.bind_eq_some_iff] at h
  obtain ⟨octets, hoctets, h⟩ := h
  obtain ⟨hle, hfields⟩ := eq_map_of_mapM eq_toDigits_of_readOctet? hoctets
  split at h
  · rename_i hlength
    obtain ⟨a, b, c, d, rfl⟩ := List.length_eq_four.1 hlength
    obtain rfl := Option.some.inj h
    rw [dotted_ofNat (hle a (by simp)) (hle b (by simp)) (hle c (by simp)) (hle d (by simp)),
      ← hfields, List.intercalate_splitOn]
  · simp at h

/-! ## Families -/

/-- A text without a colon is no IPv6 address: it has at most two words. -/
theorem colon_mem_of_readColons? {cs : List Char} {a : Address} (h : readColons? cs = some a) :
    ':' ∈ cs := by
  refine Decidable.byContradiction fun hcolon => ?_
  have hgap : splitGap? cs = none := by
    have hsplit := splitGap?_append hcolon []
    rw [List.append_nil] at hsplit
    rw [hsplit]
    rfl
  have hfields : ([':'].intercalate [cs]).splitOn ':' = [cs] :=
    List.splitOn_intercalate ':' (by simpa using hcolon) (by simp)
  rw [List.intercalate_singleton] at hfields
  simp only [readColons?, hgap, hfields, readFields?, Option.bind_eq_bind,
    Option.bind_eq_some_iff] at h
  obtain ⟨words, hwords, h⟩ := h
  have hlength : words.length ≤ 2 := by
    split at hwords
    · simp only [Option.bind_eq_some_iff, Option.some.injEq] at hwords
      obtain ⟨_, _, rfl⟩ := hwords
      simp
    · simp only [Option.map_eq_some_iff] at hwords
      obtain ⟨_, _, rfl⟩ := hwords
      simp
  rw [if_neg (by omega)] at h
  simp at h

namespace Address

theorem family_of_readAs? {f : Family} {text : String} {a : Address}
    (h : readAs? f text = some a) : a.family = f := by
  cases f with
  | inet =>
      obtain ⟨_, _, rfl⟩ := Option.map_eq_some_iff.1 h
      rfl
  | inet6 =>
      have hsome : readColons? text.toList = some a := h
      simp only [readColons?] at hsome
      split at hsome <;>
        simp only [Option.bind_eq_bind, Option.bind_eq_some_iff, Option.ite_none_right_eq_some,
          Option.some.injEq] at hsome
      · obtain ⟨_, _, _, rfl⟩ := hsome
        rfl
      · obtain ⟨_, _, _, _, _, rfl⟩ := hsome
        rfl

/-- An IPv4 address prints as the text that it was read from. -/
theorem text_of_readAs?_inet {text : String} {a : Address} (h : readAs? .inet text = some a) :
    a.text = text := by
  obtain ⟨host, hhost, rfl⟩ := Option.map_eq_some_iff.1 h
  rw [Address.text, dotted_of_readDotted? hhost, String.ofList_toList]

/-- **A text that is read as an address of a family shows that family.** -/
theorem ofText_of_readAs? {f : Family} {text : String} {a : Address}
    (h : readAs? f text = some a) : Family.ofText text = f := by
  cases f with
  | inet =>
      rw [← text_of_readAs?_inet h, Family.ofText_text, family_of_readAs? h]
  | inet6 =>
      have hcolon : ':' ∈ text.toList := colon_mem_of_readColons? h
      simp [Family.ofText, hcolon]

end Address

/-! ## Endpoints -/

namespace Endpoint

/-- The printed form of what a text denotes. -/
def printed (text : String) (port : Int) : Except SetupError String :=
  (read text port).map Endpoint.text

/-- A printed endpoint is read back. -/
theorem read_text (e : Endpoint) : read e.text e.port = .ok e := by
  have haddress : Address.readAs? (Family.ofText e.text) e.text = some e.address :=
    Address.read?_text e.address
  simp only [read, readAs, haddress]

theorem readAs_eq_ok_iff {f : Family} {text : String} {port : Int} {e : Endpoint} :
    readAs f text port = .ok e ↔ Address.readAs? f text = some e.address ∧ e.port = port := by
  unfold readAs
  cases Address.readAs? f text with
  | none => simp
  | some address =>
      obtain ⟨address', port'⟩ := e
      simp [eq_comm]

/-- Reading as a family finds nothing that reading by the text's own family does not. -/
theorem read_of_readAs {f : Family} {text : String} {port : Int} {e : Endpoint}
    (h : readAs f text port = .ok e) : e.family = f ∧ read text port = .ok e := by
  have hread := (readAs_eq_ok_iff.1 h).1
  exact ⟨Address.family_of_readAs? hread, by rw [read, Address.ofText_of_readAs? hread, h]⟩

/-- **An endpoint and its text determine each other, up to the spelling of IPv6.** Every 4 and every
    16 bytes are an endpoint whose printed form shows its family and is read back as the very same
    endpoint. A text that is read as IPv4 is the printed form of what it denotes; a text that is read
    as IPv6 denotes the same address as its printed form, which prints as itself. -/
theorem text_determines_address :
    (∀ (f : Family) (bytes : Octets) (port : Int), bytes.length = f.size →
      ∃ e, ofPacked f bytes port = .ok e ∧ e.family = f ∧ e.packed = bytes ∧ e.port = port ∧
        Family.ofText e.text = e.family ∧ read e.text port = .ok e) ∧
    (∀ (text : String) (port : Int) (e : Endpoint), readAs .inet text port = .ok e →
      e.family = .inet ∧ read text port = .ok e ∧ printed text port = .ok text) ∧
    (∀ (text : String) (port : Int) (e : Endpoint), readAs .inet6 text port = .ok e →
      e.family = .inet6 ∧ read text port = .ok e ∧ printed text port = .ok e.text ∧
        read e.text port = .ok e ∧ printed e.text port = .ok e.text) := by
  refine ⟨fun f bytes port hlength => ?_, fun text port e he => ?_, fun text port e he => ?_⟩
  · obtain ⟨address, haddress⟩ : ∃ address, Address.ofPacked? f bytes = some address := by
      unfold Address.ofPacked?
      rw [if_pos hlength]
      cases f <;> exact ⟨_, rfl⟩
    obtain ⟨hfamily, hbytes⟩ := Address.eq_packed_of_ofPacked? haddress
    exact ⟨⟨address, port⟩, by simp only [ofPacked, haddress], hfamily, hbytes.symm, rfl,
      Family.ofText_text address, read_text ⟨address, port⟩⟩
  · obtain ⟨hfamily, hread⟩ := read_of_readAs he
    have htext : e.text = text := Address.text_of_readAs?_inet (readAs_eq_ok_iff.1 he).1
    exact ⟨hfamily, hread, by rw [printed, hread, Except.map, htext]⟩
  · obtain ⟨hfamily, hread⟩ := read_of_readAs he
    obtain rfl : e.port = port := (readAs_eq_ok_iff.1 he).2
    have hback := read_text e
    exact ⟨hfamily, hread, by rw [printed, hread, Except.map], hback,
      by rw [printed, hback, Except.map]⟩

/-- The bytes of an address that embeds an IPv4 one print it so and are read back, the octets of an
    IPv4 text are kept as they are, and a long spelling of an IPv6 address is read as what its short
    form denotes. -/
theorem spellings_denote_addresses :
    (∃ e, ofPacked .inet6 (zeros 10 ++ [0xff, 0xff, 10, 0, 0, 255]) 1234 = .ok e ∧
      e.text = "::ffff:10.0.0.255" ∧ read e.text 1234 = .ok e) ∧
    printed "225.1.2.0" 1234 = .ok "225.1.2.0" ∧
    printed "FF2E:0:0:0:01:0:0:1" 1234 = .ok "ff2e::1:0:0:1" ∧
    read "ff2e::1:0:0:1" 1234 = read "FF2E:0:0:0:01:0:0:1" 1234 := by
  obtain ⟨hbytes, hinet, hinet6⟩ := text_determines_address
  refine ⟨?_, ?_, ?_⟩
  · obtain ⟨e, he, -, -, -, -, hread⟩ :=
      hbytes .inet6 (zeros 10 ++ [0xff, 0xff, 10, 0, 0, 255]) 1234 rfl
    refine ⟨e, he, ?_, hread⟩
    have heq : e = ⟨.v6 0xffff 0x0a0000ff, 1234⟩ := Except.ok.inj (he.symm.trans (by decide))
    rw [heq]
    decide +kernel
  · exact (hinet "225.1.2.0" 1234 ⟨.v4 0xe1010200, 1234⟩ (by decide +kernel)).2.2
  · obtain ⟨-, hread, hprinted, hback, -⟩ := hinet6 "FF2E:0:0:0:01:0:0:1" 1234
      ⟨.v6 0xff2e00000000000000010000 1, 1234⟩ (by decide +kernel)
    have htext : Endpoint.text ⟨.v6 0xff2e00000000000000010000 1, 1234⟩ = "ff2e::1:0:0:1" := by
      decide +kernel
    rw [htext] at hprinted hback
    exact ⟨hprinted, hback.trans hread.symm⟩

end Endpoint

end Multicast
