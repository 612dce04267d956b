import Multicast.Interfaces
import Multicast.Proofs.Address.RoundTrip

/-!
# `Proofs.Address.Spelling` — the characters of an address

Whatever spelling of an address is read, it is made of hexadecimal digits, dots and colons. So an
address is never cut where a token or a listing is, and it has no blanks to be trimmed.

## Contents
- **Characters.** `Spelled`, and that neither blanks nor the marks of a token are among them.
- **Fields.** `spelled_of_readOctet?` and `spelled_of_readWord?`, then `spelled_of_readDotted?`.
- **Addresses.** `spelled_of_readColons?` and `Address.spelled_of_read?`.
-/

namespace Multicast

open Interfaces (isAddressChar)

/-! ## Characters -/

/-- A text of nothing but the characters of addresses. -/
def Spelled (cs : List Char) : Prop := ∀ c ∈ cs, isAddressChar c = true

theorem Spelled.append {cs ds : List Char} (hcs : Spelled cs) (hds : Spelled ds) :
    Spelled (cs ++ ds) := by
  intro c hc
  exact (List.mem_append.1 hc).elim (hcs c) (hds c)

/-- Fields between marks are spelled if each of them is. -/
theorem Spelled.intercalate {mark : Char} {fields : List (List Char)} (hmark : isAddressChar mark)
    (h : ∀ field ∈ fields, Spelled field) : Spelled ([mark].intercalate fields) := by
  intro c hc
  rcases mem_intercalate hc with rfl | ⟨field, hfield, hc⟩
  · exact hmark
  · exact h field hfield c hc

/-- Neither a blank nor a mark that tokens are cut at is a character of an address. -/
theorem isAddressChar_plain {c : Char} (h : isAddressChar c) :
    Text.isBlank c = false ∧ c ≠ ',' ∧ c ≠ '+' := by
  have hascii : c.toNat < 128 := by
    simp only [isAddressChar, Bool.or_eq_true, Bool.and_eq_true, decide_eq_true_eq, beq_iff_eq] at h
    have hbound : ∀ d : Char, d.toNat < 128 → c ≤ d → c.toNat < 128 := by
      intro d hd hle
      exact Nat.lt_of_le_of_lt hle hd
    rcases h with ((((⟨-, hle⟩ | ⟨-, hle⟩) | ⟨-, hle⟩) | rfl) | rfl)
    · exact hbound '9' (by decide) hle
    · exact hbound 'f' (by decide) hle
    · exact hbound 'F' (by decide) hle
    · decide
    · decide
  have hall : ∀ n < 128, isAddressChar (Char.ofNat n) = true →
      Text.isBlank (Char.ofNat n) = false ∧ Char.ofNat n ≠ ',' ∧ Char.ofNat n ≠ '+' := by
    decide +kernel
  rw [← Char.ofNat_toNat c] at h ⊢
  exact hall c.toNat hascii h

/-! ## Fields -/

theorem isAddressChar_of_hexValue? {c : Char} {d : Nat} (h : hexValue? c = some d) :
    isAddressChar c := by
  unfold hexValue? at h
  split at h
  · rename_i hc
    simp [isAddressChar, hc]
  · split at h
    · rename_i hc
      simp [isAddressChar, hc]
    · split at h
      · rename_i hc
        simp [isAddressChar, hc]
      · cases h

theorem isAddressChar_of_decimalValue? {c : Char} {d : Nat} (h : decimalValue? c = some d) :
    isAddressChar c := by
  unfold decimalValue? at h
  split at h
  · rename_i hc
    simp [isAddressChar, hc]
  · cases h

/-- Where all of a list is read, each element is. -/
theorem exists_of_mapM {α β : Type} {read? : α → Option β} {as : List α} {bs : List β}
    (h : as.mapM read? = some bs) : ∀ a ∈ as, ∃ b, read? a = some b := by
  induction as generalizing bs with
  | nil => simp
  | cons a as ih =>
      rw [List.mapM_cons] at h
      simp only [Option.bind_eq_bind, Option.bind_eq_some_iff] at h
      obtain ⟨b, hb, rest, hrest, -⟩ := h
      exact List.forall_mem_cons.2 ⟨⟨b, hb⟩, ih hrest⟩

theorem spelled_of_readOctet? {cs : List Char} {n : Nat} (h : readOctet? cs = some n) :
    Spelled cs := by
  simp only [readOctet?, Option.bind_eq_bind, Option.bind_eq_some_iff] at h
  obtain ⟨ds, hds, -⟩ := h
  intro c hc
  obtain ⟨d, hd⟩ := exists_of_mapM hds c hc
  exact isAddressChar_of_decimalValue? hd

theorem spelled_of_readWord? {cs : List Char} {n : Nat} (h : readWord? cs = some n) :
    Spelled cs := by
  simp only [readWord?, Option.bind_eq_bind, Option.bind_eq_some_iff] at h
  obtain ⟨ds, hds, -⟩ := h
  intro c hc
  obtain ⟨d, hd⟩ := exists_of_mapM hds c hc
  exact isAddressChar_of_hexValue? hd

/-- **An IPv4 address is spelled with digits and dots.** -/
theorem spelled_of_readDotted? {cs : List Char} {host : BitVec 32}
    (h : readDotted? cs = some host) : Spelled cs := by
  simp only [readDotted?, Option.bind_eq_bind, Option.bind_eq_some_iff] at h
  obtain ⟨octets, hoctets, -⟩ := h
  have hfields : ['.'].intercalate (cs.splitOn '.') = cs := List.intercalate_splitOn '.'
  rw [← hfields]
  apply Spelled.intercalate (by decide)
  intro field hfield
  obtain ⟨n, hn⟩ := exists_of_mapM hoctets field hfield
  exact spelled_of_readOctet? hn

/-! ## Addresses -/

/-- The gap stands where it was found. -/
theorem eq_append_of_splitGap? {cs before after : List Char}
    (h : splitGap? cs = some (before, after)) : cs = before ++ ':' :: ':' :: after := by
  fun_induction splitGap? cs generalizing before with
  | case1 => cases h
  | case2 cs =>
      obtain ⟨rfl, rfl⟩ := Prod.mk.inj (Option.some.inj h)
      rfl
  | case3 c cs _ ih =>
      obtain ⟨⟨front, back⟩, hsplit, hparts⟩ := Option.map_eq_some_iff.1 h
      obtain ⟨rfl, rfl⟩ := Prod.mk.inj hparts
      rw [ih hsplit, List.cons_append]

/-- Fields that are read as words are spelled; the last one may be a dotted address. -/
theorem spelled_of_readFields? {fields : List (List Char)} {ws : List Nat}
    (h : readFields? fields = some ws) : ∀ field ∈ fields, Spelled field := by
  fun_induction readFields? fields generalizing ws with
  | case1 => simp
  | case2 last hdot =>
      simp only [Option.bind_eq_bind, Option.bind_eq_some_iff] at h
      obtain ⟨host, hhost, -⟩ := h
      simpa using spelled_of_readDotted? hhost
  | case3 last hdot =>
      obtain ⟨word, hword, -⟩ := Option.map_eq_some_iff.1 h
      simpa using spelled_of_readWord? hword
  | case4 field fields _ ih =>
      simp only [Option.bind_eq_bind, Option.bind_eq_some_iff] at h
      obtain ⟨word, hword, rest, hrest, -⟩ := h
      exact List.forall_mem_cons.2 ⟨spelled_of_readWord? hword, ih hrest⟩

theorem intercalate_colonFields (cs : List Char) : [':'].intercalate (colonFields cs) = cs := by
  unfold colonFields
  split
  · rename_i h
    rw [h]
    rfl
  · exact List.intercalate_splitOn ':'

/-- **An IPv6 address is spelled with hexadecimal digits, dots and colons.** -/
theorem spelled_of_readColons? {cs : List Char} {a : Address} (h : readColons? cs = some a) :
    Spelled cs := by
  have hcolon : isAddressChar ':' := by decide
  unfold readColons? at h
  cases hgap : splitGap? cs with
  | none =>
      rw [hgap] at h
      simp only [Option.bind_eq_bind, Option.bind_eq_some_iff] at h
      obtain ⟨ws, hws, -⟩ := h
      have hfields : [':'].intercalate (cs.splitOn ':') = cs := List.intercalate_splitOn ':'
      rw [← hfields]
      exact .intercalate hcolon (spelled_of_readFields? hws)
  | some parts =>
      obtain ⟨before, after⟩ := parts
      rw [hgap] at h
      simp only [Option.bind_eq_bind, Option.bind_eq_some_iff] at h
      obtain ⟨left, hleft, right, hright, -⟩ := h
      have hbefore : Spelled before := by
        rw [← intercalate_colonFields before]
        apply Spelled.intercalate hcolon
        intro field hfield
        obtain ⟨n, hn⟩ := exists_of_mapM hleft field hfield
        exact spelled_of_readWord? hn
      have hafter : Spelled after := by
        rw [← intercalate_colonFields after]
        exact .intercalate hcolon (spelled_of_readFields? hright)
      rw [eq_append_of_splitGap? hgap]
      refine hbefore.append ?_
      exact List.forall_mem_cons.2 ⟨hcolon, List.forall_mem_cons.2 ⟨hcolon, hafter⟩⟩

namespace Address

/-- **Every text of an address is spelled with the characters of addresses.** -/
theorem spelled_of_read? {text : String} {a : Address} (h : read? text = some a) :
    Spelled text.toList := by
  unfold read? readAs? at h
  split at h
  · obtain ⟨host, hhost, -⟩ := Option.map_eq_some_iff.1 h
    exact spelled_of_readDotted? hhost
  · exact spelled_of_readColons? h

/-- No address is an empty text. -/
theorem ne_nil_of_read? {text : String} {a : Address} (h : read? text = some a) :
    text.toList ≠ [] := by
  intro hnil
  have hnone : read? (String.ofList []) = none := by decide +kernel
  rw [← String.ofList_toList (s := text), hnil, hnone] at h
  cases h

end Address

end Multicast
