import Multicast.Bits

/-!
# `Multicast.Text.Point` — the code points of a text

A text is a sequence of code points. Most of them are characters, but the halves of surrogate pairs,
from U+D800 to U+DFFF, are not, and a string has no place for them. A string holds a half as two
private characters, a mark and one for the half, and the mark itself twice. Lengths, cuts and quotes
go by code points and not by characters.

## Contents
- **Halves.** `isHalf`, `halfMark` and `companion?`, what a character behind the mark stands for.
- **Code points.** `ofPoints` and `points`: every sequence of code points comes back from its text
  (`points_ofPoints`). A text without the mark has its characters as code points
  (`points_eq_map_toNat`).
- **Lengths.** `size` and `take`, with `points_take` and `size_take`.
-/

namespace Multicast.Text

/-! ## Halves -/

/-- Whether a code point is half of a surrogate pair. -/
def isHalf (n : Nat) : Bool := decide (0xD800 ≤ n ∧ n ≤ 0xDFFF)

/-- How far above a half its private character stands. -/
def halfOffset : Nat := 2 ^ 20

/-- The private character that a half starts with. -/
def halfMark : Char := Char.ofNat 0x10D7FF

/-- The code point that a character stands for behind the mark. -/
def companion? (c : Char) : Option Nat :=
  if c = halfMark then some halfMark.toNat
  else if halfOffset ≤ c.toNat ∧ isHalf (c.toNat - halfOffset) then some (c.toNat - halfOffset)
  else none

/-! ## Code points -/

/-- The characters that a string holds for a code point. -/
def charsOf (n : Nat) : List Char :=
  if isHalf n then [halfMark, Char.ofNat (n + halfOffset)]
  else if n = halfMark.toNat then [halfMark, halfMark]
  else [Char.ofNat n]

/-- The characters of a text from its code points. -/
def ofPoints (ps : List Nat) : List Char := ps.flatMap charsOf

/-- The code points of a text. A mark that stands for nothing stands for itself. -/
def points : List Char → List Nat
  | [] => []
  | [c] => [c.toNat]
  | c :: d :: rest =>
    match (if c = halfMark then companion? d else none) with
    | some n => n :: points rest
    | none => c.toNat :: points (d :: rest)

@[simp] theorem points_nil : points [] = [] := by simp [points]

theorem points_cons_of_ne {c : Char} (h : c ≠ halfMark) (cs : List Char) :
    points (c :: cs) = c.toNat :: points cs := by
  cases cs <;> simp [points, h]

theorem points_halfMark_cons {d : Char} {n : Nat} (h : companion? d = some n) (cs : List Char) :
    points (halfMark :: d :: cs) = n :: points cs := by
  simp [points, h]

/-- A text without the mark has its characters as code points. -/
theorem points_eq_map_toNat {cs : List Char} (h : halfMark ∉ cs) :
    points cs = cs.map Char.toNat := by
  induction cs with
  | nil => simp
  | cons c cs ih =>
    rw [List.mem_cons, not_or] at h
    rw [points_cons_of_ne (Ne.symm h.1), ih h.2, List.map_cons]

/-- Texts can be cut in front of a character that stands for nothing behind the mark. -/
theorem points_append_cons {d : Char} (h : companion? d = none) (cs ds : List Char) :
    points (cs ++ d :: ds) = points cs ++ points (d :: ds) := by
  fun_induction points cs with
  | case1 => rfl
  | case2 c => simp [points, h]
  | case3 c e rest n hn ih => simp [points, hn, ih]
  | case4 c e rest hn ih => simpa [points, hn] using ih

theorem toNat_ofNat_of_isValidChar {n : Nat} (h : n.isValidChar) : (Char.ofNat n).toNat = n := by
  rw [Char.ofNat, dif_pos h]
  rfl

theorem companion?_ofNat_add {n : Nat} (h : isHalf n) :
    companion? (Char.ofNat (n + halfOffset)) = some n := by
  have bounds := h
  simp only [isHalf, decide_eq_true_eq] at bounds
  have hn : (Char.ofNat (n + halfOffset)).toNat = n + halfOffset := by
    apply toNat_ofNat_of_isValidChar
    simp only [Nat.isValidChar, halfOffset]
    omega
  have hm : Char.ofNat (n + halfOffset) ≠ halfMark := by
    intro he
    have := congrArg Char.toNat he
    rw [hn, show halfMark.toNat = 0x10D7FF from rfl, halfOffset] at this
    omega
  simp [companion?, hm, hn, h]

/-- A code point comes back from its characters, whatever stands behind them. -/
theorem points_charsOf_append {n : Nat} (h : n < 0x110000) (cs : List Char) :
    points (charsOf n ++ cs) = n :: points cs := by
  rw [charsOf]
  split
  · rename_i half
    exact points_halfMark_cons (companion?_ofNat_add half) cs
  · rename_i whole
    split
    · rename_i hm
      rw [hm]
      exact points_halfMark_cons (by simp [companion?]) cs
    · rename_i hm
      have hn : (Char.ofNat n).toNat = n := by
        apply toNat_ofNat_of_isValidChar
        simp only [isHalf, decide_eq_true_eq] at whole
        simp only [Nat.isValidChar]
        omega
      have hne : Char.ofNat n ≠ halfMark := fun he => hm (by rw [← he, hn])
      rw [List.singleton_append, points_cons_of_ne hne, hn]

/-- Every sequence of code points comes back from its text. -/
theorem points_ofPoints {ps : List Nat} (h : ∀ p ∈ ps, p < 0x110000) : points (ofPoints ps) = ps := by
  induction ps with
  | nil => rfl
  | cons p ps ih =>
    rw [List.forall_mem_cons] at h
    rw [ofPoints, List.flatMap_cons, points_charsOf_append h.1]
    exact congrArg _ (ih h.2)

theorem lt_of_companion? {c : Char} {n : Nat} (h : companion? c = some n) : n < 0x110000 := by
  unfold companion? at h
  split at h
  · obtain rfl := Option.some.inj h
    decide
  · split at h
    · rename_i hhalf
      obtain rfl := Option.some.inj h
      have hbound := hhalf.2
      simp only [isHalf, decide_eq_true_eq] at hbound
      omega
    · cases h

/-- The code points of a text are code points. -/
theorem lt_of_mem_points {cs : List Char} {p : Nat} (h : p ∈ points cs) : p < 0x110000 := by
  have hchar : ∀ c : Char, c.toNat < 0x110000 := by
    intro c
    have hvalid := c.valid
    simp only [UInt32.isValidChar, Nat.isValidChar] at hvalid
    show c.val.toNat < _
    omega
  fun_induction points cs with
  | case1 => cases h
  | case2 c =>
    obtain rfl := List.mem_singleton.1 h
    exact hchar c
  | case3 c d rest n hn ih =>
    rcases List.mem_cons.1 h with rfl | h
    · split at hn
      · exact lt_of_companion? hn
      · cases hn
    · exact ih h
  | case4 c d rest hn ih =>
    rcases List.mem_cons.1 h with rfl | h
    · exact hchar c
    · exact ih h

/-! ## Lengths -/

/-- The length of a text. -/
def size (s : String) : Nat := (points s.toList).length

/-- The first code points of a text. -/
def take (n : Nat) (s : String) : String := String.ofList (ofPoints ((points s.toList).take n))

/-- A text that is cut has the first of its code points. -/
theorem points_take (n : Nat) (s : String) : points (take n s).toList = (points s.toList).take n := by
  have hpoints : ∀ p ∈ (points s.toList).take n, p < 0x110000 := fun p hp =>
    lt_of_mem_points (List.mem_of_mem_take hp)
  rw [take, String.toList_ofList, points_ofPoints hpoints]

/-- A text that is cut is as long as it is cut to, or shorter. -/
@[simp] theorem size_take (n : Nat) (s : String) : size (take n s) = min n (size s) := by
  rw [size, points_take, List.length_take, size]

end Multicast.Text
