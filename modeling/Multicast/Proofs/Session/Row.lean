import Multicast.Session

/-!
# `Proofs.Session.Row` — the length of a session's row

A row is as long as its label, its history and its count make it, whatever the session has seen in
between. So rows of one session never get shorter as long as it goes on counting.

## Contents
- **Counts.** `size_toString_le_iff`, how many digits a count has; `size_toString_mono`: greater counts
  have no fewer.
- **Rows.** `Session.size_row`, and `Session.size_row_mono` for two rows of one session;
  `Session.size_row_of_count`, as long as the count does not widen its column.
-/

namespace Multicast

open Text

/-! ## Counts -/

/-- No character of a number is the mark of a half. -/
theorem halfMark_notMem_toDigits (n : Nat) : halfMark ∉ Nat.toDigits 10 n := by
  intro hmem
  have hdigit := Nat.isDigit_of_mem_toDigits (by decide) (by decide) hmem
  exact absurd hdigit (by decide)

theorem toList_toString_ofNat (n : Nat) : (toString (n : Int)).toList = Nat.toDigits 10 n :=
  Nat.toList_repr

/-- A number has as many characters as digits. -/
theorem size_toString_natCast (n : Nat) :
    size (toString (n : Int)) = (Nat.toDigits 10 n).length := by
  rw [size, toList_toString_ofNat, points_eq_map_toNat (halfMark_notMem_toDigits n), List.length_map]

/-- Exactly the numbers below a power of ten fit in as many digits as its exponent. -/
theorem size_toString_le_iff {n : Int} (hpos : 0 ≤ n) {k : Nat} (hk : 0 < k) :
    size (toString n) ≤ k ↔ n < 10 ^ k := by
  obtain ⟨m, rfl⟩ := Int.eq_ofNat_of_zero_le hpos
  rw [size_toString_natCast, Nat.length_toDigits_le_iff (by decide) hk]
  exact_mod_cast Iff.rfl

/-- A greater number has no fewer digits. -/
theorem size_toString_mono {a b : Int} (hpos : 0 ≤ a) (hle : a ≤ b) :
    size (toString a) ≤ size (toString b) := by
  have hdigits : 0 < size (toString b) := by
    obtain ⟨n, rfl⟩ := Int.eq_ofNat_of_zero_le (Int.le_trans hpos hle)
    rw [size_toString_natCast]
    exact Nat.length_toDigits_pos
  rw [size_toString_le_iff hpos hdigits]
  have hb := (size_toString_le_iff (Int.le_trans hpos hle) hdigits).1 (Nat.le_refl _)
  exact Int.lt_of_le_of_lt hle hb

/-! ## Rows -/

namespace Session

/-- The spinner is one character, and not the mark of a half. -/
theorem glyph_eq_singleton (s : Session) : ∃ c, s.glyph.toList = [c] ∧ c ≠ halfMark := by
  have hlt : (s.spin % 4).toNat < 4 := by omega
  unfold glyph
  generalize (s.spin % 4).toNat = k at hlt
  match k, hlt with
  | 0, _ => exact ⟨'|', rfl, by decide⟩
  | 1, _ => exact ⟨'/', rfl, by decide⟩
  | 2, _ => exact ⟨'-', rfl, by decide⟩
  | 3, _ => exact ⟨'\\', rfl, by decide⟩

/-- The label as it stands in a row. -/
def caption (s : Session) : String := padRight 31 (take 34 s.label)

/-- **The length of a row**: its label, seven characters between the parts with the spinner among
    them, the history, and the count. -/
theorem size_row {s : Session} (hcount : 0 ≤ s.count) (width : Nat) :
    size (s.row s.glyph width) =
      size s.caption + 7 + width + max 13 (size (toString s.count)) := by
  obtain ⟨c, hglyph, hc⟩ := s.glyph_eq_singleton
  obtain ⟨n, hn⟩ := Int.eq_ofNat_of_zero_le hcount
  have hrow : s.row s.glyph width = s.caption ++ "  " ++ s.glyph ++ " [" ++
      String.ofList (s.history.window width) ++ "] " ++ padLeft 13 (toString s.count) := rfl
  have hparts : (s.row s.glyph width).toList = s.caption.toList ++ ' ' :: (' ' :: c :: ' ' :: '[' ::
      s.history.window width ++ ']' :: ' ' :: (padLeft 13 (toString s.count)).toList) := by
    rw [hrow]
    simp [String.toList_append, hglyph]
  -- Only the caption of a row can hold the mark of a half. Of all else, each character is one point.
  have hwindow : halfMark ∉ s.history.window width := by
    intro hmem
    obtain ⟨k, -, hk⟩ := List.mem_map.1 hmem
    unfold History.glyph at hk
    split at hk
    · exact absurd hk (by decide)
    · exact absurd hk (by decide)
  have hpad : halfMark ∉ (padLeft 13 (toString s.count)).toList := by
    rw [padLeft, hn, String.toList_append, toList_toString_ofNat, String.toList_ofList,
      List.mem_append, not_or]
    refine ⟨fun hmem => ?_, halfMark_notMem_toDigits n⟩
    exact blank_ne_halfMark (List.eq_of_mem_replicate hmem).symm
  have hplain : halfMark ∉ ' ' :: (' ' :: c :: ' ' :: '[' ::
      s.history.window width ++ ']' :: ' ' :: (padLeft 13 (toString s.count)).toList) := by
    simp only [List.cons_append, List.mem_cons, List.mem_append, not_or]
    have hfixed : halfMark ≠ ' ' ∧ halfMark ≠ '[' ∧ halfMark ≠ ']' := by decide
    exact ⟨hfixed.1, hfixed.1, hc.symm, hfixed.1, hfixed.2.1, hwindow, hfixed.2.2, hfixed.1, hpad⟩
  have hdigits : (padLeft 13 (toString s.count)).toList.length =
      max 13 (size (toString s.count)) := by
    rw [← size_padLeft, size, points_eq_map_toNat hpad, List.length_map]
  rw [size, hparts, points_append_cons (by decide), List.length_append, points_eq_map_toNat hplain,
    List.length_map, size]
  simp only [List.cons_append, List.length_cons, List.length_append, History.length_window, hdigits]
  omega

/-- **Rows of one session never get shorter** while it goes on counting. -/
theorem size_row_mono {s s' : Session} (hlabel : s.label = s'.label) (hpos : 0 ≤ s.count)
    (hle : s.count ≤ s'.count) (width : Nat) :
    size (s.row s.glyph width) ≤ size (s'.row s'.glyph width) := by
  rw [size_row hpos, size_row (Int.le_trans hpos hle), caption, caption, hlabel]
  have hdigits := size_toString_mono hpos hle
  omega

/-- The columns of a row beside its history, beyond fifty of them: the label takes at least 31, the
    count 13 and all else seven. -/
def overhang (s : Session) : Nat := max 31 (min 34 (size s.label)) - 30

/-- **A row always takes more than fifty columns** beside its history. -/
theorem overhang_bounds (s : Session) : 1 ≤ s.overhang ∧ s.overhang ≤ 4 := by
  unfold overhang
  omega

/-- The length of a row whose count fits in its column. -/
theorem size_row_of_count {s : Session} (hpos : 0 ≤ s.count) (hcount : s.count < 10 ^ 13)
    (width : Nat) : size (s.row s.glyph width) = width + 50 + s.overhang := by
  have hdigits := (size_toString_le_iff hpos (by decide)).2 hcount
  rw [size_row hpos, caption, size_padRight, size_take, overhang]
  omega

end Session

end Multicast
