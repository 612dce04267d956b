import Multicast.Proofs.Dashboard.Run

/-!
# `Proofs.Dashboard.Overhang` — rows that are longer than the screen is wide

The heading of the sessions is filled up to the width of the screen, and the lines of the log region
are cut to it. The row of a session is neither: its history takes all columns but fifty, and the rest
of the row at least 51. So a row is one to four characters longer than the screen is wide, unless the
screen is so wide that the whole history leaves room on it.

## Contents
- **Headings.** `size_sessionHeading`: the heading of the sessions is as long as the screen is wide.
- **Rows.** `painted_rows_hang_over`, what a paint writes for a session and how long it is; the longest
  rows (`long_row_hangs_over`), and a fresh session's on a usual terminal (`fresh_row_exceeds_screen`).
-/

namespace Multicast.Dashboard

open Act Text

/-! ## Headings -/

/-- A text that is filled up with blanks has as many characters more. -/
theorem size_filled {left right : String} (hleft : halfMark ∉ left.toList)
    (hright : halfMark ∉ right.toList) (n : Nat) :
    size (left ++ blanks n ++ right) = left.toList.length + n + right.toList.length := by
  have hblanks : halfMark ∉ (blanks n).toList := by
    intro hmem
    rw [blanks, String.toList_ofList] at hmem
    exact blank_ne_halfMark (List.eq_of_mem_replicate hmem).symm
  have hplain : halfMark ∉ (left ++ blanks n ++ right).toList := by
    simp [hleft, hblanks, hright]
  rw [size, points_eq_map_toNat hplain]
  simp [blanks, Nat.add_assoc]

/-- **The heading of the sessions fills the screen exactly.** -/
theorem size_sessionHeading {d : Dashboard} {memory : Nat} {text : String} (hwidth : 55 < d.width)
    (h : d.sessionHeading? memory = .ok text) : (size text : Int) = d.width := by
  unfold sessionHeading? heading? at h
  cases hroom : Room.forText? memory (max (d.width - 55) 1) with
  | error e =>
      rw [hroom] at h
      cases h
  | ok n =>
      rw [hroom] at h
      obtain rfl := Except.ok.inj h
      have hfilled : (n : Int) = d.width - 55 := by
        unfold Room.forText? at hroom
        split at hroom
        · cases hroom
        · split at hroom
          · cases hroom
          · have hn := Except.ok.inj hroom
            omega
      have hleft : halfMark ∉ (padRight 31 "SOURCE,GROUP" ++ "    PLOTTER").toList ∧
          (padRight 31 "SOURCE,GROUP" ++ "    PLOTTER").toList.length = 42 := by decide +kernel
      have hright : halfMark ∉ "      PACKETS".toList ∧ "      PACKETS".toList.length = 13 := by
        decide +kernel
      rw [size_filled hleft.1 hright.1, hleft.2, hright.2]
      omega

/-! ## Rows -/

/-- **A paint writes rows that are longer than the screen is wide.** For a session in sight it writes
    the row, unless that is taken to be there already. The row takes the columns of the screen, as
    far as there is history for them, and the overhang. -/
theorem painted_rows_hang_over {advance : Bool} {w w' : World}
    (h : paint .record advance w = .ok () w') (hwidth : 50 < w.dashboard.width) {k : Nat}
    {s : Session} (hs : w.table.sessions[k]? = some s) (hcount : 0 ≤ s.count ∧ s.count < 10 ^ 13) :
    ∃ line, line = s.row s.glyph w.dashboard.window ∧
      w'.sight.on (firstRow + k) = w.sight.on (firstRow + k) ++
        (if w.dashboard.hides k ∨ w.dashboard.painted.lookup k = some line then [] else [line]) ∧
      (size line : Int) = min w.dashboard.width (50 + History.slots) + s.overhang ∧
      (1 ≤ s.overhang ∧ s.overhang ≤ 4) ∧
      ((size line : Int) ≤ w.dashboard.width ↔
        50 + History.slots + s.overhang ≤ w.dashboard.width) := by
  have hsize : (size (s.row s.glyph w.dashboard.window) : Int) =
      min w.dashboard.width (50 + History.slots) + s.overhang := by
    rw [Session.size_row_of_count hcount.1 hcount.2, window]
    omega
  obtain ⟨hlow, hhigh⟩ := s.overhang_bounds
  refine ⟨_, rfl, ?_, hsize, ⟨hlow, hhigh⟩, ?_⟩
  · have htexts := congrArg Cell.texts (cell_of_paint h hs)
    by_cases hskip : w.dashboard.hides k ∨
        w.dashboard.painted.lookup k = some (s.row s.glyph w.dashboard.window)
    · have hsame : (w.dashboard.cell w.sight k).paint (w.dashboard.hides k)
          (s.row s.glyph w.dashboard.window) = w.dashboard.cell w.sight k := if_pos hskip
      rw [if_pos hskip, List.append_nil]
      rwa [hsame] at htexts
    · have hadded : (w.dashboard.cell w.sight k).paint (w.dashboard.hides k)
          (s.row s.glyph w.dashboard.window) = ⟨w.sight.on (firstRow + k) ++
            [s.row s.glyph w.dashboard.window], some (s.row s.glyph w.dashboard.window)⟩ :=
        if_neg hskip
      rw [if_neg hskip]
      rwa [hadded] at htexts
  · rw [hsize]
    omega

/-- A session whose label has 39 characters, of which a row shows 34. -/
def longSession : Session where
  source := some "2001:db8:0:1::1234:5678"
  group := "ff3e::8000:1234"

/-- That session alone, on a terminal of 120 columns. -/
def longLabelled : World where
  flags := { period := .ofNat 1 }
  table := { sessions := [longSession] }
  dashboard := { width := 120 }

/-- Its row is as long as rows get: four characters longer than the screen is wide. -/
theorem long_row_hangs_over :
    ∃ w' line, paint .record true longLabelled = .ok () w' ∧ w'.sight.on firstRow = [line] ∧
      (size line : Int) = 124 ∧ ¬(size line : Int) ≤ longLabelled.dashboard.width := by
  have hanswers : Answers longLabelled := ⟨⟨_, rfl⟩, fun f hf => by cases hf⟩
  obtain ⟨w', hpaint⟩ := exists_paint true hanswers
  obtain ⟨line, -, hon, hsize, -, hfits⟩ :=
    painted_rows_hang_over hpaint (k := 0) (by decide) rfl (by decide)
  have hoverhang : longSession.overhang = 4 := by decide +kernel
  have hwritten : ¬(longLabelled.dashboard.hides 0 ∨
      longLabelled.dashboard.painted.lookup 0 = some line) := by
    rintro (hhides | hpainted)
    · cases hhides
    · cases hpainted
  rw [if_neg hwritten] at hon
  rw [hoverhang] at hsize hfits
  refine ⟨w', line, hpaint, hon, hsize, ?_⟩
  rw [hfits]
  decide

/-- **A usual terminal is not wide enough**: the row of a fresh session takes 81 characters on 80
    columns. -/
theorem fresh_row_exceeds_screen :
    fresh.dashboard.width = 80 ∧ ∃ w', paint .record true fresh = .ok () w' ∧
      ∃ line ∈ w'.sight.on firstRow, size line = 81 := by
  have hanswers : Answers fresh := ⟨⟨_, rfl⟩, fun f hf => by cases hf⟩
  obtain ⟨w', hpaint⟩ := exists_paint true hanswers
  have hcell := cell_of_paint hpaint (k := 0) rfl
  have htexts : w'.sight.on firstRow = [Session.row { source := none, group := "225.1.2.3" }
      (Session.glyph { source := none, group := "225.1.2.3" }) 30] := congrArg Cell.texts hcell
  refine ⟨rfl, w', hpaint, _, by rw [htexts]; exact List.mem_singleton_self _, ?_⟩
  rw [Session.size_row_of_count (by decide) (by decide)]
  decide +kernel

end Multicast.Dashboard
