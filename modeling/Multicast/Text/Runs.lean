import Multicast.Text.Split

/-!
# `Multicast.Text.Runs` — texts as runs of code points

A text that is filled up to a width can be far longer than what it says. It is kept as runs, each of
them a code point and how often it stands, so that its length and its lines are known without writing
it out.

## Contents
- **Runs.** `Run` and `Runs`. `Runs.points` are the code points that runs stand for, and each
  operation comes with what it does to them.
- **Lines.** `Runs.lines`, which stand for the lines of the text (`map_points_lines`).
-/

namespace Multicast.Text

/-! ## Runs -/

/-- A code point, and how often it stands. -/
structure Run where
  point : Nat
  count : Nat
deriving Repr, DecidableEq

/-- The character that a run shows; halves of surrogate pairs show none. -/
def Run.char (r : Run) : Char := Char.ofNat r.point

/-- A text as the runs of its code points. -/
abbrev Runs := List Run

namespace Runs

/-- The code points that runs stand for. -/
def points (rs : Runs) : List Nat := rs.flatMap fun r => List.replicate r.count r.point

/-- The text that runs stand for. -/
def text (rs : Runs) : String := String.ofList (ofPoints rs.points)

/-- The length of the text. -/
def size (rs : Runs) : Nat := (rs.map Run.count).sum

/-- Each code point on its own. -/
def ofPoints (ps : List Nat) : Runs := ps.map (⟨·, 1⟩)

/-- The code points of a text, each on its own. -/
def ofText (s : String) : Runs := ofPoints (Text.points s.toList)

/-- Characters that stand for themselves, each on its own. -/
def ofChars (cs : List Char) : Runs := ofPoints (cs.map Char.toNat)

/-- One character, repeated. -/
def repeated (count : Nat) (c : Char) : Runs := [⟨c.toNat, count⟩]

/-- The capitals of letters; all else stays. -/
def capitals (rs : Runs) : Runs := rs.map fun r => { r with point := r.char.toUpper.toNat }

@[simp] theorem points_nil : points [] = [] := rfl

@[simp] theorem points_cons (r : Run) (rs : Runs) :
    points (r :: rs) = List.replicate r.count r.point ++ points rs := by
  simp [points]

@[simp] theorem points_append (rs ss : Runs) : points (rs ++ ss) = points rs ++ points ss := by
  simp [points]

@[simp] theorem points_ofPoints (ps : List Nat) : points (ofPoints ps) = ps := by
  induction ps with
  | nil => rfl
  | cons p ps ih => simpa [ofPoints, List.replicate] using ih

@[simp] theorem points_repeated (count : Nat) (c : Char) :
    points (repeated count c) = List.replicate count c.toNat := by
  simp [repeated]

/-- The size is known without the text. -/
theorem size_eq_length_points (rs : Runs) : rs.size = rs.points.length := by
  induction rs with
  | nil => rfl
  | cons r rs ih => simpa [size] using ih

/-! ## Lines -/

/-- A run cut so that lines can end only between the pieces: none if it is empty, and one for each
line end. -/
def pieces (r : Run) : Runs :=
  if isLineEnd r.char then List.replicate r.count ⟨r.point, 1⟩
  else if r.count = 0 then []
  else [r]

/-- The lines of the text, as runs. -/
def lines (rs : Runs) : List Runs := Text.lines Run.char (rs.flatMap pieces)

theorem points_pieces (r : Run) : points (pieces r) = List.replicate r.count r.point := by
  rw [pieces]
  split
  · induction r.count with
    | zero => rfl
    | succ n ih => simp [List.replicate_succ, ih]
  · split <;> simp_all

theorem points_flatMap_pieces (rs : Runs) : points (rs.flatMap pieces) = points rs := by
  induction rs with
  | nil => rfl
  | cons r rs ih => simp [points_pieces, ih]

/-- A run that stands for some text, and for no more than one line end. -/
def IsPiece (r : Run) : Prop := 0 < r.count ∧ (isLineEnd r.char → r.count = 1)

theorem isPiece_of_mem_pieces {r p : Run} (h : p ∈ pieces r) : IsPiece p := by
  rw [pieces] at h
  split at h
  · rw [List.mem_replicate] at h
    simp [h.2, IsPiece]
  · split at h <;> simp_all [IsPiece, Nat.pos_iff_ne_zero]

theorem IsPiece.exists_count_eq {r : Run} (h : IsPiece r) : ∃ n, r.count = n + 1 :=
  ⟨r.count - 1, by have := h.1; omega⟩

/-- A run of code points that end no line goes into one line. -/
theorem lines_replicate_append {p : Nat} (h : isLineEnd (Char.ofNat p) = false) (n : Nat)
    (ps : List Nat) :
    Text.lines Char.ofNat (List.replicate (n + 1) p ++ ps) =
      putFirst (List.replicate (n + 1) p) (Text.lines Char.ofNat ps) := by
  induction n with
  | zero => simp [Text.lines, h]
  | succ n ih =>
    rw [List.replicate_succ, List.cons_append, Text.lines, ih]
    simp [h, List.replicate_succ]

theorem map_points_putFirst (p : Run) (ls : List Runs) :
    (putFirst [p] ls).map points =
      putFirst (List.replicate p.count p.point) (ls.map points) := by
  cases ls <;> simp [putFirst]

/-- Pieces show the characters at the ends of what they stand for. -/
theorem map_head?_points {ps : Runs} (h : ∀ p ∈ ps, IsPiece p) :
    (points ps).head?.map Char.ofNat = ps.head?.map Run.char := by
  cases ps with
  | nil => rfl
  | cons p ps =>
    obtain ⟨n, hn⟩ := (h p List.mem_cons_self).exists_count_eq
    simp [hn, List.replicate_succ, Run.char]

theorem map_points_lines_of_isPiece {ps : Runs} (h : ∀ p ∈ ps, IsPiece p) :
    (Text.lines Run.char ps).map points = Text.lines Char.ofNat (points ps) := by
  induction ps with
  | nil => rfl
  | cons p ps ih =>
    have hp := h p List.mem_cons_self
    have hps : ∀ q ∈ ps, IsPiece q := fun q hq => h q (List.mem_cons_of_mem p hq)
    have ih := ih hps
    rw [Text.lines]
    split
    · rename_i hend
      rw [points_cons, hp.2 hend, List.replicate_one, List.singleton_append, Text.lines,
        map_head?_points hps]
      rw [← Run.char, if_pos hend]
      split <;> simp [ih]
    · rename_i hend
      obtain ⟨n, hn⟩ := hp.exists_count_eq
      rw [map_points_putFirst, ih, points_cons, hn,
        lines_replicate_append (by simpa [Run.char] using hend)]

/-- The lines of runs stand for the lines of their text. -/
theorem map_points_lines (rs : Runs) :
    rs.lines.map points = Text.lines Char.ofNat rs.points := by
  rw [lines, map_points_lines_of_isPiece, points_flatMap_pieces]
  intro p hp
  obtain ⟨r, _, hr⟩ := List.mem_flatMap.1 hp
  exact isPiece_of_mem_pieces hr

end Runs

end Multicast.Text
