import Multicast.Dashboard

/-!
# `Proofs.Dashboard.Sight` — what the commands to a screen leave on it

Rows are looked at one by one, as if no text ran over into the next: what is on a row are the texts
written there since the screen was blanked, the last one on top.

## Contents
- **Sights.** `Sight`, what a list of commands leaves behind, and `Sight.on`, the texts of one row.
- **Adding.** `Sight.Adds`: commands that blank nothing and write only on some rows.
- **Drawing.** What the log region adds (`adds_logCommands`).
- **Rows of sessions.** `Dashboard.paintFrom`, since no row asks for more slots than there are
  (`row?_window`, `paintFrom?_eq`); `Dashboard.Cell`, one session's row with its place in the cache,
  and what painting does to it (`cell_paintFrom`).
-/

namespace Multicast

open Screen (Command)

/-! ## Sights -/

/-- The row of the cursor, and the texts written since the screen was blanked, each with its row. -/
structure Sight where
  row : Int := 0
  texts : List (Int × String) := []

namespace Sight

/-- What one command changes. -/
def step (v : Sight) : Command → Sight
  | .moveTo _ y => { v with row := y }
  | .write text _ => { v with texts := v.texts ++ [(v.row, text)] }
  | .clear => { v with texts := [] }
  | _ => v

/-- What is to be seen after some commands. -/
def after (v : Sight) (cs : List Command) : Sight := cs.foldl step v

/-- The texts written on a row, in their order. -/
def on (v : Sight) (y : Int) : List String := (v.texts.filter (·.1 = y)).map (·.2)

theorem after_append (v : Sight) (cs ds : List Command) :
    v.after (cs ++ ds) = (v.after cs).after ds :=
  List.foldl_append

/-! ## Adding -/

/-- The commands blank nothing, and write only on rows of a kind. -/
def Adds (p : Int → Prop) (cs : List Command) : Prop :=
  ∀ v : Sight, ∃ added, (v.after cs).texts = v.texts ++ added ∧ ∀ t ∈ added, p t.1

variable {p q : Int → Prop}

theorem adds_nil : Adds p [] := fun v => ⟨[], (List.append_nil _).symm, by simp⟩

theorem Adds.append {cs ds : List Command} (hcs : Adds p cs) (hds : Adds p ds) :
    Adds p (cs ++ ds) := by
  intro v
  obtain ⟨added, htexts, hadded⟩ := hcs v
  obtain ⟨more, htexts', hmore⟩ := hds (v.after cs)
  refine ⟨added ++ more, ?_, List.forall_mem_append.2 ⟨hadded, hmore⟩⟩
  rw [after_append, htexts', htexts, List.append_assoc]

theorem Adds.mono {cs : List Command} (h : Adds p cs) (hpq : ∀ y, p y → q y) : Adds q cs := by
  intro v
  obtain ⟨added, htexts, hadded⟩ := h v
  exact ⟨added, htexts, fun t ht => hpq _ (hadded t ht)⟩

theorem adds_place {x y : Int} {text : String} {style : Style} (hy : p y) :
    Adds p (Dashboard.place x y text style) := by
  intro v
  refine ⟨[(y, text)], rfl, ?_⟩
  simpa using hy

theorem adds_clearToEnd : Adds p [.clearToEnd] := fun v => ⟨[], (List.append_nil _).symm, by simp⟩

theorem adds_flatMap {α : Type} {f : α → List Command} {as : List α} (h : ∀ a ∈ as, Adds p (f a)) :
    Adds p (as.flatMap f) := by
  induction as with
  | nil => exact adds_nil
  | cons a as ih =>
      rw [List.flatMap_cons]
      exact (h a List.mem_cons_self).append (ih fun b hb => h b (List.mem_cons_of_mem a hb))

/-- A row that is not written on keeps its texts. -/
theorem Adds.on_eq {cs : List Command} (h : Adds p cs) {y : Int} (hy : ¬p y) (v : Sight) :
    (v.after cs).on y = v.on y := by
  obtain ⟨added, htexts, hadded⟩ := h v
  have hnone : added.filter (·.1 = y) = [] := by
    rw [List.filter_eq_nil_iff]
    intro t ht heq
    rw [decide_eq_true_eq] at heq
    exact hy (heq ▸ hadded t ht)
  rw [on, htexts, List.filter_append, hnone, List.append_nil]
  rfl

/-- Texts are on rows of a kind if those before were, and those added are. -/
theorem Adds.forall_texts {cs : List Command} (h : Adds p cs) {v : Sight} (hv : ∀ t ∈ v.texts, p t.1) :
    ∀ t ∈ (v.after cs).texts, p t.1 := by
  obtain ⟨added, htexts, hadded⟩ := h v
  rw [htexts]
  exact List.forall_mem_append.2 ⟨hv, hadded⟩

/-- A text put on a row comes behind those that are there, and leaves all other rows as they are. -/
theorem on_after_place (v : Sight) (x y : Int) (text : String) (style : Style) (y' : Int) :
    (v.after (Dashboard.place x y text style)).on y' =
      if y' = y then v.on y ++ [text] else v.on y' := by
  have htexts : (v.after (Dashboard.place x y text style)).texts = v.texts ++ [(y, text)] := rfl
  rw [on, htexts, List.filter_append, List.map_append]
  by_cases hy : y' = y
  · rw [if_pos hy, hy]
    simp [on]
  · rw [if_neg hy]
    have hne : ¬y = y' := fun h => hy h.symm
    simp [on, hne]

end Sight

/-! ## Drawing -/

namespace Dashboard

open Sight

theorem adds_logCommands (d : Dashboard) (sessions : Nat) (region : LogRegion) :
    Adds (logRow sessions ≤ ·) (d.logCommands sessions region) := by
  refine adds_flatMap fun p _ => ?_
  refine (adds_place ?_).append adds_clearToEnd
  omega

/-! ## Rows of sessions -/

/-- The number of slots that a session's row has room for. -/
def window (d : Dashboard) : Nat := (min (d.width - 50) History.slots).toNat

/-- **A row is never too wide for its history**: its window is cut to the slots that there are. -/
theorem row?_window (d : Dashboard) (s : Session) :
    s.row? s.glyph (min (d.width - 50) History.slots) = .ok (s.row s.glyph d.window) := by
  unfold Session.row? window
  rw [if_neg (by omega)]

/-- The rows of sessions as they are written, the first of them at the given position. -/
def paintFrom (d : Dashboard) (i : Nat) : List Session → List Command × Dashboard
  | [] => ([], d)
  | s :: rest =>
    let (here, d) := d.paintRow i (s.row s.glyph d.window)
    let (below, d) := d.paintFrom (i + 1) rest
    (here ++ below, d)

/-- **All rows can be written**, whatever the size of the screen. -/
theorem paintFrom?_eq (d : Dashboard) (i : Nat) (sessions : List Session) :
    d.paintFrom? i sessions = .ok (d.paintFrom i sessions) := by
  induction sessions generalizing d i with
  | nil => rfl
  | cons s rest ih =>
      unfold paintFrom?
      rw [show s.row? s.glyph d.columns = _ from d.row?_window s]
      show (do
        let (below, d') ← (d.paintRow i (s.row s.glyph d.window)).2.paintFrom? (i + 1) rest
        pure ((d.paintRow i (s.row s.glyph d.window)).1 ++ below, d') : Except Fault _) = _
      rw [ih]
      rfl

/-- The row of a session is out of sight. -/
def hides (d : Dashboard) (j : Nat) : Bool := d.height - 1 ≤ firstRow + j

/-- The texts on the row of a session, and what is taken to be on top of them. -/
structure Cell where
  texts : List String
  cached : Option String

/-- A row after a line was painted on it, unless it is out of sight or the line is there already. -/
def Cell.paint (hidden : Bool) (line : String) (c : Cell) : Cell :=
  if hidden ∨ c.cached = some line then c else ⟨c.texts ++ [line], some line⟩

/-- The row of the session at a position. -/
def cell (d : Dashboard) (v : Sight) (j : Nat) : Cell := ⟨v.on (firstRow + j), d.painted.lookup j⟩

theorem size_paintRow (d : Dashboard) (i : Nat) (line : String) :
    (d.paintRow i line).2.width = d.width ∧ (d.paintRow i line).2.height = d.height := by
  unfold paintRow
  split
  · exact ⟨rfl, rfl⟩
  · exact ⟨rfl, rfl⟩

/-- Painting a row changes neither which rows are in sight nor what they have room for. -/
theorem hides_paintRow (d : Dashboard) (i : Nat) (line : String) (j : Nat) :
    (d.paintRow i line).2.hides j = d.hides j ∧ (d.paintRow i line).2.window = d.window := by
  obtain ⟨hwidth, hheight⟩ := size_paintRow d i line
  exact ⟨congrArg (fun height : Int => decide (height - 1 ≤ firstRow + j)) hheight,
    congrArg (fun width : Int => (min (width - 50) History.slots).toNat) hwidth⟩

theorem lookup_filter_ne {i j : Nat} (hne : j ≠ i) (painted : List (Nat × String)) :
    (painted.filter (·.1 ≠ i)).lookup j = painted.lookup j := by
  induction painted with
  | nil => rfl
  | cons p painted ih =>
      by_cases hp : p.1 = i
      · have hj : (j == p.1) = false := by simpa [hp] using hne
        rw [List.filter_cons_of_neg (by simpa using hp), ih, List.lookup_cons, hj]
      · rw [List.filter_cons_of_pos (by simpa using hp), List.lookup_cons, List.lookup_cons, ih]

/-- Painting the row of a session changes no other. -/
theorem cell_paintRow (d : Dashboard) (v : Sight) (i : Nat) (line : String) (j : Nat) :
    (d.paintRow i line).2.cell (v.after (d.paintRow i line).1) j =
      if j = i then (d.cell v i).paint (d.hides i) line else d.cell v j := by
  unfold paintRow
  by_cases hskip : d.height - 1 ≤ firstRow + i ∨ d.painted.lookup i = some line
  · have hsame : (d.cell v i).paint (d.hides i) line = d.cell v i :=
      if_pos (hskip.imp_left decide_eq_true)
    rw [if_pos hskip, hsame]
    split
    · rename_i hj
      rw [hj]
      rfl
    · rfl
  · have hpaint : (d.cell v i).paint (d.hides i) line = ⟨v.on (firstRow + i) ++ [line], some line⟩ :=
      if_neg fun h => hskip (h.imp_left of_decide_eq_true)
    rw [if_neg hskip, hpaint]
    dsimp only [cell]
    rw [on_after_place]
    by_cases hj : j = i
    · rw [if_pos hj, hj, if_pos rfl]
      simp
    · have hrow : ¬firstRow + (j : Int) = firstRow + i := by omega
      rw [if_neg hj, if_neg hrow, List.lookup_cons, lookup_filter_ne hj]
      have hbeq : (j == i) = false := by simpa using hj
      rw [hbeq]

/-- Painting rows of sessions leaves those in front of them as they are. -/
theorem cell_paintFrom_of_lt (d : Dashboard) (v : Sight) {i j : Nat} (hj : j < i)
    (sessions : List Session) :
    (d.paintFrom i sessions).2.cell (v.after (d.paintFrom i sessions).1) j = d.cell v j := by
  induction sessions generalizing d v i with
  | nil => rfl
  | cons s sessions ih =>
      rw [paintFrom]
      dsimp only
      rw [after_append, ih _ _ (Nat.lt_succ_of_lt hj), cell_paintRow, if_neg (Nat.ne_of_lt hj)]

/-- **Painting sessions paints the row of each.** -/
theorem cell_paintFrom (d : Dashboard) (v : Sight) (i : Nat) {sessions : List Session} {k : Nat}
    {s : Session} (hs : sessions[k]? = some s) :
    (d.paintFrom i sessions).2.cell (v.after (d.paintFrom i sessions).1) (i + k) =
      (d.cell v (i + k)).paint (d.hides (i + k)) (s.row s.glyph d.window) := by
  induction sessions generalizing d v i k with
  | nil => simp at hs
  | cons s' sessions ih =>
      rw [paintFrom]
      dsimp only
      rw [after_append]
      cases k with
      | zero =>
          obtain rfl : s' = s := by simpa using hs
          simp only [Nat.add_zero]
          rw [cell_paintFrom_of_lt _ _ (Nat.lt_add_one i), cell_paintRow, if_pos rfl]
      | succ k =>
          obtain ⟨hhides, hwindow⟩ := hides_paintRow d i (s'.row s'.glyph d.window) (i + 1 + k)
          rw [show i + (k + 1) = i + 1 + k by omega, ih _ _ _ (by simpa using hs), cell_paintRow,
            if_neg (by omega), hhides, hwindow]

end Dashboard

end Multicast
