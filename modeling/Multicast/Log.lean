import Multicast.Fault
import Multicast.Text.Runs

/-!
# `Multicast.Log` — log records and the lines on the screen

Records carry a level and a message. The full screen keeps the latest lines of its log region, each
record under the time at which it was made. A record made at a time without a date is not shown.

## Contents
- **Records.** `Level` and `Record`.
- **Destinations.** `Sink` and `Logging`, where records go and which of them.
- **Region.** `LogRegion`, the lines kept for the screen, with `ofLimit?` and `append`. Lines that
  give way at once are not written out, and are not missed (`lines_append`).
-/

namespace Multicast

/-! ## Records -/

/-- How grave a record is. -/
inductive Level where
  | debug
  | info
  | warning
  | error
  | critical
deriving Repr, DecidableEq

/-- The weight of a level; a threshold lets through records of at least its own weight. -/
def Level.weight : Level → Nat
  | debug => 10
  | info => 20
  | warning => 30
  | error => 40
  | critical => 50

/-- A message of a level. -/
structure Record where
  level : Level
  message : String
deriving Repr, DecidableEq

/-! ## Destinations -/

/-- Where records go. -/
inductive Sink where
  | standardError
  | systemLog
  | region
  | file
deriving Repr, DecidableEq

/-- Where records go and which of them. Before the first set-up, records from warnings on go to
standard error; a silenced log drops everything. -/
structure Logging where
  threshold : Level := .warning
  sinks : List Sink := [.standardError]
  silenced : Bool := false
deriving Repr, DecidableEq

/-- Whether a record of a level goes anywhere. -/
def Logging.admits (l : Logging) (level : Level) : Bool :=
  !l.silenced && l.threshold.weight ≤ level.weight

/-! ## Region -/

/-- The latest lines for the screen's log region. -/
structure LogRegion where
  /-- The most lines that are kept. -/
  limit : Nat := 200
  lines : List String := []
  /-- Whether there are lines that were not drawn yet. -/
  dirty : Bool := false
deriving Repr, DecidableEq

namespace LogRegion

/-- An empty region that keeps a number of lines, counted in 64 bits. -/
def ofLimit? (limit : Int) : Except Fault LogRegion :=
  if !fitsSigned 64 limit then .error (.limit .uncountable)
  else if limit < 0 then .error (.limit .negative)
  else .ok { limit := limit.toNat }

/-- The last `n` elements of a list. -/
def latest {α : Type} (n : Nat) (xs : List α) : List α := xs.drop (xs.length - n)

@[simp] theorem length_latest {α : Type} (n : Nat) (xs : List α) :
    (latest n xs).length = min n xs.length := by
  simp [latest]; omega

/-- Elements that have given way do not come back. -/
theorem latest_latest_append {α : Type} (n : Nat) (xs ys : List α) :
    latest n (latest n xs ++ ys) = latest n (xs ++ ys) := by
  simp only [latest, List.length_append, List.length_drop, List.drop_append, List.drop_drop]
  congr 1
  · congr 1; omega
  · congr 1; omega

/-- Of elements that are added, those that would give way at once can be left out. -/
theorem latest_append_latest {α : Type} (n : Nat) (xs ys : List α) :
    latest n (xs ++ latest n ys) = latest n (xs ++ ys) := by
  simp only [latest, List.length_append, List.length_drop, List.drop_append]
  by_cases h : ys.length ≤ n
  · simp [Nat.sub_eq_zero_of_le h]
  · have hxs : xs.length ≤ xs.length + ys.length - n := by omega
    have hys : xs.length + ys.length - n - xs.length = ys.length - n := by omega
    have hkept : ys.length - (ys.length - n) = n := by omega
    rw [hkept, Nat.add_sub_cancel, List.drop_length, Nat.sub_self, List.drop_zero,
      List.drop_eq_nil_of_le hxs, hys]

theorem map_latest {α β : Type} (f : α → β) (n : Nat) (xs : List α) :
    (latest n xs).map f = latest n (xs.map f) := by
  simp [latest]

/-- The lines that a message is shown as, the first of them under its time. -/
def linesOf (time : Calendar.Stamp) (message : Text.Runs) : List Text.Runs :=
  (Text.Runs.ofText (time.zeroPadded ++ "  ") ++ message).lines

/-- Takes in a message; the oldest lines give way. A message at a time without a date is dropped. -/
def append (r : LogRegion) (clock : Int) (message : Text.Runs) : LogRegion :=
  match Calendar.Stamp.ofClock? clock with
  | .ok time =>
    let added := (latest r.limit (linesOf time message)).map Text.Runs.text
    { r with lines := latest r.limit (r.lines ++ added), dirty := true }
  | .error _ => r

/-- How many characters of a message stay in the region. -/
def share (r : LogRegion) (message : Text.Runs) : Nat :=
  ((latest r.limit message.lines).map Text.Runs.size).sum

/-- A region keeps the latest of its lines and those of the message under its time. -/
theorem lines_append (r : LogRegion) {clock : Int} {time : Calendar.Stamp} (message : Text.Runs)
    (h : Calendar.Stamp.ofClock? clock = .ok time) :
    (r.append clock message).lines =
      latest r.limit (r.lines ++
        (Text.lines Char.ofNat (Text.points (time.zeroPadded ++ "  ").toList ++ message.points)).map
          (String.ofList ∘ Text.ofPoints)) := by
  have written : (linesOf time message).map Text.Runs.text =
      (Text.lines Char.ofNat (Text.points (time.zeroPadded ++ "  ").toList ++ message.points)).map
        (String.ofList ∘ Text.ofPoints) := by
    rw [linesOf, ← Text.Runs.points_ofPoints (Text.points (time.zeroPadded ++ "  ").toList),
      ← Text.Runs.points_append, ← Text.Runs.map_points_lines, List.map_map]
    rfl
  simp only [append, h, map_latest, latest_append_latest, written]

end LogRegion

end Multicast
