import Multicast.Text.Class
import Multicast.Text.Point

/-!
# `Multicast.Text.Split` — cutting text into fields, words and lines

Text is cut as lists of characters; the callers convert from and to `String` at their borders.

## Contents
- **Fields.** `trim`, `splitFirst?` and `splitLast?` (at the first and the last occurrence of a
  mark, as `splitFirst?_eq_some_iff` and `splitLast?_eq_some_iff` say); `Blank` and `Trimmed`, the
  texts that `trim` drops and leaves (`trim_eq_iff`).
- **Words.** `words`, the maximal runs of characters that are no blanks.
- **Lines.** `lines`, ended by any of the line ends that text can hold, for any elements that show
  characters; `newlineSeparated`, ended by line feeds alone.
- **Columns.** `padLeft` and `padRight`, which fill up to a width and never cut (`size_padLeft`,
  `size_padRight`).
-/

namespace Multicast.Text

/-! ## Fields -/

/-- The text without the blanks at both ends. -/
def trim (cs : List Char) : List Char :=
  ((cs.dropWhile isBlank).reverse.dropWhile isBlank).reverse

/-- The text before and after the first `mark`, if there is one. -/
def splitFirst? (mark : Char) : List Char → Option (List Char × List Char)
  | [] => none
  | c :: cs =>
    if c = mark then some ([], cs)
    else (splitFirst? mark cs).map fun (before, after) => (c :: before, after)

/-- The text before and after the last `mark`, if there is one. -/
def splitLast? (mark : Char) : List Char → Option (List Char × List Char)
  | [] => none
  | c :: cs =>
    match splitLast? mark cs with
    | some (before, after) => some (c :: before, after)
    | none => if c = mark then some ([], cs) else none

/-- The first mark is the one that no other stands in front of. -/
theorem splitFirst?_eq_some_iff {mark : Char} {cs before after : List Char} :
    splitFirst? mark cs = some (before, after) ↔
      cs = before ++ mark :: after ∧ mark ∉ before := by
  induction cs generalizing before with
  | nil => simp [splitFirst?]
  | cons c cs ih =>
    rw [splitFirst?]
    by_cases h : c = mark
    · cases before with
      | nil => simp [h]
      | cons b bs =>
        rw [if_pos h]
        constructor
        · intro he
          simp at he
        · rintro ⟨he, hb⟩
          rw [List.cons_append, List.cons.injEq, h] at he
          simp [he.1] at hb
    · rw [if_neg h, Option.map_eq_some_iff]
      cases before with
      | nil => simp [h]
      | cons b bs =>
        constructor
        · rintro ⟨⟨front, back⟩, hsplit, he⟩
          simp only [Prod.mk.injEq, List.cons.injEq] at he
          obtain ⟨⟨rfl, rfl⟩, rfl⟩ := he
          obtain ⟨rfl, hfront⟩ := ih.1 hsplit
          exact ⟨rfl, by simp [hfront, Ne.symm h]⟩
        · rintro ⟨he, hb⟩
          simp only [List.cons_append, List.cons.injEq] at he
          obtain ⟨rfl, rfl⟩ := he
          rw [List.mem_cons, not_or] at hb
          exact ⟨(bs, after), ih.2 ⟨rfl, hb.2⟩, rfl⟩

@[simp] theorem splitFirst?_eq_none_iff {mark : Char} {cs : List Char} :
    splitFirst? mark cs = none ↔ mark ∉ cs := by
  induction cs with
  | nil => simp [splitFirst?]
  | cons c cs ih =>
    rw [splitFirst?, List.mem_cons, not_or]
    by_cases h : c = mark
    · simp [h]
    · simp [h, ih, Ne.symm h]

@[simp] theorem splitLast?_eq_none_iff {mark : Char} {cs : List Char} :
    splitLast? mark cs = none ↔ mark ∉ cs := by
  induction cs with
  | nil => simp [splitLast?]
  | cons c cs ih =>
    rw [splitLast?, List.mem_cons, not_or, ← ih]
    cases splitLast? mark cs with
    | none => simp [eq_comm]
    | some r => simp

/-- The last mark is the one that no other stands behind. -/
theorem splitLast?_eq_some_iff {mark : Char} {cs before after : List Char} :
    splitLast? mark cs = some (before, after) ↔
      cs = before ++ mark :: after ∧ mark ∉ after := by
  induction cs generalizing before after with
  | nil => simp [splitLast?]
  | cons c cs ih =>
    rw [splitLast?]
    cases h : splitLast? mark cs with
    | none =>
      have hnot := splitLast?_eq_none_iff.1 h
      cases before with
      | nil => grind
      | cons b bs => grind
    | some r =>
      obtain ⟨front, back⟩ := r
      obtain ⟨hcs, hback⟩ := ih.1 h
      cases before with
      | nil => grind
      | cons b bs => grind

/-- A text of nothing but blanks. -/
def Blank (cs : List Char) : Prop := ∀ c ∈ cs, isBlank c = true

/-- A text that neither starts nor ends with a blank. -/
structure Trimmed (cs : List Char) : Prop where
  head : ∀ c ∈ cs.head?, isBlank c = false
  last : ∀ c ∈ cs.getLast?, isBlank c = false

instance (cs : List Char) : Decidable (Blank cs) :=
  decidable_of_iff (cs.all isBlank = true) List.all_eq_true

/-- Only the two ends are looked at. -/
instance (cs : List Char) : Decidable (Trimmed cs) :=
  decidable_of_iff
    (cs.head?.all (isBlank · = false) = true ∧ cs.getLast?.all (isBlank · = false) = true)
    ⟨fun h => ⟨by simpa [Option.all_eq_true] using h.1, by simpa [Option.all_eq_true] using h.2⟩,
      fun h => by simpa [Option.all_eq_true] using ⟨h.head, h.last⟩⟩

/-- Blanks are dropped up to a text that starts with none. -/
theorem dropWhile_blank_append {left cs : List Char} (hleft : Blank left)
    (hhead : ∀ c ∈ cs.head?, isBlank c = false) :
    (left ++ cs).dropWhile isBlank = cs := by
  rw [List.dropWhile_append_of_pos hleft]
  cases cs with
  | nil => rfl
  | cons c cs => simp [hhead c rfl]

/-- A text is some blanks and what is left when these are dropped. -/
theorem exists_blank_append (cs : List Char) :
    ∃ left, Blank left ∧ cs = left ++ cs.dropWhile isBlank ∧
      ∀ c ∈ (cs.dropWhile isBlank).head?, isBlank c = false := by
  refine ⟨cs.takeWhile isBlank, ?_, List.takeWhile_append_dropWhile.symm, ?_⟩
  · intro c hc
    exact List.all_eq_true.1 List.all_takeWhile c hc
  · intro c hc
    have hhead := List.head?_dropWhile_not isBlank cs
    rw [Option.mem_def.1 hc] at hhead
    simpa using hhead

/-- **Trimming leaves the text between the blanks at both ends.** -/
theorem trim_eq_iff {cs mid : List Char} :
    trim cs = mid ↔
      ∃ left right, cs = left ++ mid ++ right ∧ Blank left ∧ Blank right ∧ Trimmed mid := by
  constructor
  · rintro rfl
    obtain ⟨left, hleft, hcs, hhead⟩ := exists_blank_append cs
    obtain ⟨back, hback, hrest, hlast⟩ := exists_blank_append (cs.dropWhile isBlank).reverse
    have hmid : cs.dropWhile isBlank = trim cs ++ back.reverse := by
      have hreverse := congrArg List.reverse hrest
      rwa [List.reverse_reverse, List.reverse_append] at hreverse
    refine ⟨left, back.reverse, ?_, hleft, ?_, ?_, ?_⟩
    · rw [List.append_assoc, ← hmid, ← hcs]
    · intro c hc
      exact hback c (List.mem_reverse.1 hc)
    · -- What is left starts where the text behind the first blanks does.
      intro c hc
      apply hhead c
      rw [hmid, List.head?_append, Option.mem_def.1 hc]
      rfl
    · intro c hc
      apply hlast c
      rwa [trim, List.getLast?_reverse] at hc
  · rintro ⟨left, right, rfl, hleft, hright, hmid⟩
    have hblank : Blank right.reverse := fun c hc => hright c (List.mem_reverse.1 hc)
    have hlast : ∀ c ∈ mid.reverse.head?, isBlank c = false := by
      intro c hc
      apply hmid.last c
      rwa [List.head?_reverse] at hc
    rw [trim, List.append_assoc]
    cases mid with
    | nil =>
      -- Without a text between them, the blanks are all dropped from the front.
      have hall : Blank (left ++ right) := by
        intro c hc
        exact (List.mem_append.1 hc).elim (hleft c) (hright c)
      rw [List.nil_append, ← List.append_nil (left ++ right), dropWhile_blank_append hall (by simp)]
      rfl
    | cons m ms =>
      have hfront : ∀ c ∈ (m :: ms ++ right).head?, isBlank c = false := by
        intro c hc
        apply hmid.head c
        simpa using hc
      rw [dropWhile_blank_append hleft hfront, List.reverse_append,
        dropWhile_blank_append hblank hlast, List.reverse_reverse]

/-! ## Words -/

/-- The maximal runs of characters that are no blanks. -/
def words (cs : List Char) : List (List Char) :=
  (cs.splitOnP isBlank).filter (!·.isEmpty)

/-! ## Lines -/

/-- Characters that end a line, each on its own. -/
def isLineEnd (c : Char) : Bool :=
  c == '\n' || c == '\r' || c == '\x0b' || c == '\x0c' || c == '\x1c' || c == '\x1d' ||
  c == '\x1e' || c == '\x85' || c == '\u2028' || c == '\u2029'

/-- Puts elements in front of the first line. -/
def putFirst {α : Type} (front : List α) : List (List α) → List (List α)
  | [] => [front]
  | line :: others => (front ++ line) :: others

@[simp] theorem putFirst_putFirst {α : Type} (xs ys : List α) (ls : List (List α)) :
    putFirst xs (putFirst ys ls) = putFirst (xs ++ ys) ls := by
  cases ls <;> simp [putFirst]

/-- The lines of a sequence whose elements show characters. Each line end closes one line, a carriage
return in front of a line feed adds nothing to it, and what follows the last line end is a line of
its own. -/
def lines {α : Type} (shown : α → Char) : List α → List (List α)
  | [] => []
  | a :: rest =>
    if isLineEnd (shown a) then
      if shown a = '\r' ∧ rest.head?.map shown = some '\n' then lines shown rest
      else [] :: lines shown rest
    else putFirst [a] (lines shown rest)

/-- The lines of a file whose only line end is the line feed; a final line feed opens no line. -/
def newlineSeparated (cs : List Char) : List (List Char) :=
  match cs.splitOn '\n' |>.reverse with
  | [] :: rest => rest.reverse
  | all => all.reverse

/-! ## Columns -/

/-- Blanks on the left up to `width` characters. -/
def padLeft (width : Nat) (s : String) : String :=
  String.ofList (List.replicate (width - size s) ' ') ++ s

/-- Blanks on the right up to `width` characters. -/
def padRight (width : Nat) (s : String) : String :=
  s ++ String.ofList (List.replicate (width - size s) ' ')

theorem blank_ne_halfMark : ' ' ≠ halfMark := by decide

theorem points_replicate_blank_append (n : Nat) (cs : List Char) :
    points (List.replicate n ' ' ++ cs) = List.replicate n ' '.toNat ++ points cs := by
  induction n with
  | zero => rfl
  | succ n ih =>
    rw [List.replicate_succ, List.cons_append, points_cons_of_ne blank_ne_halfMark, ih,
      List.replicate_succ, List.cons_append]

@[simp] theorem size_padLeft (width : Nat) (s : String) :
    size (padLeft width s) = max width (size s) := by
  simp only [size, padLeft, String.toList_append, String.toList_ofList,
    points_replicate_blank_append, List.length_append, List.length_replicate]
  omega

@[simp] theorem size_padRight (width : Nat) (s : String) :
    size (padRight width s) = max width (size s) := by
  simp only [size, padRight, String.toList_append, String.toList_ofList]
  cases h : width - (points s.toList).length with
  | zero => simp; omega
  | succ n =>
    have blanks := points_replicate_blank_append (n + 1) []
    rw [List.append_nil, points_nil, List.append_nil, List.replicate_succ] at blanks
    rw [List.replicate_succ]
    rw [points_append_cons (by decide), blanks, List.length_append, List.length_replicate]
    omega

/-- A row of blanks. -/
def blanks (width : Nat) : String := String.ofList (List.replicate width ' ')

end Multicast.Text
