import Mathlib.Data.List.TakeWhile
import Multicast.Proofs.Address.RoundTrip
import Multicast.Text.Numeral

/-!
# `Proofs.Text.Numerals` — digits that are read as a number

Text of nothing but digits is read as a number if each of them has a place value and there are not
too many. It has neither a sign nor blanks nor underscores then, so that the number is what the
digits write.

## Contents
- **Classes.** No blank and no mark counts as a digit (`isDigitLike_of_isBlank`,
  `isDigitLike_of_mark`); of the characters of ASCII, the ten digits do (`isDigitLike_of_ascii`).
- **Numbers.** `readInteger_of_digits` and `readInteger_toDigits`, what digits are read as;
  `writable_of_readInteger`: what is read can be written.
- **Failures.** `readInteger_fails_iff`, when text of nothing but digits is no number, and
  `exists_readInteger_of_isDigit` for those of ASCII.
-/

namespace Multicast.Text

/-! ## Classes -/

/-- What holds of every character in the ranges of blanks holds of every blank. -/
theorem of_isBlank {p : Char → Prop}
    (h : ∀ range ∈ blankRanges.toList, ∀ n ∈ List.range' range.1 (range.2 + 1 - range.1),
      p (Char.ofNat n)) {c : Char} (hc : isBlank c) : p c := by
  rw [isBlank, inRanges, ← Array.any_toList, List.any_eq_true] at hc
  obtain ⟨range, hrange, hwithin⟩ := hc
  have hpoint : c.toNat ∈ List.range' range.1 (range.2 + 1 - range.1) := by
    simp only [Bool.and_eq_true, decide_eq_true_eq] at hwithin
    rw [List.mem_range'_1]
    omega
  rw [← Char.ofNat_toNat c]
  exact h range hrange _ hpoint

/-- No blank counts as a digit. -/
theorem isDigitLike_of_isBlank {c : Char} (h : isBlank c) : isDigitLike c = false := by
  apply of_isBlank (p := fun c => isDigitLike c = false) _ h
  decide +kernel

theorem isNumeralPadding_of_isDigitLike {c : Char} (h : isDigitLike c) :
    isNumeralPadding c = false := by
  unfold isNumeralPadding
  cases hblank : isBlank c with
  | true => rw [isDigitLike_of_isBlank hblank] at h; cases h
  | false => rfl

/-- Neither do the marks that numerals are written with. -/
theorem isDigitLike_of_mark {c : Char} (h : c ∈ ['_', '-', '+']) : isDigitLike c = false := by
  have hall : (['_', '-', '+'].all fun c => !isDigitLike c) = true := by decide +kernel
  simpa using List.all_eq_true.1 hall c h

theorem ne_of_isDigitLike {c mark : Char} (h : isDigitLike c) (hmark : mark ∈ ['_', '-', '+']) :
    c ≠ mark := by
  rintro rfl
  rw [isDigitLike_of_mark hmark] at h
  cases h

/-- Of the characters of ASCII, only the ten digits count as digits. -/
theorem isDigitLike_of_ascii {c : Char} (h : c.toNat < 128) : isDigitLike c = c.isDigit := by
  have hall : ∀ n < 128, isDigitLike (Char.ofNat n) = (Char.ofNat n).isDigit := by decide +kernel
  rw [← Char.ofNat_toNat c]
  exact hall c.toNat h

/-- A digit of ASCII has a place value. -/
theorem isDecimal_of_isDigit {c : Char} (h : c.isDigit) : isDecimal c := by
  have hrange : '0' ≤ c ∧ c ≤ '9' := by
    simp only [Char.isDigit, Bool.and_eq_true, decide_eq_true_eq] at h
    exact h
  rw [isDecimal, digitValue?, if_pos hrange]
  rfl

theorem isDigitLike_of_isDigit {c : Char} (h : c.isDigit) : isDigitLike c := by
  simp [isDigitLike, isDecimal_of_isDigit h]

/-- A place value is that of one digit. -/
theorem digitValue?_lt {c : Char} {d : Nat} (h : digitValue? c = some d) : d < 10 := by
  unfold digitValue? at h
  split at h
  · rename_i hrange
    obtain rfl := Option.some.inj h
    have hlast : c.toNat ≤ '9'.toNat := hrange.2
    have hnine : '9'.toNat = 57 := rfl
    omega
  · obtain ⟨first, hfirst, rfl⟩ := Option.map_eq_some_iff.1 h
    have hwithin := List.find?_some (l := zeroDigits.toList) (by simpa using hfirst)
    simp only [Bool.and_eq_true, decide_eq_true_eq] at hwithin
    omega

theorem digitValue?_digitChar {d : Nat} (h : d < 10) : digitValue? d.digitChar = some d := by
  revert d; decide

/-! ## Numbers -/

/-- Text that starts with a digit has neither blanks nor a sign in front of its digits. -/
theorem splitSign_digits {c : Char} {cs : List Char} (hlike : isDigitLike c) :
    splitSign ((c :: cs).dropWhile isNumeralPadding) = (false, c :: cs) := by
  rw [List.dropWhile_cons_of_neg (by simp [isNumeralPadding_of_isDigitLike hlike])]
  have hminus : c ≠ '-' := ne_of_isDigitLike hlike (by simp)
  have hplus : c ≠ '+' := ne_of_isDigitLike hlike (by simp)
  unfold splitSign
  split
  · rename_i heq
    exact absurd (List.cons.inj heq).1 hminus
  · rename_i heq
    exact absurd (List.cons.inj heq).1 hplus
  · rfl

/-- Digits that have a place value are scanned as their values. -/
theorem scanDigits_of_mapM {afterDigit : Bool} {cs : List Char} {ds : List Nat}
    (h : cs.mapM digitValue? = some ds) (hstart : afterDigit = true ∨ cs ≠ []) :
    scanDigits afterDigit cs = some (ds, []) ∧ ds.length = cs.length := by
  induction cs generalizing afterDigit ds with
  | nil =>
      obtain rfl : [] = ds := by simpa using h
      rcases hstart with rfl | hstart
      · exact ⟨rfl, rfl⟩
      · exact absurd rfl hstart
  | cons c cs ih =>
      rw [List.mapM_cons] at h
      simp only [Option.bind_eq_bind, Option.bind_eq_some_iff, Option.pure_def,
        Option.some.injEq] at h
      obtain ⟨d, hd, rest, hrest, rfl⟩ := h
      have hbehind : true = true ∨ cs ≠ [] := Or.inl rfl
      obtain ⟨hscan, hlength⟩ := ih hrest hbehind
      exact ⟨by simp [scanDigits, hd, hscan], by simp [hlength]⟩

/-- **Digits with a place value are read as the number that they write**, if there are not too
    many. -/
theorem readInteger_of_digits {cs : List Char} {ds : List Nat} (hne : cs ≠ [])
    (h : cs.mapM digitValue? = some ds) (hlength : cs.length ≤ maxDigits) :
    readInteger (String.ofList cs) = .ok (ofDigits ds) := by
  obtain ⟨c, rest, rfl⟩ := List.exists_cons_of_ne_nil hne
  have hstart : false = true ∨ c :: rest ≠ [] := Or.inr hne
  obtain ⟨hscan, hcount⟩ := scanDigits_of_mapM h hstart
  have hlike : isDigitLike c := by
    rw [List.mapM_cons] at h
    simp only [Option.bind_eq_bind, Option.bind_eq_some_iff] at h
    obtain ⟨d, hd, -⟩ := h
    simp [isDigitLike, isDecimal, hd]
  unfold readInteger
  simp only [String.toList_ofList, splitSign_digits hlike, hscan]
  rw [if_neg (by omega)]
  rfl

/-- A number is read from its digits. -/
theorem readInteger_toDigits {n : Nat} (h : (Nat.toDigits 10 n).length ≤ maxDigits) :
    readInteger (String.ofList (Nat.toDigits 10 n)) = .ok (n : Int) := by
  obtain ⟨ds, hds, hvalue⟩ := mapM_toDigits (by decide) (fun _ => digitValue?_digitChar) n
  have hvalue : ofDigits ds = n := hvalue
  rw [readInteger_of_digits Nat.toDigits_ne_nil hds h, hvalue]

/-- What is scanned are place values. -/
theorem lt_of_scanDigits {afterDigit : Bool} {cs rest : List Char} {ds : List Nat}
    (h : scanDigits afterDigit cs = some (ds, rest)) : ∀ d ∈ ds, d < 10 := by
  induction cs generalizing afterDigit ds rest with
  | nil =>
      cases afterDigit with
      | true =>
          obtain ⟨rfl, -⟩ := Prod.mk.inj (Option.some.inj h)
          simp
      | false => cases h
  | cons c cs ih =>
      unfold scanDigits at h
      cases hvalue : digitValue? c with
      | some d =>
          simp only [hvalue, Option.map_eq_some_iff] at h
          obtain ⟨⟨others, rest'⟩, hscan, hpair⟩ := h
          obtain ⟨rfl, -⟩ := Prod.mk.inj hpair
          rw [List.forall_mem_cons]
          exact ⟨digitValue?_lt hvalue, ih hscan⟩
      | none =>
          simp only [hvalue] at h
          split at h
          · split at h
            · exact ih h
            · cases h
          · split at h
            · obtain ⟨rfl, -⟩ := Prod.mk.inj (Option.some.inj h)
              simp
            · cases h

/-- Digits write a number that is less than the next power of ten. -/
theorem ofDigits_lt {ds : List Nat} (h : ∀ d ∈ ds, d < 10) : ofDigits ds < 10 ^ ds.length := by
  have hfold : ∀ n, ds.foldl (fun n d => 10 * n + d) n < (n + 1) * 10 ^ ds.length := by
    induction ds with
    | nil => simp
    | cons d ds ih =>
        intro n
        rw [List.forall_mem_cons] at h
        calc ds.foldl (fun n d => 10 * n + d) (10 * n + d)
            < (10 * n + d + 1) * 10 ^ ds.length := ih h.2 _
          _ ≤ ((n + 1) * 10) * 10 ^ ds.length := Nat.mul_le_mul_right _ (by omega)
          _ = (n + 1) * 10 ^ (d :: ds).length := by
            rw [List.length_cons, Nat.pow_succ', Nat.mul_assoc]
  simpa [ofDigits] using hfold 0

/-- A number of one digit can be written. -/
theorem lt_firstTooLong {n : Nat} (h : n < 10) : n < firstTooLong := by
  unfold firstTooLong
  exact Nat.lt_of_lt_of_le h (Nat.le_self_pow (by decide) 10)

/-- **Whatever is read can be written**: it has no more digits than there may be. -/
theorem writable_of_readInteger {s : String} {n : Int} (h : readInteger s = .ok n) :
    writable n := by
  rw [writable, decide_eq_true_eq]
  unfold readInteger at h
  dsimp only at h
  split at h
  · cases h
  · rename_i ds rest hscan
    split at h
    · cases h
    · rename_i hcount
      split at h
      · have hlt : ofDigits ds < firstTooLong := by
          unfold firstTooLong
          exact (ofDigits_lt (lt_of_scanDigits hscan)).trans_le
            (Nat.pow_le_pow_right (by decide) (Nat.not_lt.1 hcount))
        rw [← Except.ok.inj h]
        split
        · rwa [Int.natAbs_neg, Int.natAbs_natCast]
        · rwa [Int.natAbs_natCast]
      · cases h

/-! ## Failures -/

/-- Text of digits is scanned up to the first of them that has no place value. -/
theorem scanDigits_digits {afterDigit : Bool} {cs : List Char} (h : ∀ c ∈ cs, isDigitLike c)
    (hstart : afterDigit = true ∨ cs.takeWhile isDecimal ≠ []) :
    ∃ ds, scanDigits afterDigit cs = some (ds, cs.dropWhile isDecimal) ∧
      ds.length = (cs.takeWhile isDecimal).length := by
  induction cs generalizing afterDigit with
  | nil =>
      rcases hstart with rfl | hstart
      · exact ⟨[], rfl, rfl⟩
      · exact absurd rfl hstart
  | cons c cs ih =>
      have hunderscore : c ≠ '_' := ne_of_isDigitLike (h c List.mem_cons_self) (by simp)
      unfold scanDigits
      cases hvalue : digitValue? c with
      | none =>
          have hplain : isDecimal c = false := by simp [isDecimal, hvalue]
          rcases hstart with rfl | hstart
          · exact ⟨[], by simp [hunderscore, hplain], by simp [hplain]⟩
          · exact absurd (List.takeWhile_cons_of_neg (by simp [hplain])) hstart
      | some d =>
          have hdecimal : isDecimal c = true := by simp [isDecimal, hvalue]
          have hbehind : true = true ∨ cs.takeWhile isDecimal ≠ [] := Or.inl rfl
          obtain ⟨ds, hds, hlength⟩ := ih (fun d hd => h d (List.mem_cons_of_mem c hd)) hbehind
          exact ⟨d :: ds, by simp [hds, hdecimal], by simp [hdecimal, hlength]⟩

/-- A scan that starts at a digit without a place value finds no number. -/
theorem scanDigits_plain {c : Char} {cs : List Char} (hlike : isDigitLike c)
    (hplain : isDecimal c = false) : scanDigits false (c :: cs) = none := by
  have hunderscore : c ≠ '_' := ne_of_isDigitLike hlike (by simp)
  have hvalue : digitValue? c = none := by simpa [isDecimal] using hplain
  simp [scanDigits, hvalue, hunderscore]

/-- **Digits are no number** if one of them has no place value, or if there are too many. -/
theorem readInteger_fails_iff {digits : List Char} (hne : digits ≠ [])
    (h : ∀ c ∈ digits, isDigitLike c) :
    (∃ e, readInteger (String.ofList digits) = .error e) ↔
      (∃ c ∈ digits, isDecimal c = false) ∨ maxDigits < digits.length := by
  obtain ⟨c, cs, rfl⟩ := List.exists_cons_of_ne_nil hne
  have hlike := h c List.mem_cons_self
  unfold readInteger
  simp only [String.toList_ofList, splitSign_digits hlike]
  cases hdecimal : isDecimal c with
  | false =>
      rw [scanDigits_plain hlike hdecimal]
      exact iff_of_true ⟨_, rfl⟩ (Or.inl ⟨c, List.mem_cons_self, hdecimal⟩)
  | true =>
      have hstart : false = true ∨ (c :: cs).takeWhile isDecimal ≠ [] := Or.inr (by simp [hdecimal])
      obtain ⟨ds, hds, hlength⟩ := scanDigits_digits h hstart
      have hsplit := List.takeWhile_append_dropWhile (p := isDecimal) (l := c :: cs)
      rw [hds]
      dsimp only
      rw [hlength]
      -- What is left behind the decimal digits, if anything, starts with a digit.
      cases hrest : (c :: cs).dropWhile isDecimal with
      | nil =>
          have hall := List.dropWhile_eq_nil_iff.1 hrest
          rw [hrest, List.append_nil] at hsplit
          rw [hsplit]
          have hnone : ¬∃ d ∈ c :: cs, isDecimal d = false := by
            rintro ⟨d, hd, hplain⟩
            rw [hall d hd] at hplain
            cases hplain
          by_cases hlong : maxDigits < (c :: cs).length
          · rw [if_pos hlong]
            exact iff_of_true ⟨_, rfl⟩ (Or.inr hlong)
          · rw [if_neg hlong]
            refine iff_of_false (by simp) ?_
            rintro (hplain | hmany)
            · exact hnone hplain
            · exact hlong hmany
      | cons d rest =>
          have hmem : d ∈ c :: cs := by
            rw [← hsplit, hrest]
            simp
          have hplain : isDecimal d = false := by
            have hhead := List.head?_dropWhile_not isDecimal (c :: cs)
            rw [hrest] at hhead
            simpa using hhead
          have hpadding : (d :: rest).all isNumeralPadding = false := by
            simp [isNumeralPadding_of_isDigitLike (h d hmem)]
          refine iff_of_true ?_ (Or.inl ⟨d, hmem, hplain⟩)
          split
          · exact ⟨_, rfl⟩
          · rw [hpadding]
            exact ⟨_, rfl⟩

/-- Digits of ASCII are a number, if there are not too many. -/
theorem exists_readInteger_of_isDigit {digits : List Char} (hne : digits ≠ [])
    (h : ∀ c ∈ digits, c.isDigit) (hlength : digits.length ≤ maxDigits) :
    ∃ n, readInteger (String.ofList digits) = .ok n := by
  have hlike : ∀ c ∈ digits, isDigitLike c := fun c hc => isDigitLike_of_isDigit (h c hc)
  cases hread : readInteger (String.ofList digits) with
  | ok n => exact ⟨n, rfl⟩
  | error e =>
      rcases (readInteger_fails_iff hne hlike).1 ⟨e, hread⟩ with ⟨c, hc, hplain⟩ | hlong
      · rw [isDecimal_of_isDigit (h c hc)] at hplain
        cases hplain
      · omega

end Multicast.Text
