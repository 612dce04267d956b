import Multicast.Proofs.Token.Expansion
import Multicast.Table

/-!
# `Proofs.Table.Refusal` — why a table is not built

Tokens, addresses and the room in the table are checked with errors of their own. One thing slips
through: text behind the last plus sign counts as a number as soon as all of it counts as digits,
and some digits have no place value. Reading those as a number fails with an error that is none of
the table's.

## Contents
- **Tokens.** `Token.Uncountable`, which is what `Token.splitCount_eq_numeral_iff` says of
  it, and `Token.refusal_of_expand`.
- **Tables.** `Table.refusal_of_expandAll` and `Table.refusal_of_build`.
-/

namespace Multicast

/-! ## Tokens -/

namespace Token

open Text

/-- The text behind the last plus sign of a token counts as digits all through, but is no number. -/
def Uncountable (token : String) : Prop :=
  ∃ before digits, trim token.toList = before ++ '+' :: digits ∧ digits ≠ [] ∧
    (∀ c ∈ digits, isDigitLike c) ∧
    ((∃ c ∈ digits, isDecimal c = false) ∨ maxDigits < digits.length)

/-- Faults that tokens give: a setup error, or a failed conversion that a token is to blame for. -/
def Refusal (tokens : List String) (e : Fault) : Prop :=
  (∃ cause, e = .setup cause) ∨ ((∃ cause, e = .numeral cause) ∧ ∃ token ∈ tokens, Uncountable token)

theorem Refusal.mono {tokens tokens' : List String} {e : Fault} (h : Refusal tokens e)
    (hsub : tokens ⊆ tokens') : Refusal tokens' e := by
  rcases h with h | ⟨h, token, htoken, huncountable⟩
  · exact Or.inl h
  · exact Or.inr ⟨h, token, hsub htoken, huncountable⟩

/-- Digits hold no plus sign, so they are what stands behind the last one. -/
theorem splitLast?_of_digits {body before digits : List Char} (hbody : body = before ++ '+' :: digits)
    (h : ∀ c ∈ digits, isDigitLike c) : splitLast? '+' body = some (before, digits) := by
  rw [splitLast?_eq_some_iff]
  refine ⟨hbody, fun hplus => ?_⟩
  exact ne_of_isDigitLike (h '+' hplus) (by simp) rfl

/-- **A count fails to be converted** exactly for the tokens whose digits are no number. -/
theorem splitCount_eq_numeral_iff {token : String} :
    (∃ cause, splitCount token = .error (.numeral cause)) ↔ Uncountable token := by
  unfold splitCount
  dsimp only
  constructor
  · rintro ⟨cause, hcause⟩
    split at hcause
    · cases hcause
    · rename_i before digits hsplit
      split at hcause
      · rename_i hdigits
        obtain ⟨hne, hall⟩ := hdigits
        rw [List.all_eq_true] at hall
        refine ⟨before, digits, (splitLast?_eq_some_iff.1 hsplit).1, hne, hall, ?_⟩
        rw [← readInteger_fails_iff hne hall]
        cases hread : readInteger (String.ofList digits) with
        | ok n => rw [hread] at hcause; cases hcause
        | error e => exact ⟨e, rfl⟩
      · cases hcause
  · rintro ⟨before, digits, hbody, hne, hall, hno⟩
    obtain ⟨e, he⟩ := (readInteger_fails_iff hne hall).2 hno
    rw [splitLast?_of_digits hbody hall]
    dsimp only
    rw [if_pos ⟨hne, List.all_eq_true.2 hall⟩, he]
    exact ⟨e, rfl⟩

/-- What a count is refused with. -/
theorem refusal_of_splitCount {token : String} {e : Fault} (h : splitCount token = .error e) :
    Refusal [token] e := by
  cases e with
  | setup cause => exact Or.inl ⟨cause, rfl⟩
  | numeral cause =>
      exact Or.inr ⟨⟨cause, rfl⟩, token, List.mem_cons_self, splitCount_eq_numeral_iff.1 ⟨cause, h⟩⟩
  | _ =>
      unfold splitCount at h
      dsimp only at h
      split at h
      · cases h
      · split at h
        · split at h <;> cases h
        · cases h

theorem refusal_of_read {token : String} {e : Fault} (h : read token = .error e) :
    Refusal [token] e := by
  unfold read at h
  cases hcount : splitCount token with
  | error e' =>
      rw [hcount] at h
      obtain rfl : e' = e := Except.error.inj h
      exact refusal_of_splitCount hcount
  | ok parts =>
      rw [hcount] at h
      simp only [bind, Except.bind] at h
      split at h
      · cases h
      · exact Or.inl ⟨_, (Except.error.inj h).symm⟩

/-- **What a token is refused with**: a setup error, unless its digits are no number. -/
theorem refusal_of_expand {token : String} {room : Option Int} {e : Fault}
    (h : expand token none room = .error e) : Refusal [token] e := by
  cases hread : read token with
  | error e' =>
      rw [expand, hread] at h
      obtain rfl : e' = e := Except.error.inj h
      exact refusal_of_read hread
  | ok parts =>
      have hworded := worded_of_writable (writable_count hread)
      rcases (expand_eq_error_iff_of_read hread rfl).1 h with
        ⟨-, rfl⟩ | ⟨-, r, -, -, rfl⟩ | ⟨-, -, -, rfl⟩
      · exact Or.inl ⟨_, hworded _⟩
      · exact Or.inl ⟨_, hworded _⟩
      · exact Or.inl ⟨_, rfl⟩

end Token

/-! ## Tables -/

namespace Table

/-- Tokens are refused one at a time, and each for what it says itself. -/
theorem refusal_of_expandAll {t : Table} {tokens : List String} {e : Fault}
    (h : (t.expandAll tokens).2 = .error e) : Token.Refusal tokens e := by
  induction tokens generalizing t with
  | nil => cases h
  | cons token tokens ih =>
      unfold expandAll at h
      cases hpairs : t.pairs token with
      | error e' =>
          rw [hpairs] at h
          obtain rfl : e' = e := Except.error.inj h
          have htoken := Token.refusal_of_expand hpairs
          refine htoken.mono ?_
          simp
      | ok pairs =>
          rw [hpairs] at h
          dsimp only at h
          cases hadd : t.addAll? pairs with
          | error cause =>
              rw [hadd] at h
              exact Or.inl ⟨cause, (Except.error.inj h).symm⟩
          | ok added =>
              rw [hadd] at h
              exact (ih h).mono (List.subset_cons_self _ _)

/-- **What a table is refused with**: a setup error, unless the digits of a token are no number. The
    default group has no digits behind a plus sign. -/
theorem refusal_of_build {tokens : List String} {port capacity : Int} {e : Fault}
    (h : (build tokens port capacity).2 = .error e) : Token.Refusal tokens e := by
  have hdefault : ¬Token.Uncountable defaultGroup := by
    rintro ⟨before, digits, hbody, -⟩
    have hplus : '+' ∈ Text.trim defaultGroup.toList := by
      rw [hbody]
      simp
    revert hplus
    decide +kernel
  unfold build at h
  dsimp only at h
  cases hexpand : ({ capacity } : Table).expandAll (if tokens = [] then [defaultGroup] else tokens) with
  | mk remarks result =>
      rw [hexpand] at h
      cases result with
      | error e' =>
          obtain rfl : e' = e := Except.error.inj h
          have hrefusal := refusal_of_expandAll (congrArg Prod.snd hexpand)
          by_cases hnone : tokens = []
          · rw [if_pos hnone] at hrefusal
            rcases hrefusal with hsetup | ⟨-, token, htoken, huncountable⟩
            · exact Or.inl hsetup
            · obtain rfl := List.mem_singleton.1 htoken
              exact absurd huncountable hdefault
          · rwa [if_neg hnone] at hrefusal
      | ok t =>
          dsimp only at h
          cases hresolve : t.resolveAll port with
          | mk t' failure =>
              rw [hresolve] at h
              cases failure with
              | none => cases h
              | some cause => exact Or.inl ⟨cause, (Except.error.inj h).symm⟩

end Table

end Multicast
