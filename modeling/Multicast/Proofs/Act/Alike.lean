import Multicast.Proofs.Act.Ends

/-!
# `Proofs.Act.Alike` — two steps side by side

Two steps are alike if, started from related worlds, both return the same or both fail with the same
fault, and the worlds that they leave are related again. Composed steps are alike if their parts are,
and a part that only one of two runs has is no difference as long as it returns and its world stays
related to the other run's.

## Contents
- **Alike.** `Act.EndAlike` from two worlds and `Act.Alike` from all related ones, with
  `EndAlike.of_ok`, `EndAlike.of_error` and `EndAlike.ends`.
- **Composing.** One lemma for each way of composing steps: `EndAlike.bind`, `alike_bind`,
  `endAlike_get_bind`, `alike_forM`, `alike_recover` and `alike_ensuring`.
- **Alone.** `alike_of_alone`, for parts that only one of the runs has.
-/

namespace Multicast.Act

variable {α β : Type} {R : World → World → Prop} {w w' w₁ w₁' : World}

/-! ## Alike -/

/-- From these two worlds, the steps end in the same way and leave related worlds. -/
def EndAlike (R : World → World → Prop) (x y : Act α) (w w' : World) : Prop :=
  x.outcome w = y.outcome w' ∧ R (x.after w) (y.after w')

/-- The steps do so from all related worlds. -/
def Alike (R : World → World → Prop) (x y : Act α) : Prop := ∀ w w', R w w' → EndAlike R x y w w'

namespace EndAlike

theorem of_ok {x y : Act α} {a : α} (hx : x w = .ok a w₁) (hy : y w' = .ok a w₁') (h : R w₁ w₁') :
    EndAlike R x y w w' := by
  unfold EndAlike outcome after
  rw [hx, hy]
  exact ⟨rfl, h⟩

theorem of_error {x y : Act α} {e : Fault} (hx : x w = .error e w₁) (hy : y w' = .error e w₁')
    (h : R w₁ w₁') : EndAlike R x y w w' := by
  unfold EndAlike outcome after
  rw [hx, hy]
  exact ⟨rfl, h⟩

/-- Both steps return, or both of them fail. -/
theorem ends {x y : Act α} (h : EndAlike R x y w w') :
    (∃ a w₁ w₁', x w = .ok a w₁ ∧ y w' = .ok a w₁' ∧ R w₁ w₁') ∨
      ∃ e w₁ w₁', x w = .error e w₁ ∧ y w' = .error e w₁' ∧ R w₁ w₁' := by
  obtain ⟨houtcome, hafter⟩ := h
  unfold outcome at houtcome
  unfold after at hafter
  cases hx : x w with
  | ok a w₁ =>
      rw [hx] at houtcome hafter
      cases hy : y w' with
      | ok a' w₁' =>
          rw [hy] at houtcome hafter
          obtain rfl : a = a' := Except.ok.inj houtcome
          exact Or.inl ⟨a, w₁, w₁', rfl, rfl, hafter⟩
      | error e w₁' =>
          rw [hy] at houtcome
          cases houtcome
  | error e w₁ =>
      rw [hx] at houtcome hafter
      cases hy : y w' with
      | ok a w₁' =>
          rw [hy] at houtcome
          cases houtcome
      | error e' w₁' =>
          rw [hy] at houtcome hafter
          obtain rfl : e = e' := Except.error.inj houtcome
          exact Or.inr ⟨e, w₁, w₁', rfl, rfl, hafter⟩

/-! ## Composing -/

/-- After first parts that end alike, the rest goes on from related worlds with the same value. -/
theorem bind {x y : Act α} {f g : α → Act β} (h : EndAlike R x y w w')
    (hrest : ∀ a, Alike R (f a) (g a)) : EndAlike R (x >>= f) (y >>= g) w w' := by
  rcases h.ends with ⟨a, w₁, w₁', hx, hy, h₁⟩ | ⟨e, w₁, w₁', hx, hy, h₁⟩
  · obtain ⟨houtcome, hafter⟩ := hrest a w₁ w₁' h₁
    unfold EndAlike outcome after at *
    rw [bind_of_ok hx, bind_of_ok hy]
    exact ⟨houtcome, hafter⟩
  · exact of_error (bind_eq_error.2 (Or.inl hx)) (bind_eq_error.2 (Or.inl hy)) h₁

/-- First parts that are known to return the same leave the rest. -/
theorem bind_of_ok {x y : Act α} {f g : α → Act β} {a : α} (hx : x w = .ok a w₁)
    (hy : y w' = .ok a w₁') (h : EndAlike R (f a) (g a) w₁ w₁') :
    EndAlike R (x >>= f) (y >>= g) w w' := by
  unfold EndAlike outcome after at *
  rw [Act.bind_of_ok hx, Act.bind_of_ok hy]
  exact h

end EndAlike

theorem alike_pure (a : α) : Alike R (pure a : Act α) (pure a) := fun _ _ h => ⟨rfl, h⟩

theorem alike_throw (e : Fault) : Alike R (throw e : Act α) (throw e) := fun _ _ h => ⟨rfl, h⟩

theorem alike_bind {x y : Act α} {f g : α → Act β} (h : Alike R x y)
    (hrest : ∀ a, Alike R (f a) (g a)) : Alike R (x >>= f) (y >>= g) :=
  fun w w' hw => (h w w' hw).bind hrest

/-- Steps that first look at their worlds go on with what each of them saw. -/
theorem endAlike_get_bind {f g : World → Act α} (h : EndAlike R (f w) (g w') w w') :
    EndAlike R (get >>= f) (get >>= g) w w' := h

theorem alike_forM {f g : α → Act Unit} {as : List α} (h : ∀ a ∈ as, Alike R (f a) (g a)) :
    Alike R (as.forM f) (as.forM g) := by
  induction as with
  | nil => exact alike_pure ()
  | cons a as ih =>
      show Alike R (f a >>= fun _ => as.forM f) (g a >>= fun _ => as.forM g)
      refine alike_bind (h a List.mem_cons_self) fun _ => ih fun b hb => ?_
      exact h b (List.mem_cons_of_mem a hb)

/-- Both runs come to the handler with the same fault, or neither does. -/
theorem alike_recover {x y : Act α} {handles : Fault → Bool} {f g : Fault → Act α}
    (h : Alike R x y) (hhandler : ∀ e, Alike R (f e) (g e)) :
    Alike R (recover x handles f) (recover y handles g) := by
  intro w w' hw
  rcases (h w w' hw).ends with ⟨a, w₁, w₁', hx, hy, h₁⟩ | ⟨e, w₁, w₁', hx, hy, h₁⟩
  · exact .of_ok (recover_of_ok hx _ _) (recover_of_ok hy _ _) h₁
  · unfold EndAlike outcome after
    rw [recover_of_error hx, recover_of_error hy]
    by_cases hhandles : handles e
    · rw [if_pos hhandles, if_pos hhandles]
      exact hhandler e w₁ w₁' h₁
    · rw [if_neg hhandles, if_neg hhandles]
      exact ⟨rfl, h₁⟩

/-- Whichever way the bodies end, the clean-ups start from related worlds. -/
theorem alike_ensuring {x y : Act α} {cleanup cleanup' : Act Unit} (h : Alike R x y)
    (hcleanup : Alike R cleanup cleanup') : Alike R (ensuring x cleanup) (ensuring y cleanup') := by
  intro w w' hw
  rcases (h w w' hw).ends with ⟨a, w₁, w₁', hx, hy, h₁⟩ | ⟨e, w₁, w₁', hx, hy, h₁⟩
  · unfold EndAlike outcome after ensuring
    rw [hx, hy]
    dsimp only
    rcases (hcleanup w₁ w₁' h₁).ends with ⟨u, w₂, w₂', hc, hc', h₂⟩ | ⟨e, w₂, w₂', hc, hc', h₂⟩
    · rw [hc, hc']
      exact ⟨rfl, h₂⟩
    · rw [hc, hc']
      exact ⟨rfl, h₂⟩
  · unfold EndAlike outcome after ensuring
    rw [hx, hy]
    dsimp only
    rcases (hcleanup w₁ w₁' h₁).ends with ⟨u, w₂, w₂', hc, hc', h₂⟩ | ⟨e', w₂, w₂', hc, hc', h₂⟩
    · rw [hc, hc']
      exact ⟨rfl, h₂⟩
    · rw [hc, hc']
      exact ⟨rfl, h₂⟩

/-! ## Alone -/

/-- What a run does for itself alone is no difference to the other, if it cannot fail and leaves a
    world that is still related to the other's. -/
theorem alike_of_alone {x y : Act Unit} (hx : ∀ w', FailsAs (R · w') (fun _ => False) x)
    (hy : ∀ w, FailsAs (R w ·) (fun _ => False) y) : Alike R x y := by
  intro w w' h
  -- The left run goes first, so that the right one starts beside the world that it left.
  obtain ⟨_, w₁, hleft, h₁⟩ := ((hx w' w h).mono (fun _ _ h => h) fun _ _ h => h.1).exists_ok
  obtain ⟨_, w₁', hright, h₂⟩ := ((hy w₁ w' h₁).mono (fun _ _ h => h) fun _ _ h => h.1).exists_ok
  exact .of_ok hleft hright h₂

end Multicast.Act
