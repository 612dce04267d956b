import Multicast.Proofs.Act.Frame

/-!
# `Proofs.Act.Ends` — where a step ends, whether it returns or fails

A step that is cleaned up after has to be followed into its failures as well: each of them leaves a
world, and the clean-up starts there. What holds at the end of a step is shown here from both sides
at once, one lemma for each way of composing steps.

## Contents
- **Ends.** `Act.Ends`, with `Ends.mono`, `Ends.after`, `Ends.outcome`, `Ends.returns_or_fails`,
  `ends_of_keeps`, `ends_of_frame` and `Ends.and`.
- **Composing.** `ends_bind` and `Ends.bind`, `ends_bind_of_ok`, `ends_get_bind`, `ends_recover` and
  `ends_ensuring`.
- **Cleaning up.** `inWorld`, the same result in another world, and `ensuring_of_clean`.
- **Failing.** `FailsAs`, which bounds the faults of a step from all worlds with a property, and one
  lemma for each way of composing steps.
-/

namespace Multicast.Act

variable {α β : Type} {w : World}

/-! ## Ends -/

/-- The step ends in a result and a world of one kind, or in a fault and a world of another. -/
def Ends (act : Act α) (w : World) (returns : α → World → Prop) (fails : Fault → World → Prop) :
    Prop :=
  match act w with
  | .ok a w' => returns a w'
  | .error e w' => fails e w'

theorem Ends.mono {act : Act α} {returns returns' : α → World → Prop}
    {fails fails' : Fault → World → Prop} (h : Ends act w returns fails)
    (hreturns : ∀ a w', returns a w' → returns' a w') (hfails : ∀ e w', fails e w' → fails' e w') :
    Ends act w returns' fails' := by
  unfold Ends at h ⊢
  cases hresult : act w with
  | ok a w' =>
      rw [hresult] at h
      exact hreturns a w' h
  | error e w' =>
      rw [hresult] at h
      exact hfails e w' h

/-- What holds at both ends holds of the world that the step leaves. -/
theorem Ends.after {act : Act α} {p : World → Prop} (h : Ends act w (fun _ => p) fun _ => p) :
    p (act.after w) := by
  unfold Ends at h
  unfold Act.after
  cases hresult : act w with
  | ok a w' =>
      rw [hresult] at h
      exact h
  | error e w' =>
      rw [hresult] at h
      exact h

/-- The world that the step ends in is the one that it leaves. -/
theorem Ends.with_after {act : Act α} {returns : α → World → Prop} {fails : Fault → World → Prop}
    (h : Ends act w returns fails) :
    Ends act w (fun a w' => w' = act.after w ∧ returns a w')
      fun e w' => w' = act.after w ∧ fails e w' := by
  unfold Ends at h ⊢
  unfold Act.after
  cases hresult : act w with
  | ok a w' =>
      rw [hresult] at h
      exact ⟨rfl, h⟩
  | error e w' =>
      rw [hresult] at h
      exact ⟨rfl, h⟩

/-- What a step ends with: its result, or its fault. -/
def outcome (act : Act α) (w : World) : Except Fault α :=
  match act w with
  | .ok a _ => .ok a
  | .error e _ => .error e

theorem eq_ok_of_outcome {act : Act α} {a : α} (h : act.outcome w = .ok a) :
    act w = .ok a (act.after w) := by
  unfold Act.outcome at h
  unfold Act.after
  cases hresult : act w with
  | ok a' w' =>
      rw [hresult] at h
      rw [Except.ok.inj h]
  | error e w' =>
      rw [hresult] at h
      cases h

theorem outcome_of_error {act : Act α} {w' : World} {e : Fault} (h : act w = .error e w') :
    act.outcome w = .error e := by
  unfold Act.outcome
  rw [h]

/-- What holds at both ends holds of the outcome and of the world that the step leaves. -/
theorem Ends.outcome {act : Act α} {p : Except Fault α → World → Prop}
    (h : Ends act w (fun a => p (.ok a)) fun e => p (.error e)) : p (act.outcome w) (act.after w) := by
  unfold Ends at h
  unfold Act.outcome Act.after
  cases hresult : act w with
  | ok a w' =>
      rw [hresult] at h
      exact h
  | error e w' =>
      rw [hresult] at h
      exact h

/-- The step returns in the one way, or it fails in the other. -/
theorem Ends.returns_or_fails {act : Act α} {returns : α → World → Prop}
    {fails : Fault → World → Prop} (h : Ends act w returns fails) :
    (∃ a w', act w = .ok a w' ∧ returns a w') ∨ ∃ e w', act w = .error e w' ∧ fails e w' := by
  unfold Ends at h
  cases hresult : act w with
  | ok a w' =>
      rw [hresult] at h
      exact Or.inl ⟨a, w', rfl, h⟩
  | error e w' =>
      rw [hresult] at h
      exact Or.inr ⟨e, w', rfl, h⟩

/-- A step that does not fail returns. -/
theorem Ends.exists_ok {act : Act α} {returns : α → World → Prop}
    (h : Ends act w returns fun _ _ => False) : ∃ a w', act w = .ok a w' ∧ returns a w' := by
  rcases h.returns_or_fails with hreturns | ⟨e, w', -, hfalse⟩
  · exact hreturns
  · exact hfalse.elim

/-- A step that keeps a property ends with it either way. -/
theorem ends_of_keeps {act : Act α} {p : World → Prop} (hkeeps : Keeps (.preserving p) act)
    (h : p w) : Ends act w (fun _ => p) fun _ => p := by
  have hafter : p (act.after w) := hkeeps w h
  unfold Ends
  cases hresult : act w with
  | ok a w' =>
      rw [after_of_ok hresult] at hafter
      exact hafter
  | error e w' =>
      rw [after_of_error hresult] at hafter
      exact hafter

/-- A step that keeps a frame ends in its relation to where it started. -/
theorem ends_of_frame {F : Frame} {act : Act α} (h : Keeps F act) (w : World) :
    Ends act w (fun _ w' => F.rel w w') fun _ w' => F.rel w w' :=
  ends_of_keeps (p := fun w' => F.rel w w') (fun _ h' => F.trans h' (h _)) (F.refl w)

/-- What holds at the ends of a step for two reasons holds at them together. -/
theorem Ends.and {act : Act α} {returns returns' : α → World → Prop}
    {fails fails' : Fault → World → Prop} (h : Ends act w returns fails)
    (h' : Ends act w returns' fails') :
    Ends act w (fun a w' => returns a w' ∧ returns' a w') fun e w' => fails e w' ∧ fails' e w' := by
  unfold Ends at h h' ⊢
  cases hresult : act w with
  | ok a w' =>
      rw [hresult] at h h'
      exact ⟨h, h'⟩
  | error e w' =>
      rw [hresult] at h h'
      exact ⟨h, h'⟩

/-! ## Composing -/

theorem ends_bind {x : Act α} {f : α → Act β} {returns : β → World → Prop}
    {fails : Fault → World → Prop}
    (h : Ends x w (fun a w₁ => Ends (f a) w₁ returns fails) fails) :
    Ends (x >>= f) w returns fails := by
  unfold Ends at h ⊢
  rw [bind_apply]
  cases hresult : x w with
  | ok a w₁ =>
      rw [hresult] at h
      exact h
  | error e w₁ =>
      rw [hresult] at h
      exact h

/-- What a first part returns with is what the rest starts from; its faults are those of both. -/
theorem Ends.bind {x : Act α} {f : α → Act β} {between : α → World → Prop}
    {returns : β → World → Prop} {fails : Fault → World → Prop} (hx : Ends x w between fails)
    (hf : ∀ a w₁, between a w₁ → Ends (f a) w₁ returns fails) : Ends (x >>= f) w returns fails :=
  ends_bind (hx.mono hf fun _ _ h => h)

/-- A first part that is known to return leaves the rest. -/
theorem ends_bind_of_ok {x : Act α} {f : α → Act β} {a : α} {w₁ : World}
    {returns : β → World → Prop} {fails : Fault → World → Prop} (hx : x w = .ok a w₁)
    (h : Ends (f a) w₁ returns fails) : Ends (x >>= f) w returns fails := by
  unfold Ends
  rw [bind_of_ok hx]
  exact h

/-- A step that first looks at the world goes on with the world that it saw. -/
theorem ends_get_bind {f : World → Act β} {returns : β → World → Prop}
    {fails : Fault → World → Prop} (h : Ends (f w) w returns fails) :
    Ends (get >>= f) w returns fails := h

/-- A handled fault goes on with its handler, all others are the step's own. -/
theorem ends_recover {x : Act α} {handles : Fault → Bool} {handler : Fault → Act α}
    {returns : α → World → Prop} {fails : Fault → World → Prop}
    (h : Ends x w returns fun e w₁ =>
      if handles e then Ends (handler e) w₁ returns fails else fails e w₁) :
    Ends (recover x handles handler) w returns fails := by
  unfold Ends recover
  unfold Ends at h
  cases hresult : x w with
  | ok a w₁ =>
      rw [hresult] at h
      exact h
  | error e w₁ =>
      rw [hresult] at h
      dsimp only at h ⊢
      by_cases hhandles : handles e
      · rw [if_pos hhandles] at h ⊢
        exact h
      · rw [if_neg hhandles] at h ⊢
        exact h

/-- The clean-up starts from either end of the step, and a failure of its own is what is
    reported. -/
theorem ends_ensuring {body : Act α} {cleanup : Act Unit} {returns : α → World → Prop}
    {fails : Fault → World → Prop}
    (h : Ends body w (fun a w₁ => Ends cleanup w₁ (fun _ => returns a) fails)
      fun e w₁ => Ends cleanup w₁ (fun _ => fails e) fails) :
    Ends (ensuring body cleanup) w returns fails := by
  unfold Ends ensuring
  unfold Ends at h
  cases hresult : body w with
  | ok a w₁ =>
      rw [hresult] at h
      dsimp only at h ⊢
      cases hclean : cleanup w₁ with
      | ok u w₂ =>
          rw [hclean] at h
          exact h
      | error e w₂ =>
          rw [hclean] at h
          exact h
  | error e w₁ =>
      rw [hresult] at h
      dsimp only at h ⊢
      cases hclean : cleanup w₁ with
      | ok u w₂ =>
          rw [hclean] at h
          exact h
      | error e' w₂ =>
          rw [hclean] at h
          exact h

/-! ## Cleaning up -/

/-- The same result in another world. -/
def inWorld (r : EStateM.Result Fault World α) (w : World) : EStateM.Result Fault World α :=
  match r with
  | .ok a _ => .ok a w
  | .error e _ => .error e w

/-- A clean-up that returns leaves the result of the step as it was. -/
theorem ensuring_of_clean {body : Act α} {cleanup : Act Unit} {w' : World}
    (h : cleanup (body.after w) = .ok () w') : ensuring body cleanup w = inWorld (body w) w' := by
  unfold ensuring inWorld
  unfold after at h
  cases hbody : body w with
  | ok a w₁ =>
      rw [hbody] at h
      dsimp only at h ⊢
      rw [h]
  | error e w₁ =>
      rw [hbody] at h
      dsimp only at h ⊢
      rw [h]

theorem after_of_inWorld {act : Act α} {r : EStateM.Result Fault World α} {w' : World}
    (h : act w = inWorld r w') : act.after w = w' := by
  unfold after
  rw [h]
  cases r <;> rfl

theorem inWorld_inWorld (r : EStateM.Result Fault World α) (w w' : World) :
    inWorld (inWorld r w) w' = inWorld r w' := by
  cases r <;> rfl

/-! ## Failing -/

/-- From worlds with a property, the step fails only with faults of one kind, and it leaves a world
    with the property whether it fails or not. -/
def FailsAs (p : World → Prop) (bad : Fault → Prop) (act : Act α) : Prop :=
  ∀ w, p w → Ends act w (fun _ => p) fun e w' => bad e ∧ p w'

section

variable {p : World → Prop} {bad bad' : Fault → Prop}

theorem FailsAs.mono {act : Act α} (h : FailsAs p bad act) (hbad : ∀ e, bad e → bad' e) :
    FailsAs p bad' act := by
  intro w hw
  exact (h w hw).mono (fun _ _ h' => h') fun e _ h' => ⟨hbad e h'.1, h'.2⟩

/-- A step that keeps the property is left with bounding its faults. -/
theorem failsAs_of_keeps {act : Act α} (hkeeps : Keeps (.preserving p) act)
    (hbad : ∀ w, p w → ∀ e w', act w = .error e w' → bad e) : FailsAs p bad act := by
  intro w hw
  have hends := ends_of_keeps hkeeps hw
  unfold Ends at hends ⊢
  cases hresult : act w with
  | ok a w' =>
      rw [hresult] at hends
      exact hends
  | error e w' =>
      rw [hresult] at hends
      exact ⟨hbad w hw e w' hresult, hends⟩

/-- A step that keeps the property and always returns does not fail at all. -/
theorem failsAs_of_returns {act : Act α} (hkeeps : Keeps (.preserving p) act)
    (hreturns : ∀ w, p w → ∃ a w', act w = .ok a w') : FailsAs p bad act := by
  refine failsAs_of_keeps hkeeps fun w hw e w' herror => ?_
  obtain ⟨a, w₁, hok⟩ := hreturns w hw
  rw [hok] at herror
  cases herror

theorem failsAs_pure (a : α) : FailsAs p bad (pure a : Act α) := fun _ hw => hw

theorem failsAs_throw {e : Fault} (h : bad e) : FailsAs p bad (throw e : Act α) := fun _ hw => ⟨h, hw⟩

theorem failsAs_bind {x : Act α} {f : α → Act β} (hx : FailsAs p bad x)
    (hf : ∀ a, FailsAs p bad (f a)) : FailsAs p bad (x >>= f) := by
  intro w hw
  exact (hx w hw).bind hf

/-- A step that first looks at the world may rely on the property of the world that it sees. -/
theorem failsAs_get_bind {f : World → Act α} (h : ∀ w, p w → FailsAs p bad (f w)) :
    FailsAs p bad (get >>= f) :=
  fun w hw => h w hw w hw

theorem failsAs_forM {f : α → Act Unit} {as : List α} (h : ∀ a ∈ as, FailsAs p bad (f a)) :
    FailsAs p bad (as.forM f) := by
  induction as with
  | nil => exact failsAs_pure ()
  | cons a as ih =>
      show FailsAs p bad (f a >>= fun _ => as.forM f)
      refine failsAs_bind (h a List.mem_cons_self) fun _ => ih fun b hb => ?_
      exact h b (List.mem_cons_of_mem a hb)

/-- A handler has only to do with the faults that it handles, and the others have to be as
    bounded. -/
theorem failsAs_recover {x : Act α} {handles : Fault → Bool} {handler : Fault → Act α}
    (hx : FailsAs p bad' x) (hhandler : ∀ e, handles e = true → FailsAs p bad (handler e))
    (hrest : ∀ e, bad' e → handles e = false → bad e) : FailsAs p bad (recover x handles handler) := by
  intro w hw
  refine ends_recover ((hx w hw).mono (fun _ _ h => h) ?_)
  rintro e w₁ ⟨hbad, h₁⟩
  by_cases hhandles : handles e
  · rw [if_pos hhandles]
    exact hhandler e hhandles w₁ h₁
  · rw [if_neg hhandles]
    exact ⟨hrest e hbad (Bool.eq_false_iff.2 hhandles), h₁⟩

end

end Multicast.Act
