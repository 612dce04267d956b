import Multicast.Proofs.Terminal.Scene
import Multicast.Program

/-!
# `Proofs.Terminal.Curtain` — opening the terminal and giving it back

On a terminal that refuses nothing, opening the full screen and leaving it return, and it is known
what they call. A terminal that was opened and given back was touched neither before nor after.

## Contents
- **Calls.** `Restored` and `Armed`, what is asked of the calls of a run.
- **Operations.** `Scene.Smooth`, and `exists_operate`: an operation on such a terminal returns.
- **Opening.** `Terminal.exists_querySize` and `Program.exists_openScreen`.
- **Giving back.** `Shown` and `GivenBack`, before and after `Program.exists_closeDisplay`.
-/

namespace Multicast

open Act

variable {w : World}

/-! ## Calls -/

/-- **The terminal was restored**: it was opened once, given back once, and touched neither before
    the one nor after the other. -/
def Restored (calls : List Call) : Prop :=
  ∃ between, calls.filter Call.isTerminal = .startTerminal :: (between ++ [.finishTerminal]) ∧
    .startTerminal ∉ between ∧ .finishTerminal ∉ between

/-- The timer was set. -/
def Armed (calls : List Call) : Prop := ∃ first interval, .setTimer first interval ∈ calls

/-! ## Operations -/

/-- No call on the terminal is refused. -/
def Host.TerminalWorks (h : Host) : Prop := ∀ f ∈ h.failures, ∀ kind, f.kind ≠ .terminal kind

/-- The same, said of the refusals that can come up. -/
def Scene.Smooth (s : Scene) : Prop := ∀ p ∈ s.refusals, ∀ kind, p.1 ≠ .terminal kind

theorem World.smooth_iff : w.scene.Smooth ↔ w.host.TerminalWorks := by
  show (∀ p ∈ w.host.failures.map fun f => (f.kind, f.fault), ∀ kind, p.1 ≠ .terminal kind) ↔ _
  rw [List.forall_mem_map]
  exact Iff.rfl

theorem Scene.Smooth.of_refusals {s s' : Scene} (h : s.Smooth) (hsame : s'.refusals = s.refusals) :
    s'.Smooth := by
  unfold Smooth
  rw [hsame]
  exact h

/-- The scene after some more calls. -/
def Scene.after (s : Scene) (calls : List Call) : Scene := { s with calls := s.calls ++ calls }

namespace Terminal

/-- **An operation returns** on a terminal that refuses nothing. -/
theorem exists_operate (h : w.scene.Smooth) (kind : TerminalCall) {c : Call}
    (hc : c.isTerminal = true) :
    ∃ w', operate kind c w = .ok () w' ∧ w'.scene = w.scene.after [c] := by
  have hfits : c.objection? = none := Call.objection?_of_isTerminal hc
  have hstaged : c.isStaged = true := by
    cases c <;> first | rfl | cases hc
  have hnone : w.host.failures.find? (Failure.strikes (.terminal kind)) = none := by
    rw [List.find?_eq_none]
    intro f hf hstrikes
    simp only [Failure.strikes, Bool.and_eq_true, decide_eq_true_eq] at hstrikes
    exact World.smooth_iff.1 h f hf kind hstrikes.1
  have hgranted : w.host.refusal? (.terminal kind) c = none :=
    Host.refusal?_eq_none.2 ⟨Host.objection?_eq_none hfits w.host, hnone⟩
  refine ⟨{ w with host := granted (.terminal kind) c w.host },
    attempt_eq_ok_iff.2 ⟨hgranted, rfl⟩, ?_⟩
  have hstage : (granted (.terminal kind) c w.host).stage =
      ((w.host.stage.1.1 ++ [c], w.host.stage.1.2), w.host.stage.2) := by
    rw [← Host.stage_record hstaged]
    exact Prod.ext (tally_granted (.terminal kind) c w.host) rfl
  unfold World.scene Scene.after
  dsimp only
  rw [hstage]

/-- An operation whose failure on the screen would not matter is like any other if it returns. -/
theorem tolerant_of_ok {body : Act Unit} {w' : World} (h : body w = .ok () w') :
    tolerant body w = .ok () w' :=
  recover_of_ok h _ _

/-- A step is not left out on an open terminal. -/
theorem whenOpen_of_opened (hopened : w.terminal.opened = true) (body : Act Unit) :
    whenOpen body w = body w := by
  unfold whenOpen
  rw [bind_of_ok (get_apply w), if_pos hopened]

/-! ## Opening -/

/-- The calls that a terminal with colours is opened with. -/
def openingCalls : List Call := [.startTerminal, .keypad, .startColor, .defaultColors]

/-- **Opening the terminal** makes these calls. -/
theorem exists_start (h : w.scene.Smooth) (hclosed : w.terminal.opened = false) :
    ∃ w', start w = .ok () w' ∧
      w'.scene = { w.scene.after openingCalls with terminal := true } := by
  obtain ⟨w₁, hstart, h₁⟩ := exists_operate h .start (c := .startTerminal) rfl
  let w₂ : World := { w₁ with terminal := { w₁.terminal with opened := true } }
  have h₂ : w₂.scene = { w.scene.after [.startTerminal] with terminal := true } := by
    show { w₁.scene with terminal := true } = _
    rw [h₁]
  have hsmooth₂ : w₂.scene.Smooth := h.of_refusals (by rw [h₂]; rfl)
  obtain ⟨w₃, hkeypad, h₃⟩ := exists_operate hsmooth₂ .keypad (c := .keypad) rfl
  have hsmooth₃ : w₃.scene.Smooth := hsmooth₂.of_refusals (by rw [h₃]; rfl)
  obtain ⟨w₄, hcolor, h₄⟩ := exists_operate hsmooth₃ .startColor (c := .startColor) rfl
  have hsmooth₄ : w₄.scene.Smooth := hsmooth₃.of_refusals (by rw [h₄]; rfl)
  obtain ⟨w₅, hcolors, h₅⟩ := exists_operate hsmooth₄ .defaultColors (c := .defaultColors) rfl
  have hcolours : (do
      operate .startColor .startColor
      operate .defaultColors .defaultColors) w₃ = .ok () w₅ := by
    rw [bind_of_ok hcolor]
    exact hcolors
  have hupdate : update ({ · with opened := true }) w₁ = .ok () w₂ := rfl
  refine ⟨w₅, ?_, ?_⟩
  · unfold start
    rw [bind_of_ok (get_apply w), hclosed, if_neg Bool.false_ne_true, bind_of_ok hstart,
      bind_of_ok hupdate, bind_of_ok hkeypad]
    exact tolerant_of_ok hcolours
  · rw [h₅, h₄, h₃, h₂]
    simp [Scene.after, openingCalls]

/-- A terminal that is not open only tells its size. -/
theorem exists_querySize (hclosed : w.terminal.opened = false) :
    ∃ size w', querySize w = .ok size w' ∧ w'.scene = w.scene := by
  let asked : World := { w with
    host := w.host.record (.terminalSize w.terminal.width w.terminal.height) }
  have hcall : call (.terminalSize w.terminal.width w.terminal.height) w = .ok () asked := rfl
  have hasked : asked.scene = w.scene := backstage_call rfl w
  have hnot : ¬w.terminal.opened = true := by
    rw [hclosed]
    exact Bool.false_ne_true
  unfold querySize
  rw [bind_of_ok (get_apply w)]
  dsimp only
  rw [bind_of_ok hcall, bind_of_ok (get_apply asked)]
  cases asked.host.terminal.getD (w.terminal.width, w.terminal.height) with
  | mk width height =>
      refine ⟨(width, height), { asked with terminal := { asked.terminal with width, height } }, ?_, ?_⟩
      · have hupdate : update ({ · with width, height }) asked =
            .ok () { asked with terminal := { asked.terminal with width, height } } := rfl
        dsimp only
        rw [bind_of_ok hupdate, if_neg hnot]
        rfl
      · rw [← hasked]
        rfl

/-- One that refuses nothing tells its size as well if it is open. -/
theorem exists_querySize_of_smooth (h : w.scene.Smooth) : ∃ size w', querySize w = .ok size w' := by
  let asked : World := { w with
    host := w.host.record (.terminalSize w.terminal.width w.terminal.height) }
  have hcall : call (.terminalSize w.terminal.width w.terminal.height) w = .ok () asked := rfl
  unfold querySize
  rw [bind_of_ok (get_apply w)]
  dsimp only
  rw [bind_of_ok hcall, bind_of_ok (get_apply asked)]
  cases asked.host.terminal.getD (w.terminal.width, w.terminal.height) with
  | mk width height =>
      let sized : World := { asked with terminal := { asked.terminal with width, height } }
      have hupdate : update ({ · with width, height }) asked = .ok () sized := rfl
      have hsmooth : sized.scene.Smooth := h.of_refusals rfl
      dsimp only
      rw [bind_of_ok hupdate]
      split
      · obtain ⟨w', hresize, -⟩ := exists_operate hsmooth .resize (c := .resizeTerminal height width) rfl
        exact ⟨_, w', bind_of_ok (recover_of_ok hresize _ _)⟩
      · exact ⟨_, sized, rfl⟩

end Terminal

/-- **Opening the full screen** opens the terminal. The dashboard is not open before it is drawn. -/
theorem Program.exists_openScreen (h : w.scene.Smooth) (s : Settings) (logged : Bool) :
    ∃ w', openScreen s logged w = .ok (Dashboard.display .terminal) w' ∧
      w'.scene = { w.scene.after Terminal.openingCalls with terminal := true, opened := false } := by
  let reset : World := { w with terminal := {} }
  have hreset : Terminal.update (fun _ => {}) w = .ok () reset := rfl
  obtain ⟨size, w₁, hsize, h₁⟩ := Terminal.exists_querySize (w := reset) rfl
  have hsmooth₁ : w₁.scene.Smooth := h.of_refusals (by rw [h₁]; rfl)
  have hclosed₁ : w₁.terminal.opened = false := by
    show w₁.scene.terminal = false
    rw [h₁]
    rfl
  obtain ⟨w₂, hstart, h₂⟩ := Terminal.exists_start hsmooth₁ hclosed₁
  refine ⟨{ w₂ with dashboard := {
    join := s.join, interface := s.interface, logged, width := size.1, height := size.2 } }, ?_, ?_⟩
  · unfold openScreen
    rw [bind_of_ok hreset, bind_of_ok hsize]
    dsimp only
    rw [bind_of_ok hstart]
    rfl
  · show { w₂.scene with opened := false } = _
    rw [h₂, h₁]
    rfl

/-! ## Giving back -/

/-- The terminal was opened by the calls since some point, it was drawn on, and not given back yet;
    the timer was set. -/
structure Shown (before : List Call) (s : Scene) : Prop where
  smooth : s.Smooth
  terminal : s.terminal = true
  opened : s.opened = true
  calls : ∃ calls, s.calls = before ++ .startTerminal :: calls ∧ .startTerminal ∉ calls ∧
    .finishTerminal ∉ calls ∧ Armed calls

/-- What is shown stays so while it is drawn on. -/
theorem Shown.drawn {before : List Call} {s s' : Scene} (h : Shown before s) (hdrawn : s.Drawn s') :
    Shown before s' := by
  obtain ⟨calls, hcalls, hstart, hfinish, first, interval, harmed⟩ := h.calls
  obtain ⟨calls', hcalls', hstart', hfinish'⟩ := hdrawn.calls
  refine ⟨h.smooth.of_refusals hdrawn.refusals, hdrawn.terminal.trans h.terminal,
    hdrawn.opened h.opened, calls ++ calls', ?_, ?_, ?_, first, interval, ?_⟩
  · rw [hcalls', hcalls, List.append_assoc]
    rfl
  · intro hmem
    rcases List.mem_append.1 hmem with hmem | hmem
    · exact hstart hmem
    · exact hstart' hmem
  · intro hmem
    rcases List.mem_append.1 hmem with hmem | hmem
    · exact hfinish hmem
    · exact hfinish' hmem
  · exact List.mem_append_left _ harmed

/-- The calls that a terminal is given back with, behind those that leave the screen. -/
def Terminal.closingCalls : List Call := [.noCbreak, .echo, .finishTerminal]

/-- **Giving the terminal back** makes these calls. -/
theorem Terminal.exists_cooked (h : w.scene.Smooth) (hopened : w.terminal.opened = true) :
    ∃ w', cooked w = .ok () w' ∧
      w'.scene = { w.scene.after closingCalls with terminal := false } := by
  obtain ⟨w₁, hcbreak, h₁⟩ := exists_operate h .noCbreak (c := .noCbreak) rfl
  have hsmooth₁ : w₁.scene.Smooth := h.of_refusals (by rw [h₁]; rfl)
  obtain ⟨w₂, hecho, h₂⟩ := exists_operate hsmooth₁ .echo (c := .echo) rfl
  have hsmooth₂ : w₂.scene.Smooth := hsmooth₁.of_refusals (by rw [h₂]; rfl)
  obtain ⟨w₃, hfinish, h₃⟩ := exists_operate hsmooth₂ .finish (c := .finishTerminal) rfl
  refine ⟨{ w₃ with terminal := { w₃.terminal with opened := false } }, ?_, ?_⟩
  · unfold cooked
    rw [whenOpen_of_opened hopened, bind_of_ok hcbreak, bind_of_ok hecho, bind_of_ok hfinish]
    rfl
  · show { w₃.scene with terminal := false } = _
    rw [h₃, h₂, h₁]
    simp [Scene.after, closingCalls]

/-- Leaving a screen that was drawn gives the terminal back. -/
theorem Dashboard.exists_close (h : w.scene.Smooth) (hterminal : w.terminal.opened = true)
    (hopened : w.dashboard.opened = true) :
    ∃ row w', close .terminal w = .ok () w' ∧
      w'.scene = { w.scene.after (.move row 0 :: .setCursor true :: Terminal.closingCalls) with
        terminal := false, opened := false } := by
  let row := w.dashboard.exitRow w.table.size
  let counted : World := { w with dashboard := { w.dashboard with ops := w.dashboard.ops + 3 } }
  have hcounted : counted.scene = w.scene := rfl
  obtain ⟨w₁, hmove, h₁⟩ := Terminal.exists_operate (w := counted) h .move (c := .move row 0) rfl
  have hsmooth₁ : w₁.scene.Smooth := h.of_refusals (by rw [h₁]; rfl)
  obtain ⟨w₂, hcursor, h₂⟩ := Terminal.exists_operate hsmooth₁ .cursor (c := .setCursor true) rfl
  have hsmooth₂ : w₂.scene.Smooth := hsmooth₁.of_refusals (by rw [h₂]; rfl)
  have hopened₂ : w₂.terminal.opened = true := by
    show w₂.scene.terminal = true
    rw [h₂, h₁]
    exact hterminal
  obtain ⟨w₃, hcooked, h₃⟩ := Terminal.exists_cooked hsmooth₂ hopened₂
  have hmoved : Terminal.perform (.moveTo 0 row) counted = .ok () w₁ :=
    (Terminal.whenOpen_of_opened (w := counted) hterminal _).trans (Terminal.tolerant_of_ok hmove)
  have hshown : Terminal.perform .showCursor w₁ = .ok () w₂ := Terminal.tolerant_of_ok hcursor
  have hgiven : Terminal.perform .cooked w₂ = .ok () w₃ := hcooked
  have hdraw : draw .terminal [.moveTo 0 row, .showCursor, .cooked] w = .ok () w₃ := by
    show (Terminal.perform (.moveTo 0 row) >>= fun _ => Terminal.perform .showCursor >>= fun _ =>
      Terminal.perform .cooked >>= fun _ => pure ()) counted = _
    rw [bind_of_ok hmoved, bind_of_ok hshown, bind_of_ok hgiven]
    rfl
  refine ⟨row, { w₃ with dashboard := { w₃.dashboard with opened := false } }, ?_, ?_⟩
  · unfold close
    rw [bind_of_ok (get_apply w), if_pos hopened, bind_of_ok hdraw]
    rfl
  · show { w₃.scene with opened := false } = _
    rw [h₃, h₂, h₁, hcounted]
    simp [Scene.after]

/-- The terminal was opened by the calls since some point and given back by them. -/
def GivenBack (before : List Call) (s : Scene) : Prop :=
  ∃ calls, s.calls = before ++ calls ∧ Armed calls ∧ Restored calls

/-- The calls that leave a screen give the terminal back. -/
theorem Shown.givenBack {before : List Call} {s : Scene} (h : Shown before s) (row : Int) :
    GivenBack before (s.after (.move row 0 :: .setCursor true :: Terminal.closingCalls)) := by
  obtain ⟨calls, hcalls, hstart, hfinish, first, interval, harmed⟩ := h.calls
  let leaving : List Call := [Call.move row 0, .setCursor true, .noCbreak, .echo]
  refine ⟨.startTerminal :: (calls ++ (leaving ++ [.finishTerminal])), ?_, ⟨first, interval, ?_⟩,
    calls.filter Call.isTerminal ++ leaving, ?_, ?_, ?_⟩
  · show s.calls ++ (leaving ++ [.finishTerminal]) = _
    rw [hcalls, List.append_assoc]
    rfl
  · exact List.mem_cons_of_mem _ (List.mem_append_left _ harmed)
  · have hleaving : (leaving ++ [Call.finishTerminal]).filter Call.isTerminal =
        leaving ++ [Call.finishTerminal] := rfl
    rw [List.filter_cons_of_pos rfl, List.filter_append, hleaving, List.append_assoc]
  · intro hmem
    rcases List.mem_append.1 hmem with hmem | hmem
    · exact hstart (List.mem_filter.1 hmem).1
    · simp [leaving] at hmem
  · intro hmem
    rcases List.mem_append.1 hmem with hmem | hmem
    · exact hfinish (List.mem_filter.1 hmem).1
    · simp [leaving] at hmem

/-- **Closing a full screen that was drawn** gives the terminal back. -/
theorem Program.exists_closeDisplay {before : List Call} (h : Shown before w.scene) :
    ∃ w', closeDisplay (Dashboard.display .terminal) w = .ok () w' ∧ GivenBack before w'.scene ∧
      w'.scene.ticking = w.scene.ticking := by
  obtain ⟨row, w', hclose, hscene⟩ := Dashboard.exists_close h.smooth h.terminal h.opened
  refine ⟨w', recover_of_ok hclose _ _, ?_, ?_⟩
  · rw [hscene]
    exact h.givenBack row
  · rw [hscene]
    rfl

/-- Closing one that was not drawn does nothing. -/
theorem Program.closeDisplay_of_unopened (h : w.dashboard.opened = false) :
    closeDisplay (Dashboard.display .terminal) w = .ok () w := by
  have hclose : Dashboard.close .terminal w = .ok () w := by
    unfold Dashboard.close
    rw [bind_of_ok (get_apply w), h]
    rfl
  exact recover_of_ok hclose _ _

end Multicast
