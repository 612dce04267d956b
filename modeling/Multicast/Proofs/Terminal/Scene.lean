import Multicast.Proofs.Act.Tally
import Multicast.Proofs.Dashboard.Frame
import Multicast.Proofs.Loop.Frame
import Multicast.Proofs.Terminal.Frame
import Multicast.Proofs.Transport.Frame

/-!
# `Proofs.Terminal.Scene` — who has to do with the screen

What was called on the terminal, and whether it has to be given back, is a small part of the world.
Most of a run leaves that part alone. Drawing and stepping do not, but they neither open the
terminal nor give it back, and a dashboard that was opened stays open.

## Contents
- **Scenes.** `Scene`, with that of a world in `World.scene`.
- **Backstage.** `Act.Backstage`, the steps that leave the scene as it is; opening and closing a
  transport (`opening_scene`) are among them. Waiting leaves all of it but flags
  (`waiting_unflagged`), and installing the handlers all but these (`Signals.unheard_install`).
- **On stage.** `Scene.Drawn` and `Frame.onStage`, with `stepping_onStage` for the transport,
  `drawing_onStage` for the dashboard and `marking_onStage` for the plain output.
-/

namespace Multicast

open Act

/-! ## Scenes -/

/-- The calls on the terminal and on the timer. -/
def Call.isStaged : Call → Bool
  | .setTimer _ _ => true
  | c => c.isTerminal

/-- What is known of the screen and of the timer that brings it up to date. -/
structure Scene where
  /-- The calls on the terminal and on the timer. -/
  calls : List Call
  /-- Which refusals can come up. -/
  refusals : List (CallKind × Fault)
  /-- Whether the terminal is open. -/
  terminal : Bool
  /-- Whether the dashboard is open, which it is from its first drawing on. -/
  opened : Bool
  ticking : Bool
  flags : Flags
  /-- The handlers in force. -/
  handlers : Signal → Disposition
  /-- What happens while the transport is opened. -/
  opening : List Event

/-- The host's part of a scene. -/
def Host.stage (h : Host) :
    (List Call × List (CallKind × Fault)) × (Signal → Disposition) × List Event :=
  (h.tally Call.isStaged, h.handlers, h.opening)

/-- A call on the terminal or on the timer is part of it. -/
theorem Host.stage_record {c : Call} (hc : c.isStaged = true) (h : Host) :
    (h.record c).stage = ((h.stage.1.1 ++ [c], h.stage.1.2), h.stage.2) := by
  refine Prod.ext ?_ rfl
  show (h.record c).tally Call.isStaged = _
  rw [Host.tally_record, List.filter_cons_of_pos hc, List.filter_nil]
  rfl

/-- The scene of a world. -/
def World.scene (w : World) : Scene where
  calls := w.host.stage.1.1
  refusals := w.host.stage.1.2
  terminal := w.terminal.opened
  opened := w.dashboard.opened
  ticking := w.signals.ticking
  flags := w.flags
  handlers := w.host.stage.2.1
  opening := w.host.stage.2.2

/-- The scene whatever handlers are in force. -/
def Scene.unheard (s : Scene) : Scene := { s with handlers := fun _ => .default }

/-! ## Backstage -/

namespace Act

/-- The step leaves the scene as it is. -/
abbrev Backstage {α : Type} (act : Act α) : Prop := Keeps (.of World.scene) act

theorem backstage_modifyHost {f : Host → Host} (hf : ∀ h, (f h).stage = h.stage) :
    Backstage (modifyHost f) := by
  intro w
  show World.scene { w with host := f w.host } = w.scene
  unfold World.scene
  rw [hf]

theorem backstage_call {c : Call} (hc : c.isStaged = false) : Backstage (call c) :=
  backstage_modifyHost fun h => Prod.ext (h.tally_record_of_not hc) rfl

theorem backstage_check (kind : CallKind) : Backstage (check kind) := by
  intro w
  have htally : ((check kind).after w).host.tally Call.isStaged = w.host.tally Call.isStaged :=
    tally_check kind w
  rw [after_check] at htally
  show ((check kind).after w).scene = w.scene
  rw [after_check]
  unfold World.scene Host.stage
  dsimp only at htally ⊢
  rw [htally]

theorem backstage_attempt {kind : CallKind} {c : Call} (hc : c.isStaged = false) :
    Backstage (attempt kind c) :=
  keeps_attempt (backstage_call hc) (backstage_check kind)

theorem backstage_log (level : Level) (message : String) : Backstage (log level message) := by
  refine backstage_modifyHost fun h => Prod.ext ?_ ?_
  · exact h.tally_log (fun _ => rfl) (fun _ => rfl) level message
  · exact Host.log_leaves (fun h => (h.handlers, h.opening)) (fun _ _ => rfl)
      (fun _ _ sink => by cases sink <;> rfl) h level message

theorem backstage_modifySession (i : Int) (f : Session → Session) : Backstage (modifySession i f) := by
  intro w
  obtain ⟨sessions, hafter⟩ := after_modifySession i f w
  show ((modifySession i f).after w).scene = w.scene
  rw [hafter]
  rfl

end Act

/-- **Opening and closing a transport** is backstage. -/
theorem opening_scene : (Frame.of World.scene).Opening where
  call c hc := backstage_call (by cases c <;> first | rfl | cases hc)
  check := backstage_check
  log := backstage_log
  numbered _ _ := rfl
  uplinks _ _ := rfl
  watched _ _ := rfl
  socket i _ := backstage_modifySession i _

/-- The scene without the flags that handlers set. -/
def Scene.unflagged (s : Scene) : Scene :=
  { s with flags := { s.flags with running := true, resized := false, tick := false } }

/-- What happens while the program waits sets flags. -/
theorem waiting_unflagged : (Frame.of fun w => w.scene.unflagged).Waiting where
  receive _ _ w := congrArg Scene.unflagged (backstage_call rfl w)
  check kind w := congrArg Scene.unflagged (backstage_check kind w)
  log level message w := congrArg Scene.unflagged (backstage_log level message w)
  flags _ _ _ _ _ := rfl
  script _ _ _ _ := rfl
  terminal _ _ := rfl
  clock _ _ := rfl
  watched _ _ _ := rfl
  session i f w _ := congrArg Scene.unflagged (backstage_modifySession i f w)

namespace Signals

/-- Putting a handler in force has nothing to do with the screen. -/
theorem unheard_setHandler (s : Signal) (d : Disposition) :
    Keeps (.of fun w => w.scene.unheard) (setHandler s d) :=
  keeps_bind (fun w => congrArg Scene.unheard (backstage_call rfl w)) fun _ _ => rfl

/-- Nor has installing the handlers. -/
theorem unheard_install : Keeps (.of fun w => w.scene.unheard) install := by
  have hsave : ∀ s, Keeps (.of fun w => w.scene.unheard) (save s) := by
    intro s
    unfold save
    refine keeps_get_bind fun w => ?_
    dsimp only
    split
    · rfl
    · rfl
  exact keeps_forM fun p _ => keeps_bind (hsave p.1) fun _ => unheard_setHandler _ _

end Signals

/-! ## On stage -/

/-- What drawing makes of a scene: the terminal is neither opened nor given back, a dashboard that
    is open stays so, and the same calls can be refused. -/
structure Scene.Drawn (s s' : Scene) : Prop where
  terminal : s'.terminal = s.terminal
  opened : s.opened → s'.opened
  refusals : s'.refusals = s.refusals
  calls : ∃ calls, s'.calls = s.calls ++ calls ∧ .startTerminal ∉ calls ∧ .finishTerminal ∉ calls

namespace Scene.Drawn

variable {s s' s'' : Scene}

/-- Without any calls. -/
theorem silent (hterminal : s'.terminal = s.terminal) (hopened : s.opened → s'.opened)
    (hrefusals : s'.refusals = s.refusals) (hcalls : s'.calls = s.calls) : Drawn s s' :=
  ⟨hterminal, hopened, hrefusals, [], by rw [hcalls, List.append_nil], List.not_mem_nil,
    List.not_mem_nil⟩

theorem refl (s : Scene) : Drawn s s := silent rfl id rfl rfl

theorem trans (h : Drawn s s') (h' : Drawn s' s'') : Drawn s s'' := by
  obtain ⟨calls, hcalls, hstart, hfinish⟩ := h.calls
  obtain ⟨calls', hcalls', hstart', hfinish'⟩ := h'.calls
  refine ⟨h'.terminal.trans h.terminal, h'.opened ∘ h.opened, h'.refusals.trans h.refusals,
    calls ++ calls', ?_, ?_, ?_⟩
  · rw [hcalls', hcalls, List.append_assoc]
  · intro hmem
    rcases List.mem_append.1 hmem with hmem | hmem
    · exact hstart hmem
    · exact hstart' hmem
  · intro hmem
    rcases List.mem_append.1 hmem with hmem | hmem
    · exact hfinish hmem
    · exact hfinish' hmem

end Scene.Drawn

/-- Worlds between which there was only drawing. -/
def Frame.onStage : Frame where
  rel w w' := w.scene.Drawn w'.scene
  refl w := .refl w.scene
  trans := .trans

namespace Act

/-- What is backstage draws nothing. -/
theorem Backstage.onStage {α : Type} {act : Act α} (h : Backstage act) : Keeps .onStage act := by
  apply h.mono
  intro w w' hscene
  show w.scene.Drawn w'.scene
  rw [hscene]
  exact .refl w.scene

/-- What only puts handlers in force draws nothing either. -/
theorem onStage_of_unheard {α : Type} {act : Act α} (h : Keeps (.of fun w => w.scene.unheard) act) :
    Keeps .onStage act := by
  apply h.mono
  intro w w' hscene
  have hdrawn : w.scene.unheard.Drawn w'.scene.unheard := by
    rw [show w'.scene.unheard = w.scene.unheard from hscene]
    exact .refl _
  exact ⟨hdrawn.terminal, hdrawn.opened, hdrawn.refusals, hdrawn.calls⟩

theorem onStage_call {c : Call} (hstart : c ≠ .startTerminal) (hfinish : c ≠ .finishTerminal) :
    Keeps .onStage (call c) := by
  intro w
  refine ⟨rfl, id, rfl, [c].filter Call.isStaged, ?_, ?_, ?_⟩
  · exact congrArg Prod.fst (w.host.tally_record c)
  · intro hmem
    exact hstart (List.mem_singleton.1 (List.mem_filter.1 hmem).1).symm
  · intro hmem
    exact hfinish (List.mem_singleton.1 (List.mem_filter.1 hmem).1).symm

theorem onStage_check (kind : CallKind) : Keeps .onStage (check kind) := (backstage_check kind).onStage

theorem onStage_modifyFlags (f : Flags → Flags) : Keeps .onStage (modifyFlags f) :=
  fun _ => .silent rfl id rfl rfl

theorem onStage_ageAll : Keeps .onStage ageAll := fun _ => .silent rfl id rfl rfl

end Act

/-- **A step of a transport** has no more to do with the scene than to change flags. -/
theorem stepping_onStage : Frame.onStage.Stepping where
  call c hc := (backstage_call (by cases c <;> first | rfl | cases hc)).onStage
  check := onStage_check
  log level message := (backstage_log level message).onStage
  flags _ _ _ _ _ := .silent rfl id rfl rfl
  script _ _ _ _ := .refl _
  terminal _ _ := .refl _
  clock _ _ := .refl _
  watched _ _ _ := .refl _
  session i f w _ := (backstage_modifySession i f).onStage w

theorem operating_onStage : Frame.onStage.Operating where
  call c hc := onStage_call (by rintro rfl; cases hc) (by rintro rfl; cases hc)
  check kind := onStage_check (.terminal kind)
  log level message := (backstage_log level message).onStage
  size _ _ _ := .silent rfl id rfl rfl

/-- **A dashboard on the terminal** is only drawn. -/
theorem drawing_onStage : Frame.onStage.Drawing .terminal where
  perform _ hc := Terminal.keeps_perform operating_onStage hc
  querySize := Terminal.keeps_querySize operating_onStage
  update _ _ hopened := .silent rfl hopened rfl rfl
  region _ _ := .refl _
  command _ := (backstage_call rfl).onStage
  lookup _ _ := (backstage_call rfl).onStage
  check := onStage_check .lookup
  turn _ := .refl _
  age := onStage_ageAll

/-- **The plain output** has nothing to do with the screen. -/
theorem marking_onStage : Frame.onStage.Marking where
  progress _ _ := .refl _
  stdout _ _ := .refl _

end Multicast
