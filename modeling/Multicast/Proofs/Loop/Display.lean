import Multicast.Proofs.Dashboard.Frame
import Multicast.Proofs.Loop.Resources
import Multicast.Proofs.Terminal.Frame

/-!
# `Proofs.Loop.Display` — displays take no sockets

What shows the sessions has no business with their sockets, nor with the timer. That holds of the
full screen, on the terminal as on a screen that takes note of its commands, and of the plain output.

## Contents
- **Displays.** `Display.Aside`.
- **Full screen.** `operating_resources`, `aside_perform`, `drawing_of_aside` and `aside_terminal`.
- **Plain output.** `Progress.aside_display`.
-/

namespace Multicast

open Act

/-! ## Displays -/

/-- The display takes nothing and gives nothing back. -/
structure Display.Aside (d : Display) : Prop where
  redraw : ∀ resized, Act.Aside (d.redraw resized)
  tick : Act.Aside d.tick
  close : Act.Aside d.close

/-- Opening new slots leaves sessions their sockets. -/
theorem Act.aside_ageAll : Aside ageAll := by
  intro w
  show World.resources { w with table := w.table.age } = w.resources
  unfold World.resources Table.age
  rw [List.map_map]
  rfl

/-! ## Full screen -/

namespace Terminal

theorem operating_resources : (Frame.of World.resources).Operating where
  call c hc := aside_call (by cases c <;> first | rfl | cases hc)
  check kind := aside_check (.terminal kind)
  log := aside_log
  size _ _ _ := rfl

/-- No command to the terminal takes anything. -/
theorem aside_perform (c : Screen.Command) : Aside (perform c) := by
  by_cases hc : c = .cooked
  · rw [hc]
    exact keeps_cooked operating_resources.toCalling (aside_call rfl) fun _ => rfl
  · exact keeps_perform operating_resources hc

end Terminal

namespace Dashboard

/-- Turning the spinners leaves sessions their sockets. -/
theorem resources_turn (w : World) : World.resources { w with
    table := { w.table with sessions := w.table.sessions.map Session.turn } } = w.resources := by
  have hturn : ∀ s : Session, s.turn.socket = s.socket := by
    intro s
    unfold Session.turn
    split
    · rfl
    · rfl
  unfold World.resources
  simp only [List.map_map, Function.comp_def, hturn]

/-- A screen whose commands take nothing is drawn on without taking anything. -/
theorem drawing_of_aside {screen : Screen} (hperform : ∀ c, Aside (screen.perform c))
    (hsize : Aside screen.querySize) : (Frame.of World.resources).Drawing screen where
  perform c _ := hperform c
  querySize := hsize
  update _ _ _ := rfl
  region _ _ := rfl
  command _ := aside_call rfl
  lookup _ _ := aside_call rfl
  check := aside_check .lookup
  turn := resources_turn
  age := aside_ageAll

/-- **The full screen is aside** on any such screen. -/
theorem aside_display {screen : Screen} (hperform : ∀ c, Aside (screen.perform c))
    (hsize : Aside screen.querySize) : (display screen).Aside where
  redraw := keeps_redraw (drawing_of_aside hperform hsize)
  tick := keeps_tick (drawing_of_aside hperform hsize)
  close := keeps_close (fun c _ => hperform c) fun _ _ => rfl

theorem aside_terminal : (display .terminal).Aside :=
  aside_display Terminal.aside_perform (Terminal.keeps_querySize Terminal.operating_resources)

end Dashboard

/-! ## Plain output -/

namespace Progress

theorem marking_resources : (Frame.of World.resources).Marking where
  progress _ _ := rfl
  stdout _ _ := rfl

/-- **The plain output is aside.** -/
theorem aside_display : display.Aside where
  redraw _ := keeps_pure ()
  tick := keeps_tick marking_resources aside_ageAll
  close := keeps_close marking_resources

end Progress

end Multicast
