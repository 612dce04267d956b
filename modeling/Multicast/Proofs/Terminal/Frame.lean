import Multicast.Proofs.Act.Frame
import Multicast.Terminal

/-!
# `Proofs.Terminal.Frame` — what drawing on the terminal leaves as it was

Every command to the terminal is made of calls to it and of taking note of its size; only giving the
terminal back does more. A frame that is kept by those steps is kept by all other commands.

## Contents
- **Basic steps.** `Call.isTerminal`; `Frame.Calling`, the calls that a command makes, and
  `Frame.Operating`, all steps that it is made of.
- **Commands.** `Terminal.keeps_querySize`, `Terminal.keeps_perform`, and `Terminal.keeps_cooked`
  for the one that gives the terminal back.
-/

namespace Multicast

open Act

/-! ## Basic steps -/

/-- The calls that the commands to an open terminal make. -/
def Call.isDrawing : Call → Bool
  | .terminalSize _ _ | .resizeTerminal _ _ | .noEcho | .echo | .cbreak | .noCbreak | .setCursor _
  | .move _ _ | .erase | .clearToEnd | .refresh | .addText _ _ => true
  | _ => false

/-- The calls on the terminal. -/
def Call.isTerminal : Call → Bool
  | .startTerminal | .startColor | .defaultColors | .resizeTerminal _ _ | .noEcho | .echo | .cbreak
  | .noCbreak | .finishTerminal | .setCursor _ | .keypad | .move _ _ | .erase | .clearToEnd | .refresh
  | .addText _ _ => true
  | _ => false

/-- They take any numbers. -/
theorem Call.objection?_of_isTerminal {c : Call} (hc : c.isTerminal = true) : c.objection? = none := by
  cases c <;> first | rfl | cases hc

/-- A frame is kept by the calls that commands to the terminal make. -/
structure Frame.Calling (F : Frame) : Prop where
  call : ∀ c, c.isDrawing = true → Keeps F (call c)
  check : ∀ kind, Keeps F (check (.terminal kind))

/-- A frame is kept by all the steps that commands to the terminal are made of. -/
structure Frame.Operating (F : Frame) : Prop extends F.Calling where
  log : ∀ level message, Keeps F (log level message)
  size : ∀ width height, Keeps F (Terminal.update ({ · with width, height }))

/-! ## Commands -/

namespace Terminal

variable {F : Frame}

theorem keeps_operate (h : F.Calling) (kind : TerminalCall) {c : Call} (hc : c.isDrawing = true) :
    Keeps F (operate kind c) :=
  keeps_attempt (h.call c hc) (h.check kind)

theorem keeps_tolerant {body : Act Unit} (h : Keeps F body) : Keeps F (tolerant body) :=
  keeps_recover h fun _ => keeps_pure ()

theorem keeps_whenOpen {body : Act Unit} (h : Keeps F body) : Keeps F (whenOpen body) := by
  unfold whenOpen
  refine keeps_bind keeps_get fun w => ?_
  split
  · exact h
  · exact keeps_pure ()

theorem keeps_querySize (h : F.Operating) : Keeps F querySize := by
  unfold querySize
  refine keeps_bind keeps_get fun w => keeps_bind (h.call _ rfl) fun _ => ?_
  refine keeps_bind keeps_get fun w' => ?_
  cases w'.host.terminal.getD (w.terminal.width, w.terminal.height) with
  | mk columns lines =>
      dsimp only
      refine keeps_bind (h.size columns lines) fun _ => ?_
      split
      · refine keeps_bind (keeps_recover (keeps_operate h.toCalling _ rfl) fun _ => h.log _ _) fun _ => ?_
        exact keeps_pure _
      · exact keeps_pure _

/-- A command that neither asks for the terminal's size nor gives it back only calls. -/
theorem keeps_perform_of_ne (h : F.Calling) {c : Screen.Command} (hc : c ≠ .cooked)
    (hsize : c ≠ .querySize) : Keeps F (perform c) := by
  cases c with
  | raw =>
      apply keeps_whenOpen
      exact keeps_bind (keeps_operate h _ rfl) fun _ => keeps_operate h _ rfl
  | cooked => exact absurd rfl hc
  | hideCursor | showCursor => exact keeps_tolerant (keeps_operate h _ rfl)
  | clear | clearToEnd | refresh => exact keeps_whenOpen (keeps_operate h _ rfl)
  | querySize => exact absurd rfl hsize
  | moveTo | write => exact keeps_whenOpen (keeps_tolerant (keeps_operate h _ rfl))

/-- **A command** that does not give the terminal back. -/
theorem keeps_perform (h : F.Operating) {c : Screen.Command} (hc : c ≠ .cooked) :
    Keeps F (perform c) := by
  by_cases hsize : c = .querySize
  · rw [hsize]
    exact keeps_bind (keeps_querySize h) fun _ => keeps_pure ()
  · exact keeps_perform_of_ne h.toCalling hc hsize

/-- Giving the terminal back takes one call more, and closes it. -/
theorem keeps_cooked (h : F.Calling) (hfinish : Keeps F (call .finishTerminal))
    (hclosed : Keeps F (update ({ · with opened := false }))) : Keeps F cooked := by
  apply keeps_whenOpen
  refine keeps_bind (keeps_operate h _ rfl) fun _ => keeps_bind (keeps_operate h _ rfl) fun _ => ?_
  exact keeps_bind (keeps_attempt hfinish (h.check _)) fun _ => hclosed

end Terminal

end Multicast
