import Multicast.World

/-!
# `Multicast.Terminal` — the terminal that the full screen is drawn on

The terminal is opened once and given back once. Until it is open, and after it was given back, only
its size and its cursor can be asked for, and everything else does nothing. Drawing outside of the
screen is no failure.

## Contents
- **Opening.** `Terminal.open`, `Terminal.raw` and `Terminal.cooked`, which gives the terminal back.
- **Size.** `Terminal.querySize`.
- **Drawing.** `Terminal.perform`, one command.
- **Screens.** `Screen`, what a display draws on; `Screen.terminal` draws on the terminal,
  `Screen.record` takes note of the commands only.
-/

namespace Multicast

namespace Terminal

open Act

/-- Changes what is known of the terminal. -/
def update (f : Terminal → Terminal) : Act Unit :=
  MonadState.modifyGet fun w => ((), { w with terminal := f w.terminal })

/-- An operation on the terminal. -/
def operate (kind : TerminalCall) (c : Call) : Act Unit := attempt (.terminal kind) c

/-- A step whose failures on the screen do not matter. -/
def tolerant (body : Act Unit) : Act Unit := recover body Fault.isScreen fun _ => pure ()

/-- A step that is left out while the terminal is not open. -/
def whenOpen (body : Act Unit) : Act Unit := do
  if (← get).terminal.opened then body

/-! ## Opening -/

/-- Opens the terminal, with colours if it has any. -/
def start : Act Unit := do
  if (← get).terminal.opened then pure ()
  else
    operate .start .startTerminal
    update ({ · with opened := true })
    operate .keypad .keypad
    tolerant do
      operate .startColor .startColor
      operate .defaultColors .defaultColors

/-- Takes keys one at a time and does not show them. -/
def raw : Act Unit := whenOpen do
  operate .noEcho .noEcho
  operate .cbreak .cbreak

/-- Gives the terminal back. -/
def cooked : Act Unit := whenOpen do
  operate .noCbreak .noCbreak
  operate .echo .echo
  operate .finish .finishTerminal
  update ({ · with opened := false })

/-! ## Size -/

/-- Asks for columns and lines; a terminal that does not tell keeps its last known size. -/
def querySize : Act (Int × Int) := do
  let known := (← get).terminal
  call (.terminalSize known.width known.height)
  let (columns, lines) := (← get).host.terminal.getD (known.width, known.height)
  update ({ · with width := columns, height := lines })
  if known.opened then
    recover (operate .resize (.resizeTerminal lines columns)) Fault.isScreen fun _ =>
      log .debug s!"Failed resizing screen to {columns}x{lines}"
  pure (columns, lines)

/-! ## Drawing -/

/-- Shows or hides the cursor. -/
def showCursor (visible : Bool) : Act Unit := tolerant (operate .cursor (.setCursor visible))

/-- Carries out one command. -/
def perform : Screen.Command → Act Unit
  | .raw => raw
  | .cooked => cooked
  | .hideCursor => showCursor false
  | .showCursor => showCursor true
  | .clear => whenOpen (operate .erase .erase)
  | .clearToEnd => whenOpen (operate .clearToEnd .clearToEnd)
  | .refresh => whenOpen (operate .refresh .refresh)
  | .querySize => discard querySize
  | .moveTo x y => whenOpen (tolerant (operate .move (.move y x)))
  | .write text style => whenOpen (tolerant (operate .add (.addText text style)))

end Terminal

/-! ## Screens -/

/-- What a display draws on. -/
structure Screen where
  perform : Screen.Command → Act Unit
  /-- Asks for columns and lines. -/
  querySize : Act (Int × Int)

namespace Screen

/-- The screen of the terminal. -/
def terminal : Screen := ⟨Terminal.perform, Terminal.querySize⟩

/-- Takes note of a command. -/
def note (c : Command) : Act Unit := modify fun w => { w with commands := w.commands.push c }

/-- A screen that takes note of the commands and knows the terminal's size. -/
def record : Screen where
  perform := note
  querySize := do
    note .querySize
    let w ← get
    pure (w.host.terminal.getD (w.terminal.width, w.terminal.height))

end Screen

end Multicast
