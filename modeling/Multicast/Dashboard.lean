import Multicast.Display
import Multicast.Interfaces
import Multicast.Terminal

/-!
# `Multicast.Dashboard` — the full screen

From top to bottom, the screen shows a title, a bar with the host and the time, a heading, one row
for each session, a second heading and the log region. A repaint blanks the screen; after that, a
tick only writes the rows that have changed, and the log region if there is something new in it.

## Contents
- **Layout.** The rows of the screen, and `Dashboard.columns`, the width of a session's history.
- **Commands.** What is drawn, as lists of commands: `Dashboard.captions`, `Dashboard.bar`,
  `Dashboard.paintFrom?` for the sessions' rows and `Dashboard.logCommands` for the log region.
- **Stages.** `Dashboard.redraw`, `Dashboard.paint`, `Dashboard.showLog`, `Dashboard.tick` and
  `Dashboard.close` on any screen, and the stages together in `Dashboard.display`.
-/

namespace Multicast

namespace Dashboard

open Act Screen Text

/-! ## Layout -/

/-- The row of the title. -/
def titleRow : Int := 0

/-- The row of the bar. -/
def barRow : Int := 1

/-- The row of the sessions' heading. -/
def headingRow : Int := 3

/-- The row of the first session. -/
def firstRow : Int := 4

/-- The row of the log region's heading, below a number of sessions. -/
def logHeadingRow (sessions : Nat) : Int := firstRow + sessions + 1

/-- The first row of the log region. -/
def logRow (sessions : Nat) : Int := logHeadingRow sessions + 1

/-- The row in which the cursor is left at the end. -/
def exitRow (d : Dashboard) (sessions : Nat) : Int := max (d.height - 1) (logRow sessions)

/-- The title of the screen. -/
def title (d : Dashboard) : String :=
  if d.join then "mcjoin :: receiving multicast" else "mcjoin :: sending multicast"

/-- The line below the title. -/
def hint : String := "ctrl-c to exit"

/-- The columns that a session's row has for the history, below one on a narrow screen. -/
def columns (d : Dashboard) : Int := min (d.width - 50) History.slots

/-! ## Commands -/

/-- Writes a text in a row, from a column on; one left of the screen is moved to its edge. -/
def place (x y : Int) (text : String) (style : Style) : List Command :=
  [.moveTo (max x 0) y, .write text style]

/-- Writes a text in the middle of a row. -/
def centre (d : Dashboard) (y : Int) (text : String) (style : Style) : List Command :=
  place ((d.width - text.length) / 2) y text style

/-- The title and the line below it. -/
def captions (d : Dashboard) : List Command :=
  d.centre titleRow d.title .bold ++ d.centre barRow hint .dim

/-- A heading filled up to the width of the screen, with at least one blank. -/
def heading? (d : Dashboard) (memory : Nat) (left : String) (used : Int) (right : String) :
    Except RoomError String :=
  (Room.forText? memory (max (d.width - used) 1)).map fun n => left ++ blanks n ++ right

/-- The heading of the sessions. -/
def sessionHeading? (d : Dashboard) (memory : Nat) : Except RoomError String :=
  d.heading? memory (padRight 31 "SOURCE,GROUP" ++ "    PLOTTER") 55 "      PACKETS"

/-- The heading of the log region. -/
def logHeading? (d : Dashboard) (memory : Nat) : Except RoomError String :=
  d.heading? memory (padRight 24 "TIME" ++ "  LOG") 29 ""

/-- The bar with the host, its address and the time. -/
def bar (d : Dashboard) (time : Calendar.Stamp) : List Command :=
  let now := time.blankPadded
  let name := d.hostname.getD ""
  let address := d.address.getD ""
  let host := s!"{name} ({address}@{d.interface})"
  place 0 barRow host .normal ++ place (d.width - now.length - 1) barRow now .normal

/-- Writes the row of the session at a position, unless it is out of sight or shown already. -/
def paintRow (d : Dashboard) (i : Nat) (line : String) : List Command × Dashboard :=
  if d.height - 1 ≤ firstRow + i ∨ d.painted.lookup i = some line then ([], d)
  else
    (place 0 (firstRow + i) line .normal,
      { d with painted := (i, line) :: d.painted.filter (·.1 ≠ i) })

/-- Writes the rows of sessions, the first of which is at the given position. -/
def paintFrom? (d : Dashboard) (i : Nat) : List Session → Except Fault (List Command × Dashboard)
  | [] => pure ([], d)
  | s :: rest => do
    let (here, d) := d.paintRow i (← s.row? s.glyph d.columns)
    let (below, d) ← d.paintFrom? (i + 1) rest
    pure (here ++ below, d)

/-- The rows of the log region that are in sight. -/
def logRows (d : Dashboard) (sessions : Nat) : Nat := (d.height - logRow sessions - 1).toNat

/-- Writes one line of the log region. -/
def logLine (d : Dashboard) (sessions : Nat) (line : String) (i : Nat) : List Command :=
  place 0 (logRow sessions + i) (take (d.width - 1).toNat line) .normal ++
    [.clearToEnd]

/-- Writes the newest lines of the log region. -/
def logCommands (d : Dashboard) (sessions : Nat) (region : LogRegion) : List Command :=
  (LogRegion.latest (d.logRows sessions) region.lines).zipIdx.flatMap fun (line, i) =>
    d.logLine sessions line i

/-! ## Stages -/

/-- Changes the dashboard. -/
def update (f : Dashboard → Dashboard) : Act Unit :=
  MonadState.modifyGet fun w => ((), { w with dashboard := f w.dashboard })

/-- Counts and carries out commands. -/
def draw (screen : Screen) (commands : List Command) : Act Unit := do
  update fun d => { d with ops := d.ops + commands.countP Command.isControl }
  commands.forM screen.perform

/-- Marks the log region as drawn or not. -/
def setDirty (dirty : Bool) : Act Unit := do
  if (← get).dashboard.logged then
    modifyHost fun h => { h with region := { h.region with dirty } }

/-- Looks up the host's name and address, once for the whole run. -/
def identify : Act Unit := do
  let d := (← get).dashboard
  if d.hostname.isNone then
    let name := (← get).host.name
    update ({ · with hostname := some name })
  if d.address.isNone then
    let address ← interfaceAddress d.interface 0 true
    update ({ · with address := some address })

/-- Draws the log region if there is something new in it. -/
def showLog (screen : Screen) : Act Unit := do
  let w ← get
  if w.dashboard.logged && w.host.region.dirty then
    setDirty false
    draw screen (w.dashboard.logCommands w.table.size w.host.region)

/-- Draws the bar, the sessions and the log region; the spinners turn if `advance` says so. Without a
date for the bar, nothing is drawn. -/
def paint (screen : Screen) (advance : Bool) : Act Unit := do
  identify
  let w ← get
  let time ← Act.ofExcept ((Calendar.Stamp.ofClock? w.host.clock).mapError .date)
  let sessions := w.table.sessions
  let (rows, painted) ← Act.ofExcept (w.dashboard.paintFrom? 0 sessions)
  update fun _ => painted
  if advance then setTable { w.table with sessions := sessions.map Session.turn }
  draw screen (w.dashboard.bar time ++ rows)
  showLog screen

/-- Takes over the present size of the screen. -/
def resize (screen : Screen) : Act Unit := do
  let (width, height) ← screen.querySize
  update ({ · with width, height })

/-- Prepares the terminal, when the screen is drawn for the first time. -/
def prepare (screen : Screen) : Act Unit := do
  if (← get).dashboard.opened then pure ()
  else
    update ({ · with opened := true })
    draw screen [.raw, .hideCursor]

/-- Draws a heading in a row. The cursor is there already when room for the heading is found. -/
def drawHeading (screen : Screen) (row : Int) (text : Except RoomError String) : Act Unit := do
  draw screen [.moveTo 0 row]
  let text ← Act.ofExcept (text.mapError .room)
  draw screen [.write text .reverse]

/-- Blanks a screen that is prepared, draws its fixed texts and forgets which rows were painted. -/
def inscribe (screen : Screen) : Act Unit := do
  let w ← get
  draw screen (.clear :: w.dashboard.captions)
  drawHeading screen headingRow (w.dashboard.sessionHeading? w.host.memory)
  drawHeading screen (logHeadingRow w.table.size) (w.dashboard.logHeading? w.host.memory)
  update ({ · with painted := [] })
  setDirty true

/-- Blanks the screen and draws its fixed texts. -/
def blank (screen : Screen) : Act Unit := do
  prepare screen
  inscribe screen

/-- Blanks the screen and draws its fixed texts; of a screen that was resized, all else too. -/
def redraw (screen : Screen) (resized : Bool) : Act Unit := do
  if resized then resize screen
  blank screen
  if resized then paint screen false
  screen.perform .refresh

/-- Shows a tick. -/
def tick (screen : Screen) : Act Unit := do
  paint screen true
  screen.perform .refresh
  ageAll

/-- Leaves the screen, if it was ever drawn. -/
def close (screen : Screen) : Act Unit := do
  let w ← get
  if w.dashboard.opened then
    draw screen [.moveTo 0 (w.dashboard.exitRow w.table.size), .showCursor, .cooked]
    update ({ · with opened := false })

/-- The stages of the full screen. -/
def display (screen : Screen) : Display := ⟨redraw screen, tick screen, close screen⟩

end Dashboard

end Multicast
