/-!
# `Multicast.Screen` — what is asked of a screen

The display draws by commands that place the cursor and write text from there on. Columns and rows
are counted from zero, the upper left corner first.

## Contents
- `Style`, `Screen.Command` and the commands that count as `isControl`.
-/

namespace Multicast

/-- How text is shown. -/
inductive Style where
  | normal
  | bold
  | dim
  | reverse
deriving Repr, DecidableEq

/-- One command to a screen. -/
inductive Screen.Command where
  /-- Takes keys one at a time, without showing them. -/
  | raw
  /-- Gives the terminal back. -/
  | cooked
  | hideCursor
  | showCursor
  /-- Blanks the screen. -/
  | clear
  /-- Blanks the row from the cursor on. -/
  | clearToEnd
  | refresh
  /-- Asks for the size. -/
  | querySize
  | moveTo (x y : Int)
  | write (text : String) (style : Style)
deriving Repr, DecidableEq

/-- Whether a command controls the terminal or places the cursor, rather than writes or shows. -/
def Screen.Command.isControl : Screen.Command → Bool
  | raw | cooked | hideCursor | showCursor | clear | moveTo _ _ => true
  | clearToEnd | refresh | querySize | write _ _ => false

end Multicast
