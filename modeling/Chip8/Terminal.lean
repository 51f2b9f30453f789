import Chip8.Window

/-!
# The terminal

Without a window system a program can be played in a terminal.  Each line of input is one frame:
the characters of the line are the keys that are held down during the frame, and a tabulator
stands for the key that starts the program over.  The screen is drawn with a character for each
pixel.
-/

namespace Chip8
namespace Terminal

/-- The key that a character of a line stands for. -/
def keyOf (c : Char) : HostKey :=
  if c = '\t' then .backspace else .char c.toLower

/-- The keys that a line holds down. -/
def keysOf (line : String) : List HostKey :=
  (line.toList.filter fun c => c ≠ '\n' && c ≠ '\r').map keyOf

/-- The events before a frame: the keys of the last frame that are let go, and then those that
are new. -/
def eventsBetween (before now : List HostKey) : List HostEvent :=
  ((before.filter fun key => key ∉ now).map .keyUp) ++
    ((now.filter fun key => key ∉ before).map .keyDown)

/-- A screen as lines of text. -/
def draw (screen : Screen screenWidth screenHeight) : List String :=
  screen.toLists.map fun row => String.ofList (row.map fun lit => if lit then '#' else ' ')

end Terminal
end Chip8
