import Chip8.CommandLine
import Chip8.Path
import Chip8.RomFile
import Chip8.Window

/-!
# The program

`Program.launch` is what the command does once its arguments are read: it greets, takes the
program from its file, sets the device up and opens the window.  Whatever is wrong with the file
or its contents ends the command before there is a window or a sound.  So does an option without
a value, but only when the command comes to need the value: the level of the log before all else,
the color and the size of pixels for the window alone.  `Program.run` goes on with the window's
main loop.
-/

namespace Chip8
namespace Program

/-- The lines with which the command greets. -/
def banner : List String :=
  ["chip8vm - CHIP-8 virtual machine",
   "  CHIP-8 Keypad: 1234 / QWER / ASDF / ZXCV",
   "  P = Pause/Resume, Backspace = Reset, ESC = Exit",
   ""]

/-- Why the command ends without a window. -/
inductive Ending where
  /-- The program cannot be loaded, and the user is told why. -/
  | refused (error : Error)
  /-- The command needs a value that an option was given without. -/
  | valueless (setting : Setting)
  /-- The display does not open a window of the size that was asked for, and says why. -/
  | unopened (complaint : String)
  deriving DecidableEq, Repr

/-- What is left to say to the user about the end. -/
def Ending.complaint? : Ending → Option String
  | refused _ => none
  | valueless setting => some ("argument " ++ setting.title ++ ": expected one argument")
  | unopened complaint => some complaint

/-- A device with the program that a path leads to, and the program. -/
def load (options : Options) (found : Found) (entropy : Int) :
    Except Ending (Logged Device × Rom) := do
  let data ← (RomFile.read options.rom found).mapError .refused
  let config ← options.config.mapError .valueless
  (options.require [.seed]).mapError .valueless
  let device ← (Device.create config entropy).mapError .refused
  let rom ← (Rom.ofBytes data).mapError .refused
  return (device.load rom, rom)

/-- The line that tells what runs, and how fast. -/
def announcement (options : Options) : String :=
  "Running " ++ Path.fileName options.rom ++ " at " ++
    toString options.configuration.clockRate ++ " Hz, profile: " ++ options.dialect.profileName

/-- The window of a device that runs a program. -/
def window (options : Options) (display : Window.Display) (mixer : Mixer) (rom : Rom)
    (device : Device) : Except Ending (Effectful Window) := do
  (options.require [.color, .scale]).mapError .valueless
  let name := Path.stem options.rom
  let color := options.phosphor.color
  (Window.create device rom name options.scale color display mixer).mapError .unopened

/-- Opens the window, unless the command ends before.  Without a seed among the options the
random bytes start from `entropy`. -/
def launch (options : Options) (found : Found) (display : Window.Display) (mixer : Mixer)
    (entropy : Int) : Effectful (Except Ending Window) := do
  if let .error setting := options.require [.logLevel] then
    return .error (.valueless setting)
  for line in banner do
    Traced.report (.print line)
  match load options found entropy with
  | .error ending =>
    if let .refused error := ending then
      Traced.report (.print ("Error: " ++ error.message))
    return .error ending
  | .ok (loaded, rom) =>
    let device ← loaded.logged
    Traced.report (.print (announcement options))
    let device ← device.start.logged
    match window options display mixer rom device with
    | .error ending => return .error ending
    | .ok opened => .ok <$> opened

/-- The status that the command ends with. -/
def status {α : Type} : Except Ending α → Nat
  | .ok _ => 0
  | .error _ => 1

/-- Opens the window and runs its main loop to the end. -/
def run (options : Options) (found : Found) (display : Window.Display) (mixer : Mixer)
    (entropy : Int) (passes : List Window.Pass) : Effectful (Except Ending Window) := do
  match ← launch options found display mixer entropy with
  | .error ending => return .error ending
  | .ok window => .ok <$> window.run passes

end Program
end Chip8
