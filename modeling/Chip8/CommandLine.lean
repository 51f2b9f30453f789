import Chip8.CommandLine.Argument
import Chip8.Config
import Chip8.Log
import Chip8.Phosphor
import Chip8.Text.Quoted
import Chip8.Window

/-!
# The command line

The command takes the path of a program and options for the speed, the window and the machine.
`Options.parse` reads its arguments: what cannot be read is a `UsageError`, and a request for
help stops the reading where it stands.  Options count in order, so that the last one of a kind
decides and the first mistake is the one that is named.

An option can be given without a value.  That is no mistake of the arguments, but the command
breaks off when it comes to need the value (`Options.require`).
-/

namespace Chip8

/-- An option of the command. -/
inductive Setting where
  | help
  | speed
  | scale
  | profile
  | font
  | color
  | seed
  | logLevel
  deriving DecidableEq, Repr

namespace Setting

/-- The ways to write the options. -/
def grammar : Grammar Setting where
  spellings :=
    [("-h", help), ("--help", help), ("--speed", speed), ("-s", speed), ("--scale", scale),
     ("--profile", profile), ("--font", font), ("--color", color), ("--seed", seed),
     ("--log-level", logLevel)]
  takesValue setting := setting != help

/-- All ways to write an option, with slashes between. -/
def title (setting : Setting) : String :=
  "/".intercalate ((grammar.spellings.filter (·.2 == setting)).map (·.1))

end Setting

/-- Why the command does not take its arguments. -/
inductive UsageError where
  /-- The arguments cannot be read. -/
  | unreadable (refusal : Refusal Setting)
  | notANumber (setting : Setting) (text : String)
  | notAChoice (setting : Setting) (text : String) (choices : List String)
  /-- There is no program. -/
  | noRom
  /-- Arguments are left over. -/
  | unrecognized (arguments : List String)

namespace UsageError

/-- The error in words. -/
def message : UsageError → String
  | unreadable (.ambiguous argument candidates) =>
    "ambiguous option: " ++ argument ++ " could match " ++ ", ".intercalate candidates
  | unreadable (.missingValue setting) => "argument " ++ setting.title ++ ": expected one argument"
  | unreadable (.unusedValue setting text) =>
    "argument " ++ setting.title ++ ": ignored explicit argument " ++ Quoted.encode text
  | notANumber setting text =>
    "argument " ++ setting.title ++ ": invalid int value: " ++ Quoted.encode text
  | notAChoice setting text choices =>
    "argument " ++ setting.title ++ ": invalid choice: " ++ Quoted.encode text ++
      " (choose from " ++ ", ".intercalate (choices.map Quoted.encode) ++ ")"
  | noRom => "the following arguments are required: rom"
  | unrecognized arguments => "unrecognized arguments: " ++ " ".intercalate arguments

end UsageError

/-- Why the command ends before it begins. -/
inductive Exit where
  /-- The user asked for help. -/
  | help
  | usage (error : UsageError)

namespace Exit

/-- The status that the command ends with. -/
def status : Exit → Nat
  | help => 0
  | usage _ => 2

/-- What the command says about it on the standard error output. -/
def complaint : Exit → String
  | help => ""
  | usage error => "chip8vm: error: " ++ error.message

end Exit

/-- What a user can choose. -/
structure Options where
  /-- The path of the program. -/
  rom : String
  /-- Instructions in a second. -/
  speed : Int
  /-- Columns and rows of the window for each pixel. -/
  scale : Int
  dialect : Dialect
  font : Font
  phosphor : Phosphor
  seed : Option Int
  logLevel : Log.Level
  /-- The options that were last given without a value. -/
  valueless : List Setting
  deriving DecidableEq, Repr

namespace Options

/-- The choices of a user who makes none. -/
def standard (rom : String) : Options where
  rom := rom
  speed := defaultClockRate
  scale := Window.defaultScale
  dialect := {}
  font := .chip8
  phosphor := .green
  seed := none
  logLevel := .warning
  valueless := []

/-- The number that a value writes. -/
def number (setting : Setting) (text : String) : Except Exit Int :=
  match Numeral.toInt? text with
  | some n => .ok n
  | none => .error (.usage (.notANumber setting text))

/-- The choice that a value names, among choices with their names. -/
def choice {β : Type} (setting : Setting) (choices : List (String × β)) (text : String) :
    Except Exit β :=
  match choices.lookup text with
  | some chosen => .ok chosen
  | none => .error (.usage (.notAChoice setting text (choices.map (·.1))))

/-- The options with another value for one of them. -/
def assign (options : Options) (setting : Setting) (text : String) : Except Exit Options := do
  match setting with
  | .help => .error .help
  | .speed => return { options with speed := ← number setting text }
  | .scale => return { options with scale := ← number setting text }
  | .profile => return { options with dialect := ← choice setting Dialect.profiles text }
  | .font =>
    let fonts := Font.all.map fun font => (font.optionName, font)
    return { options with font := ← choice setting fonts text }
  | .color =>
    let phosphors := Phosphor.all.map fun phosphor => (phosphor.name, phosphor)
    return { options with phosphor := ← choice setting phosphors text }
  | .seed => return { options with seed := some (← number setting text) }
  | .logLevel =>
    let levels := Log.Level.all.map fun level => (level.name, level)
    return { options with logLevel := ← choice setting levels text }

/-- The options after one more of them, with its value if it has one. -/
def apply (options : Options) (setting : Setting) : Option String → Except Exit Options
  | some text => do
    let options ← options.assign setting text
    return { options with valueless := options.valueless.filter (· ≠ setting) }
  | none =>
    if setting = .help then .error .help
    else .ok { options with valueless := setting :: options.valueless }

/-- Reads the arguments of the command. -/
def parse (arguments : List String) : Except Exit Options := do
  let scanned := Setting.grammar.scan arguments
  let tokens ← scanned.mapError fun refusal => .usage (.unreadable refusal)
  let reading := Setting.grammar.read false tokens
  let options ← reading.options.foldlM
    (fun options (setting, text) => options.apply setting text) (standard "")
  match reading.refusal, reading.word, reading.rest with
  | some refusal, _, _ => .error (.usage (.unreadable refusal))
  | none, none, _ => .error (.usage .noRom)
  | none, some rom, [] => return { options with rom }
  | none, some _, rest => .error (.usage (.unrecognized rest))

/-- Breaks off at the first of some options that has no value. -/
def require (options : Options) (settings : List Setting) : Except Setting Unit :=
  match settings.find? (· ∈ options.valueless) with
  | some setting => .error setting
  | none => .ok ()

/-- The configuration that the values of the options ask for.  The speed is cut down to whole
instructions in a frame, of which there is at least one. -/
def configuration (options : Options) : Config where
  cyclesPerFrame := (max 1 (options.speed / timerRate)).toNat
  frameRate := timerRate
  stackSize := Config.standard.stackSize
  fontOffset := 0
  font := options.font
  dialect := options.dialect
  seed := options.seed
  frameRate_pos := timerRate_pos
  stackSize_pos := Config.standard.stackSize_pos

/-- The configuration that the choices ask for.  It needs all values that it consists of but the
seed's, which only a device needs. -/
def config (options : Options) : Except Setting Config := do
  options.require [.speed, .font, .profile]
  return options.configuration

end Options
end Chip8
