import Chip8.Main
import Chip8.Screen.Canvas
import Chip8.Proofs.Memory.Access
import Chip8.Proofs.Memory.History
import Chip8.Proofs.Memory.Bytewise
import Chip8.Proofs.Instruction.Encoding
import Chip8.Proofs.Machine.AllOrNothing
import Chip8.Proofs.Machine.Step
import Chip8.Proofs.Machine.Footprint
import Chip8.Proofs.Machine.CallStack
import Chip8.Proofs.Machine.Fault
import Chip8.Proofs.Machine.Bounds
import Chip8.Proofs.Machine.Trail
import Chip8.Proofs.Device.AllOrNothing
import Chip8.Proofs.Device.Session
import Chip8.Proofs.Device.Bounds
import Chip8.Proofs.Device.Frame
import Chip8.Proofs.Device.Fetches
import Chip8.Proofs.Device.KeyWait
import Chip8.Proofs.Screen.Overlap
import Chip8.Proofs.Screen.Stamps
import Chip8.Proofs.Machine.Drawing
import Chip8.Proofs.Device.FontPlace
import Chip8.Proofs.Device.Messages
import Chip8.Proofs.Device.Reset
import Chip8.Proofs.Machine.Arithmetic
import Chip8.Proofs.Machine.ControlFlow
import Chip8.Proofs.Machine.Lockstep
import Chip8.Proofs.Device.Halted
import Chip8.Proofs.Device.Timers
import Chip8.Proofs.Device.RandomStream
import Chip8.Proofs.Instruction.Format
import Chip8.Proofs.Instruction.Reading
import Chip8.Proofs.Machine.Parts
import Chip8.Proofs.Machine.Transfers
import Chip8.Proofs.Device.KeyReports
import Chip8.Proofs.Device.Records
import Chip8.Proofs.Window.Session
import Chip8.Proofs.Window.MainLoop
import Chip8.Proofs.Window.Batch
import Chip8.Proofs.Window.Caption
import Chip8.Proofs.Window.Tone
import Chip8.Proofs.Window.Pause
import Chip8.Proofs.Window.Beeping
import Chip8.Proofs.Device.Glyphs
import Chip8.Proofs.Picture.Shift
import Chip8.Proofs.Beeper.SquareWave
import Chip8.Proofs.Program.Launch
