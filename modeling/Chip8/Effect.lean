import Chip8.Log

/-!
# Effects

A host does three kinds of things that can be noticed outside: it writes to the log, it calls
the sound mixer and it prints lines.  Its operations return these as a trace of `Effect`s, in
the order in which they happen.
-/

namespace Chip8

/-- A call of the sound mixer. -/
inductive MixerCall where
  /-- Opens the mixer for samples of `format` bits, below zero for signed ones. -/
  | init (rate format channels buffer : Int)
  /-- Plays the sound again and again, `loops` more times or, below zero, until it is stopped. -/
  | play (loops : Int)
  | stop
  deriving DecidableEq, Repr

/-- Something that a host does to the outside. -/
inductive Effect where
  | log (entry : Log.Entry)
  | mixer (call : MixerCall)
  /-- A line on the standard output. -/
  | print (line : String)
  deriving DecidableEq, Repr

/-- A value and the effects on the way to it. -/
abbrev Effectful := Traced Effect

/-- The log entries of an operation as effects. -/
def Traced.logged {α : Type} (x : Logged α) : Effectful α :=
  x.mapTrace .log

namespace Effect

/-- The log entries among some effects. -/
def logOf (effects : Array Effect) : List Log.Entry :=
  effects.toList.filterMap fun
    | log entry => some entry
    | _ => none

/-- The mixer calls among some effects. -/
def mixerOf (effects : Array Effect) : List MixerCall :=
  effects.toList.filterMap fun
    | mixer call => some call
    | _ => none

/-- The lines among some effects. -/
def printedOf (effects : Array Effect) : List String :=
  effects.toList.filterMap fun
    | print line => some line
    | _ => none

end Effect
end Chip8
