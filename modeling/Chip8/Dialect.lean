/-!
# Dialects of the instruction set

Interpreters have disagreed on a handful of instructions, and programs were written for one or
the other.  A `Dialect` is one choice for each point of disagreement.  The plain dialect takes
the first reading everywhere; the named profiles are the combinations that programs commonly
expect.
-/

namespace Chip8

/-- One choice for each instruction on which interpreters disagree. -/
structure Dialect where
  /-- `8XY1`, `8XY2` and `8XY3` clear VF. -/
  logicClearsFlag : Bool := false
  /-- `FX55` and `FX65` leave the index behind the last byte moved. -/
  transferAdvancesIndex : Bool := false
  /-- `8XY6` and `8XYE` shift VY into VX. -/
  shiftReadsY : Bool := false
  /-- A sprite is cut off at the edges of the screen instead of going on at the other side. -/
  clipsSprites : Bool := false
  /-- `BXNN` adds VX to the target instead of V0. -/
  jumpReadsX : Bool := false
  deriving DecidableEq, Repr, Inhabited

namespace Dialect

/-- The choices in a fixed order. -/
def flags (dialect : Dialect) : List Bool :=
  [dialect.logicClearsFlag, dialect.transferAdvancesIndex, dialect.shiftReadsY,
    dialect.clipsSprites, dialect.jumpReadsX]

/-- The named profiles, in the order of the names. -/
def profiles : List (String × Dialect) :=
  [("chip8", { logicClearsFlag := true, clipsSprites := true }),
   ("default", {}),
   ("superchip", { transferAdvancesIndex := true, clipsSprites := true, jumpReadsX := true })]

/-- The dialect of a profile.  Case does not matter in the name.  It is enough to lower the
ASCII letters: of all other characters only the Kelvin sign has an ASCII letter alone for its
lower case, and that letter, `k`, stands in no profile's name. -/
def ofProfile? (name : String) : Option Dialect :=
  profiles.lookup (name.map Char.toLower)

/-- The name of the profile that makes exactly these choices, or `custom`. -/
def profileName (dialect : Dialect) : String :=
  match profiles.find? (·.2 == dialect) with
  | some (name, _) => name
  | none => "custom"

end Dialect
end Chip8
