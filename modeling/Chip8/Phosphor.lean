import Chip8.Picture

/-!
# Phosphors

The lit pixels of a screen have the colour of its phosphor, of which a user can choose one.
-/

namespace Chip8

/-- The colours that a user can choose for lit pixels. -/
inductive Phosphor where
  | amber
  | blue
  | green
  | white
  deriving DecidableEq, Repr, Inhabited

namespace Phosphor

/-- Every phosphor, in the order of the names. -/
def all : List Phosphor :=
  [amber, blue, green, white]

/-- The name by which a user chooses the phosphor. -/
def name : Phosphor → String
  | amber => "amber"
  | blue => "blue"
  | green => "green"
  | white => "white"

/-- The phosphor with a given name. -/
def ofName? (name : String) : Option Phosphor :=
  all.find? (·.name == name)

/-- The colour of lit pixels. -/
def color : Phosphor → Color
  | amber => ⟨255, 176, 0⟩
  | blue => ⟨100, 180, 255⟩
  | green => ⟨0, 255, 128⟩
  | white => ⟨220, 220, 220⟩

end Phosphor
end Chip8
