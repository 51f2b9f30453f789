import Chip8.Text.Decimal
import Chip8.Text.Quoted

/-!
# Details

An error that has no wording of its own can be given details: texts, numbers, truth values, and
lists and tables of these.  Its message is made of them by `Detail.message`.  A single detail
stands for itself; several are listed in brackets.  A text is quoted wherever it stands beside
others, so that each can be told from its neighbours.
-/

namespace Chip8

/-- A particular of an error. -/
inductive Detail where
  | text (content : String)
  | number (n : Int)
  | decimal (x : Float)
  | truth (holds : Bool)
  /-- A particular that is not known. -/
  | unknown
  | list (items : List Detail)
  | table (entries : List (String × Detail))
  deriving Inhabited

namespace Detail

mutual

/-- A detail among others. -/
def listed : Detail → String
  | text content => Quoted.encode content
  | number n => toString n
  | decimal x => Decimal.text x
  | truth holds => if holds then "True" else "False"
  | unknown => "None"
  | list items => "[" ++ ", ".intercalate (itemTexts items) ++ "]"
  | table entries => "\x7b" ++ ", ".intercalate (entryTexts entries) ++ "\x7d"

/-- The items of a list. -/
def itemTexts : List Detail → List String
  | [] => []
  | item :: rest => listed item :: itemTexts rest

/-- The entries of a table. -/
def entryTexts : List (String × Detail) → List String
  | [] => []
  | (name, value) :: rest => (Quoted.encode name ++ ": " ++ listed value) :: entryTexts rest

end

/-- A detail by itself. -/
def plain : Detail → String
  | text content => content
  | detail => detail.listed

/-- The message that some details make. -/
def message : List Detail → String
  | [] => ""
  | [detail] => detail.plain
  | details => "(" ++ ", ".intercalate (itemTexts details) ++ ")"

end Detail
end Chip8
