import Chip8.Text.Numeral

/-!
# Arguments of a command

The arguments of a command are words and options.  An option begins with a dash, or with two if
its name is longer than a letter, and may need a value.  The value is the next argument, or it
stands in the same argument: behind an equals sign or, for an option of one letter, directly
behind it.  A long option may be cut off as long as it is clear which one is meant.  Two dashes
alone end the options; as a value in the same argument they say that the option has none.

`Grammar.scan` says of each argument by itself what it is, and `Grammar.read` goes through the
arguments in order.  The command has one word of its own; everything that is neither this word
nor an option nor the value of one is left over.
-/

namespace Chip8

/-- The options of a command. -/
structure Grammar (α : Type) where
  /-- The ways to write each option. -/
  spellings : List (String × α)
  /-- Whether an option needs a value. -/
  takesValue : α → Bool

/-- What an argument is. -/
inductive Token (α : Type) where
  | word
  /-- Two dashes, which end the options. -/
  | separator
  /-- An option, whether it is written with one dash, and what stands behind it. -/
  | option (option : α) (short : Bool) (attached : Option (List Char))
  /-- It looks like an option but is none. -/
  | unknown
  deriving Repr

/-- Why arguments cannot be read. -/
inductive Refusal (α : Type) where
  /-- A cut-off option could mean several. -/
  | ambiguous (argument : String) (candidates : List String)
  | missingValue (option : α)
  /-- An option without a value is given one. -/
  | unusedValue (option : α) (text : String)
  deriving Repr

/-- What the arguments of a command say, up to the place where they cannot be read. -/
structure Reading (α : Type) where
  /-- The options in order, with their values where they have one. -/
  options : List (α × Option String) := []
  /-- The command's own word. -/
  word : Option String := none
  /-- What is left over. -/
  rest : List String := []
  refusal : Option (Refusal α) := none

namespace Argument

/-- Whether an option is written with one dash. -/
def isShort (spelling : List Char) : Bool :=
  spelling[1]? != some '-'

/-- An argument at its first equals sign. -/
def splitAtMark (argument : List Char) : List Char × Option (List Char) :=
  let name := argument.takeWhile (· ≠ '=')
  match argument.drop name.length with
  | [] => (name, none)
  | _ :: text => (name, some text)

/-- Whether all characters are digits, and there is one. -/
def allDigits (text : List Char) : Bool :=
  !text.isEmpty && text.all fun c => (Numeral.digit? c).isSome

/-- A text without a line break at its end. -/
def withoutLineBreak (text : List Char) : List Char :=
  if text.getLast? = some '\n' then text.dropLast else text

/-- Whether an argument is a number below zero, with or without decimals. -/
def isNegativeNumber (argument : List Char) : Bool :=
  match withoutLineBreak argument with
  | '-' :: number =>
    let whole := number.takeWhile (· ≠ '.')
    match number.drop whole.length with
    | [] => allDigits whole
    | _ :: decimals => (whole.isEmpty || allDigits whole) && allDigits decimals
  | _ => false

end Argument

namespace Grammar

variable {α : Type}

/-- The option that is written in exactly this way. -/
def named? (grammar : Grammar α) (spelling : List Char) : Option α :=
  grammar.spellings.lookup (String.ofList spelling)

/-! ## Single arguments -/

/-- The ways to understand an argument with one or two dashes that is not exactly an option,
each with the option's spelling. -/
def candidates (grammar : Grammar α) (argument : List Char) : List (String × Token α) :=
  if Argument.isShort argument then
    grammar.spellings.filterMap fun (spelling, option) =>
      if spelling.toList = argument.take 2 then
        some (spelling, .option option true (some (argument.drop 2)))
      else if argument.isPrefixOf spelling.toList then
        some (spelling, .option option (Argument.isShort spelling.toList) none)
      else none
  else
    let (name, attached) := Argument.splitAtMark argument
    grammar.spellings.filterMap fun (spelling, option) =>
      if name.isPrefixOf spelling.toList then
        some (spelling, .option option (Argument.isShort spelling.toList) attached)
      else none

/-- What an argument is that has no place behind a separator. -/
def classify (grammar : Grammar α) (argument : String) : Except (Refusal α) (Token α) :=
  let text := argument.toList
  if text.head? ≠ some '-' then .ok .word
  else
    match grammar.named? text with
    | some option => .ok (.option option (Argument.isShort text) none)
    | none =>
      if text.length = 1 then .ok .word
      else
        let (name, attached) := Argument.splitAtMark text
        match attached, grammar.named? name with
        | some attached, some option => .ok (.option option (Argument.isShort name) (some attached))
        | _, _ =>
          match grammar.candidates text with
          | [(_, token)] => .ok token
          | [] =>
            if Argument.isNegativeNumber text || ' ' ∈ text then .ok .word else .ok .unknown
          | several => .error (.ambiguous argument (several.map (·.1)))

/-- What each argument is.  Behind a separator all are words. -/
def scan (grammar : Grammar α) : List String → Except (Refusal α) (List (String × Token α))
  | [] => .ok []
  | argument :: rest =>
    if argument = "--" then
      .ok ((argument, .separator) :: rest.map fun word => (word, .word))
    else do
      let token ← grammar.classify argument
      return (argument, token) :: (← grammar.scan rest)

/-! ## Options within an argument -/

/-- The options of a single argument. -/
structure Unpacked (α : Type) where
  options : List (α × Option String) := []
  /-- The last option needs the next argument for its value. -/
  open? : Option α := none

/-- An option with nothing behind it in its argument. -/
def unpackAlone (grammar : Grammar α) (option : α) : Unpacked α :=
  if grammar.takesValue option then { open? := some option } else { options := [(option, none)] }

/-- The value that a text behind an option gives to it. -/
def valueOf (text : List Char) : Option String :=
  if text = ['-', '-'] then none else some (String.ofList text)

/-- Takes an option and the text behind it apart.  Behind a short option that needs no value each
letter is another short option, up to one that needs a value: it gets the rest of the text. -/
def unpackText (grammar : Grammar α) (option : α) (short : Bool) (text : List Char) :
    Except (Refusal α) (Unpacked α) :=
  if grammar.takesValue option then .ok { options := [(option, valueOf text)] }
  else
    match short, text with
    | true, letter :: behind =>
      match grammar.named? ['-', letter] with
      | none => .error (.unusedValue option (String.ofList text))
      | some next => do
        let unpacked ←
          if behind.isEmpty then .ok (grammar.unpackAlone next)
          else grammar.unpackText next true behind
        return { unpacked with options := (option, none) :: unpacked.options }
    | _, _ => .error (.unusedValue option (String.ofList text))
termination_by text.length

/-- Takes an argument with an option apart. -/
def unpack (grammar : Grammar α) (option : α) (short : Bool) :
    Option (List Char) → Except (Refusal α) (Unpacked α)
  | none => .ok (grammar.unpackAlone option)
  | some text => grammar.unpackText option short text

/-! ## All arguments -/

/-- Classified arguments without a separator at their head. -/
def afterSeparator : List (String × Token α) → List (String × Token α)
  | (_, .separator) :: behind => behind
  | tokens => tokens

theorem length_afterSeparator_le (tokens : List (String × Token α)) :
    (afterSeparator tokens).length ≤ tokens.length := by
  unfold afterSeparator
  split <;> simp

/-- A reading with an argument that is left over. -/
def leaving (argument : String) (reading : Reading α) : Reading α :=
  { reading with rest := argument :: reading.rest }

/-- Goes through classified arguments.  `taken` says that the command already has its word.  A
separator next to the command's word belongs to it; any other is left over. -/
def read (grammar : Grammar α) (taken : Bool) : List (String × Token α) → Reading α
  | [] => {}
  | (argument, .word) :: following =>
    if taken then leaving argument (grammar.read true following)
    else
      have := length_afterSeparator_le following
      { grammar.read true (afterSeparator following) with word := some argument }
  | (argument, .separator) :: following =>
    if taken then leaving argument (grammar.read true following)
    else
      match following with
      | [] => leaving argument {}
      | (word, .word) :: behind => { grammar.read true behind with word := some word }
      | next :: behind => leaving argument (grammar.read false (next :: behind))
  | (argument, .unknown) :: following => leaving argument (grammar.read taken following)
  | (_, .option option short attached) :: following =>
    match grammar.unpack option short attached with
    | .error refusal => { refusal := some refusal }
    | .ok unpacked =>
      match unpacked.open? with
      | none =>
        let reading := grammar.read taken following
        { reading with options := unpacked.options ++ reading.options }
      | some last =>
        match following with
        | (value, .word) :: behind =>
          let reading := grammar.read taken behind
          { reading with options := unpacked.options ++ (last, some value) :: reading.options }
        | _ => { refusal := some (.missingValue last) }
termination_by tokens => tokens.length
decreasing_by
  all_goals simp only [List.length_cons]
  all_goals omega

end Grammar
end Chip8
