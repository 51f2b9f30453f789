import Chip8.Keypad

/-!
# The keyboard

A host reads an ordinary keyboard.  Sixteen of its keys stand for the keypad, in the same
arrangement:

```text
1 2 3 4        1 2 3 C
q w e r        4 5 6 D
a s d f   for  7 8 9 E
z x c v        A 0 B F
```

Three more control the host.  Every key has a name: the letters and digits that the keys type in
lower case, and words in capitals.
-/

namespace Chip8

/-- A key of the keyboard. -/
inductive HostKey where
  /-- A key that types a character, which is given in lower case. -/
  | char (c : Char)
  | backspace
  | escape
  /-- Any other key, by one of its names. -/
  | other (name : String)
  deriving DecidableEq, Repr

/-- What a keyboard or a window tells its host. -/
inductive HostEvent where
  | keyDown (key : HostKey)
  | keyUp (key : HostKey)
  /-- The window is to be closed. -/
  | quit
  deriving DecidableEq, Repr

namespace HostKey

/-- The keys that stand for the keypad, in the order of their characters, with the keys that
they stand for. -/
def layout : List (Char × Key) :=
  [('1', 0x1), ('2', 0x2), ('3', 0x3), ('4', 0xC),
   ('a', 0x7), ('c', 0xB), ('d', 0x9), ('e', 0x6),
   ('f', 0xE), ('q', 0x4), ('r', 0xD), ('s', 0x8),
   ('v', 0xF), ('w', 0x5), ('x', 0x0), ('z', 0xA)].map fun (c, digit) => (c, .ofLowBits digit)

/-- Whether a key is named after the character that it types. -/
def isNamedAfter (c : Char) : Bool :=
  c.isDigit || c.isLower

/-- The numbers up to a last one as they are written. -/
def numerals (first last : Nat) : List String :=
  (List.range' first (last + 1 - first)).map toString

/-- The names of the keys that are not named after a character, without those that control the
host.  Some keys have two names. -/
def otherNames : List String :=
  ["AC_BACK", "AMPERSAND", "ASTERISK", "AT", "BACKQUOTE", "BACKSLASH", "BREAK", "CAPSLOCK", "CARET",
    "CLEAR", "COLON", "COMMA", "CURRENCYSUBUNIT", "CURRENCYUNIT", "DELETE", "DOLLAR", "DOWN", "END",
    "EQUALS", "EURO", "EXCLAIM", "GREATER", "HASH", "HELP", "HOME", "INSERT", "KP_DIVIDE",
    "KP_ENTER", "KP_EQUALS", "KP_MINUS", "KP_MULTIPLY", "KP_PERIOD", "KP_PLUS", "LALT", "LCTRL",
    "LEFT", "LEFTBRACKET", "LEFTPAREN", "LESS", "LGUI", "LMETA", "LSHIFT", "LSUPER", "MENU",
    "MINUS", "MODE", "NUMLOCK", "NUMLOCKCLEAR", "PAGEDOWN", "PAGEUP", "PAUSE", "PERCENT", "PERIOD",
    "PLUS", "POWER", "PRINT", "PRINTSCREEN", "QUESTION", "QUOTE", "QUOTEDBL", "RALT", "RCTRL",
    "RETURN", "RGUI", "RIGHT", "RIGHTBRACKET", "RIGHTPAREN", "RMETA", "RSHIFT", "RSUPER",
    "SCROLLLOCK", "SCROLLOCK", "SEMICOLON", "SLASH", "SPACE", "SYSREQ", "TAB", "UNDERSCORE",
    "UNKNOWN", "UP"] ++
  (numerals 1 15).map ("F" ++ ·) ++ (numerals 0 9).flatMap fun n => ["KP" ++ n, "KP_" ++ n]

/-- The key with a name, if there is one. -/
def ofName? (name : String) : Option HostKey :=
  match name, name.toList with
  | "BACKSPACE", _ => some backspace
  | "ESCAPE", _ => some escape
  | _, [c] => if isNamedAfter c then some (char c) else none
  | _, _ => if name ∈ otherNames then some (other name) else none

/-- The key of the keypad that a key stands for. -/
def keypadKey? : HostKey → Option Key
  | char c => layout.lookup c
  | _ => none

/-- The key that pauses and resumes. -/
def pause : HostKey := char 'p'

end HostKey
end Chip8
