import Chip8.Text.Hex

/-!
# The keypad

A CHIP-8 machine reads sixteen keys, each named by the hexadecimal digit that it enters:

```text
1 2 3 C
4 5 6 D
7 8 9 E
A 0 B F
```

A `Key` is that digit.  A `Keypad` says for every key whether it is held down; at power-on none
is.
-/

namespace Chip8

/-- A key of the keypad: the digit that it enters. -/
abbrev Key := Fin 16

namespace Key

/-- The digit printed on the key. -/
def label (key : Key) : String :=
  Hex.padded 1 key.val

/-- The key's identifier: its label, with a `K` before the decimal digits. -/
def name (key : Key) : String :=
  if key.val < 10 then "K" ++ key.label else key.label

/-- The key with a given number, if there is one. -/
def ofInt? (id : Int) : Option Key :=
  if h : 0 ≤ id ∧ id < 16 then some ⟨id.toNat, by omega⟩ else none

/-- The key that a number selects by its low four bits. -/
def ofLowBits (n : Int) : Key :=
  ⟨(n % 16).toNat, by omega⟩

theorem ofInt?_val (key : Key) : ofInt? key.val = some key := by
  simp only [ofInt?]
  rw [dif_pos ⟨by omega, by omega⟩]
  simp

theorem ofInt?_eq_none_iff {id : Int} : ofInt? id = none ↔ id < 0 ∨ 16 ≤ id := by
  simp only [ofInt?]
  split
  next h => simp; omega
  next h => simp; omega

end Key

/-- Which keys are held down. -/
structure Keypad where
  held : Vector Bool 16
  deriving DecidableEq, Repr

namespace Keypad

/-- No key is down. -/
def released : Keypad :=
  ⟨Vector.replicate 16 false⟩

instance : Inhabited Keypad := ⟨released⟩

/-- Whether a key is down. -/
def isDown (keypad : Keypad) (key : Key) : Bool :=
  keypad.held[key]

/-- Records that a key went down or up. -/
def set (keypad : Keypad) (key : Key) (pressed : Bool) : Keypad :=
  ⟨keypad.held.set key pressed⟩

/-- The keys that are down, in ascending order. -/
def downKeys (keypad : Keypad) : List Key :=
  (List.finRange 16).filter keypad.isDown

@[simp] theorem isDown_released (key : Key) : released.isDown key = false := by
  simp [released, isDown]

@[simp] theorem isDown_set (keypad : Keypad) (key other : Key) (pressed : Bool) :
    (keypad.set key pressed).isDown other =
      if other = key then pressed else keypad.isDown other := by
  simp only [set, isDown, Fin.getElem_fin, Vector.getElem_set, Fin.ext_iff]
  by_cases h : key.val = other.val
  · simp [h]
  · simp [h, Ne.symm h]

theorem ext_isDown {first second : Keypad} (h : ∀ key, first.isDown key = second.isDown key) :
    first = second := by
  cases first; cases second
  congr 1
  apply Vector.ext
  intro i hi
  exact h ⟨i, hi⟩

@[simp] theorem mem_downKeys {keypad : Keypad} {key : Key} :
    key ∈ keypad.downKeys ↔ keypad.isDown key = true := by
  simp [downKeys]

end Keypad
end Chip8
