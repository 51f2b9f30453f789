/-!
# Grids

A `Grid height width α` has a cell for each row below `height` and each column below `width`.
It is read through `Grid.cell`, which determines it (`Grid.ext_cell`).  Positions wrap: `wrap n
i` is the place on a circle of `n` places that an integer names, so that the right edge adjoins
the left and the bottom the top.
-/

namespace Chip8

/-- The place that an integer names on a circle of `n` places. -/
def wrap (n : Nat) [Nonempty (Fin n)] (i : Int) : Fin n :=
  have : 0 < n := Fin.pos_iff_nonempty.2 inferInstance
  have hlt := Int.emod_lt_of_pos i (by omega : (0 : Int) < n)
  have hle := Int.emod_nonneg i (by omega : (n : Int) ≠ 0)
  ⟨(i % n).toNat, by omega⟩

theorem val_wrap (n : Nat) [Nonempty (Fin n)] (i : Int) : ((wrap n i).val : Int) = i % n := by
  have : 0 < n := Fin.pos_iff_nonempty.2 inferInstance
  have := Int.emod_nonneg i (by omega : (n : Int) ≠ 0)
  simp only [wrap]
  omega

/-- A rectangle of cells, kept as rows from top to bottom. -/
structure Grid (height width : Nat) (α : Type) where
  rows : Vector (Vector α width) height
  deriving DecidableEq, Repr

namespace Grid

variable {height width : Nat} {α β : Type}

/-- The cell in row `y` and column `x`. -/
def cell (grid : Grid height width α) (y : Fin height) (x : Fin width) : α :=
  grid.rows[y][x]

/-- The grid with given cells. -/
def ofFn (f : Fin height → Fin width → α) : Grid height width α :=
  ⟨Vector.ofFn fun y => Vector.ofFn fun x => f y x⟩

/-- The grid with the same value in every cell. -/
def fill (a : α) : Grid height width α :=
  ⟨Vector.replicate height (Vector.replicate width a)⟩

/-- The grid with one cell changed. -/
def set (grid : Grid height width α) (y : Fin height) (x : Fin width) (a : α) :
    Grid height width α :=
  ⟨grid.rows.set y (grid.rows[y].set x a)⟩

/-- The cells row by row. -/
def toLists (grid : Grid height width α) : List (List α) :=
  grid.rows.toList.map Vector.toList

@[simp] theorem cell_ofFn (f : Fin height → Fin width → α) (y : Fin height) (x : Fin width) :
    (ofFn f).cell y x = f y x := by
  simp [cell, ofFn]

@[simp] theorem cell_fill (a : α) (y : Fin height) (x : Fin width) :
    (fill a : Grid height width α).cell y x = a := by
  simp [cell, fill]

@[simp] theorem cell_set (grid : Grid height width α) (y v : Fin height) (x u : Fin width)
    (a : α) : (grid.set y x a).cell v u = if v = y ∧ u = x then a else grid.cell v u := by
  simp only [cell, set, Fin.getElem_fin, Vector.getElem_set, Fin.ext_iff]
  by_cases hy : y.val = v.val
  · simp only [hy, ↓reduceIte, Vector.getElem_set]
    by_cases hx : x.val = u.val
    · simp [hx]
    · simp [hx, Ne.symm hx]
  · simp [hy, Ne.symm hy]

/-- A grid is determined by its cells. -/
theorem ext_cell {first second : Grid height width α}
    (h : ∀ y x, first.cell y x = second.cell y x) : first = second := by
  cases first; cases second
  congr 1
  apply Vector.ext
  intro y hy
  apply Vector.ext
  intro x hx
  exact h ⟨y, hy⟩ ⟨x, hx⟩

end Grid
end Chip8
