import Mathlib.Algebra.BigOperators.Group.List.Basic
import Chip8.Proofs.Screen.Drawing
import Chip8.Screen.Canvas

/-!
# Drawing many sprites

A `Stamp` is a sprite with the place where it is drawn.  What many stamps make of a pixel depends
only on how often they flip it all together (`Screen.cell_drawAll`).  This sum knows no order, so
that stamps may be drawn in any; and it is doubled when they are drawn again, so that every pixel is
then what it was.

Whether a drawing reports a collision does depend on what is on the screen.  Of a sprite that is no
larger than the screen, the first of two drawings collides if one of the covered pixels was lit, and
the second if one of them was dark.  A sprite that is drawn twice therefore collides once at least,
unless it covers nothing.

`Canvas.draw_order_free_and_undone` states both for a canvas of any size.
-/

namespace Chip8

/-- A sprite and where it is drawn. -/
structure Stamp where
  x : Int
  y : Int
  rows : List Int
  clip : Bool

namespace Screen

variable {width height : Nat} [Nonempty (Fin width)] [Nonempty (Fin height)]

/-! ## Any order, and again -/

section

variable {screen : Screen width height} {stamps order : List Stamp} {v : Fin height} {u : Fin width}

/-- Draws stamps one after the other. -/
def drawAll (screen : Screen width height) (stamps : List Stamp) : Screen width height :=
  stamps.foldl
    (fun screen stamp => (screen.draw stamp.x stamp.y stamp.rows stamp.clip).screen) screen

/-- How often some stamps flip the pixel in row `v` and column `u`. -/
def hitsOfAll (stamps : List Stamp) (v : Fin height) (u : Fin width) : Nat :=
  (stamps.map fun stamp =>
    hits (targets width height stamp.x stamp.y stamp.rows stamp.clip) v u).sum

/-- A pixel changes if the stamps flip it an odd number of times all together. -/
theorem cell_drawAll : (screen.drawAll stamps).cell v u =
    (screen.cell v u ^^ decide (hitsOfAll stamps v u % 2 = 1)) := by
  induction stamps generalizing screen with
  | nil => simp [drawAll, hitsOfAll]
  | cons stamp rest ih =>
    rw [drawAll, List.foldl_cons, ← drawAll, ih, cell_draw, Bool.xor_assoc,
      ← Bits.decide_odd_add]
    rfl

theorem hitsOfAll_perm (h : stamps.Perm order) : hitsOfAll stamps v u = hitsOfAll order v u :=
  (h.map _).sum_eq

theorem drawAll_perm (h : stamps.Perm order) : screen.drawAll stamps = screen.drawAll order := by
  refine Grid.ext_cell fun v u => ?_
  rw [cell_drawAll, cell_drawAll, hitsOfAll_perm h]

/-- Stamps that are drawn again, in any order, leave the screen as it was. -/
theorem drawAll_drawAll_perm (h : stamps.Perm order) :
    (screen.drawAll stamps).drawAll order = screen := by
  refine Grid.ext_cell fun v u => ?_
  rw [cell_drawAll, cell_drawAll, hitsOfAll_perm h, Bool.xor_assoc, Bool.xor_self, Bool.xor_false]

theorem draw_draw (screen : Screen width height) (x y : Int) (rows : List Int) (clip : Bool) :
    (draw (draw screen x y rows clip).screen x y rows clip).screen = screen :=
  drawAll_drawAll_perm (List.Perm.refl [Stamp.mk x y rows clip])

end

/-! ## Collisions of a sprite with itself -/

section

variable {screen : Screen width height} {x y : Int} {rows : List Int} {clip : Bool}

/-- A sprite covers some pixel if one of its bits is set and not cut off. -/
theorem exists_covers_iff : (∃ (v : Fin height) (u : Fin width), Covers x y rows clip v u) ↔
    ∃ (r c : Nat) (row : Int), rows[r]? = some row ∧ c < Sprite.width ∧
      Sprite.litIn row c = true ∧
        (clip = true → x % width + c < width ∧ y % height + r < height) := by
  constructor
  · rintro ⟨v, u, r, c, row, hrow, hc, hlit, -, -, hclip⟩
    exact ⟨r, c, row, hrow, hc, hlit, hclip⟩
  · rintro ⟨r, c, row, hrow, hc, hlit, hclip⟩
    exact ⟨wrap height (y % height + r), wrap width (x % width + c), r, c, row, hrow, hc, hlit,
      val_wrap width _, val_wrap height _, hclip⟩

variable (hwidth : Sprite.width ≤ width) (hheight : rows.length ≤ height)
include hwidth hheight

/-- Drawing collides with what is lit under the sprite. -/
theorem collision_draw_iff_covers : (draw screen x y rows clip).collision = true ↔
    ∃ (v : Fin height) (u : Fin width), Covers x y rows clip v u ∧ screen.cell v u = true := by
  rw [collision_draw_iff]
  refine exists_congr fun v => exists_congr fun u => ?_
  have hle : hits (targets width height x y rows clip) v u ≤ 1 :=
    hits_targets_le_one hwidth hheight
  rw [← one_le_hits_targets_iff, TurnsOff]
  constructor
  · rintro (⟨hlit, hhit⟩ | ⟨-, htwice⟩)
    · exact ⟨hhit, hlit⟩
    · omega
  · rintro ⟨hhit, hlit⟩
    exact Or.inl ⟨hlit, hhit⟩

/-- A sprite that is drawn again collides with what was dark under it. -/
theorem collision_draw_draw_iff_covers :
    (draw (draw screen x y rows clip).screen x y rows clip).collision = true ↔
      ∃ (v : Fin height) (u : Fin width), Covers x y rows clip v u ∧ screen.cell v u = false := by
  rw [collision_draw_iff_covers hwidth hheight]
  refine exists_congr fun v => exists_congr fun u => and_congr_right fun hcovers => ?_
  have hflipped : (draw screen x y rows clip).screen.cell v u ≠ screen.cell v u :=
    (cell_draw_ne_iff hwidth hheight).2 hcovers
  cases hlit : screen.cell v u with
  | true => simpa [hlit] using hflipped
  | false => simpa [hlit] using hflipped

/-- Of two drawings of the same sprite one collides at least, if the sprite covers any pixel. -/
theorem collision_draw_or_draw_iff :
    (draw screen x y rows clip).collision = true ∨
        (draw (draw screen x y rows clip).screen x y rows clip).collision = true ↔
      ∃ (v : Fin height) (u : Fin width), Covers x y rows clip v u := by
  rw [collision_draw_iff_covers hwidth hheight, collision_draw_draw_iff_covers hwidth hheight]
  constructor
  · rintro (⟨v, u, hcovers, -⟩ | ⟨v, u, hcovers, -⟩)
    · exact ⟨v, u, hcovers⟩
    · exact ⟨v, u, hcovers⟩
  · rintro ⟨v, u, hcovers⟩
    cases hlit : screen.cell v u with
    | true => exact Or.inl ⟨v, u, hcovers, hlit⟩
    | false => exact Or.inr ⟨v, u, hcovers, hlit⟩

end

end Screen

namespace Canvas

/-- Draws stamps one after the other. -/
def drawAll (canvas : Canvas) (stamps : List Stamp) : Except Error Canvas :=
  stamps.foldlM (fun canvas stamp => do
    let (drawn, _) ← canvas.draw stamp.x stamp.y stamp.rows stamp.clip
    return drawn) canvas

variable {width height : Nat} (width_ne : width ≠ 0) (height_ne : height ≠ 0)

theorem drawAll_pixels (screen : Screen width height) (stamps : List Stamp) :
    have := nonempty_of_ne_zero width_ne
    have := nonempty_of_ne_zero height_ne
    (pixels width_ne height_ne screen).drawAll stamps =
      .ok (pixels width_ne height_ne (screen.drawAll stamps)) := by
  intro _ _
  induction stamps generalizing screen with
  | nil => rfl
  | cons stamp rest ih => exact ih _

/-- On a canvas that has pixels stamps may be drawn in any order, and those that are drawn again, in
any order, leave it as it was.  Of two drawings of a sprite that is no larger than the canvas, the
first collides if a covered pixel was lit before, and the second if one was dark before.  One of the
two collides at least if the sprite has a set bit that is not cut off, and none does otherwise. -/
theorem draw_order_free_and_undone (screen : Screen width height) :
    (∀ stamps order : List Stamp, stamps.Perm order →
      ∃ drawn, (pixels width_ne height_ne screen).drawAll stamps = .ok drawn ∧
        (pixels width_ne height_ne screen).drawAll order = .ok drawn ∧
        drawn.drawAll order = .ok (pixels width_ne height_ne screen)) ∧
    (∀ (x y : Int) (rows : List Int) (clip : Bool), 8 ≤ width → rows.length ≤ height →
      ∃ drawn first second,
        (pixels width_ne height_ne screen).draw x y rows clip = .ok (drawn, first) ∧
        drawn.draw x y rows clip = .ok (pixels width_ne height_ne screen, second) ∧
        (first = true ↔ ∃ v u, Screen.Covers x y rows clip v u ∧ screen.cell v u = true) ∧
        (second = true ↔ ∃ v u, Screen.Covers x y rows clip v u ∧ screen.cell v u = false) ∧
        (first = true ∨ second = true ↔
          ∃ (r c : Nat) (row : Int), rows[r]? = some row ∧ c < 8 ∧ Bits.bit row (7 - c) = true ∧
            (clip = true → x % width + c < width ∧ y % height + r < height))) := by
  have := nonempty_of_ne_zero width_ne
  have := nonempty_of_ne_zero height_ne
  constructor
  · intro stamps order hperm
    refine ⟨_, drawAll_pixels width_ne height_ne screen stamps, ?_, ?_⟩
    · rw [drawAll_pixels, Screen.drawAll_perm hperm]
    · rw [drawAll_pixels, Screen.drawAll_drawAll_perm hperm]
  · intro x y rows clip hwidth hheight
    refine ⟨_, _, _, rfl, ?_, Screen.collision_draw_iff_covers hwidth hheight,
      Screen.collision_draw_draw_iff_covers hwidth hheight, ?_⟩
    · simp only [draw, Screen.draw_draw]
    · rw [Screen.collision_draw_or_draw_iff hwidth hheight, Screen.exists_covers_iff]
      rfl

/-- Three stamps that overlap, one of them cut off, are undone in reverse.  On a dark canvas a
sprite collides when it is drawn for the second time. -/
theorem draw_order_free_and_undone_dark :
    let stamps : List Stamp :=
      [⟨-1, 0, [0xFF, 0x18], false⟩, ⟨6, 1, [0xF0, 0xF0], true⟩, ⟨5, 0, [0x3C], false⟩]
    let canvas := pixels (by decide) (by decide) (Screen.dark : Screen 8 2)
    stamps.Perm stamps.reverse ∧ 8 ≤ 8 ∧ [0x3C].length ≤ 2 ∧
      (∃ drawn, canvas.drawAll stamps = .ok drawn ∧
        drawn.drawAll stamps.reverse = .ok canvas) ∧
      ∃ drawn, canvas.draw 5 1 [0x3C] false = .ok (drawn, false) ∧
        drawn.draw 5 1 [0x3C] false = .ok (canvas, true) := by
  intro stamps canvas
  have hperm : stamps.Perm stamps.reverse := (List.reverse_perm stamps).symm
  obtain ⟨horder, htwice⟩ :=
    draw_order_free_and_undone (by decide) (by decide) (Screen.dark : Screen 8 2)
  obtain ⟨drawn, hdrawn, -, hundone⟩ := horder stamps stamps.reverse hperm
  obtain ⟨once, first, second, honce, hagain, hfirst, -, heither⟩ :=
    htwice 5 1 [0x3C] false (by decide) (by decide)
  have hquiet : first = false := by
    rw [Bool.eq_false_iff]
    intro hcollides
    obtain ⟨v, u, -, hlit⟩ := hfirst.1 hcollides
    simp [Screen.dark] at hlit
  have hcollides : second = true := by
    have hset := heither.2 ⟨0, 2, 0x3C, rfl, by decide, by decide, by decide⟩
    rw [hquiet] at hset
    simpa using hset
  rw [hquiet] at honce
  rw [hcollides] at hagain
  exact ⟨hperm, by decide, by decide, ⟨drawn, hdrawn, hundone⟩, once, honce, hagain⟩

end Canvas
end Chip8
