import Mathlib.Data.Fintype.Prod
import Chip8.Proofs.Screen.Drawing
import Chip8.Screen.Canvas

/-!
# Sprites that meet themselves

On a narrow screen, or with more rows than the screen has, a sprite goes on at the opposite edge
until it comes back to where it began, and then several of its bits lie over one pixel.
`Screen.overlaps` counts them.  How often drawing flips a pixel is just this number
(`Screen.hits_targets`), so that the order of the flips has no bearing on what is drawn nor on
whether a collision is reported.

Drawing looks at all set bits and leaves out those that are cut off.  `Screen.sweep` goes through
the sprite row by row and column by column instead, and gives up a row at the first set bit that is
past the right edge and the whole sprite at the first row that is past the bottom.  It draws the
same (`Screen.sweep_eq_draw`), because behind a place that is cut off there are only others.

`Canvas.draw_by_overlaps` has both for a canvas of any size.
-/

namespace Chip8
namespace Screen

/-! ## Counting set bits -/

/-- The bit in row `r` and column `c` of a sprite at `(x, y)` is drawn over the pixel in row `v` and
column `u`.  With `clip` bits past the right edge or past the bottom are not drawn. -/
def LiesOver {width height : Nat} (x y : Int) (clip : Bool) (v : Fin height) (u : Fin width)
    (r c : Nat) : Prop :=
  (x % width + c) % width = u.val ∧ (y % height + r) % height = v.val ∧
    (clip = true → x % width + c < width ∧ y % height + r < height)

instance {width height : Nat} (x y : Int) (clip : Bool) (v : Fin height) (u : Fin width)
    (r c : Nat) : Decidable (LiesOver x y clip v u r c) :=
  inferInstanceAs (Decidable (_ ∧ _ ∧ _))

/-- How many set bits of a sprite at `(x, y)` are drawn over the pixel in row `v` and column `u`. -/
def overlaps {width height : Nat} (x y : Int) (rows : List Int) (clip : Bool) (v : Fin height)
    (u : Fin width) : Nat :=
  (Finset.univ.filter fun dot : Fin rows.length × Fin Sprite.width =>
    Bits.bit rows[dot.1] (7 - dot.2.val) = true ∧ LiesOver x y clip v u dot.1 dot.2).card

variable {width height : Nat} [Nonempty (Fin width)] [Nonempty (Fin height)]

section

variable {x y : Int} {rows : List Int} {clip : Bool} {v : Fin height} {u : Fin width}

/-- Drawing flips a pixel once for every set bit that is drawn over it. -/
theorem hits_targets_eq_countP : hits (targets width height x y rows clip) v u =
    (Sprite.dots rows).countP fun dot => LiesOver x y clip v u dot.1 dot.2 := by
  rw [hits, targets_eq, List.count_eq_countP, List.countP_map, List.countP_filter, List.countP_map]
  refine List.countP_congr fun dot _ => ?_
  simp only [Function.comp_apply, Bool.and_eq_true, beq_iff_eq, pixelAt, Prod.mk.injEq,
    wrap_eq_iff, Bool.or_eq_true, Bool.not_eq_true', decide_eq_true_eq]
  unfold LiesOver
  constructor
  · rintro ⟨⟨hv, hu⟩, hclip⟩
    exact ⟨hu.symm, hv.symm, fun hset => hclip.resolve_left (by rw [hset]; decide)⟩
  · rintro ⟨hu, hv, hclip⟩
    refine ⟨⟨hv.symm, hu.symm⟩, ?_⟩
    cases clip with
    | true => exact Or.inr (hclip rfl)
    | false => exact Or.inl rfl

/-- Every set bit is listed once. -/
theorem countP_dots (p : Nat → Nat → Prop) [∀ r c, Decidable (p r c)] :
    (Sprite.dots rows).countP (fun dot => p dot.1 dot.2) =
      (Finset.univ.filter fun dot : Fin rows.length × Fin Sprite.width =>
        Bits.bit rows[dot.1] (7 - dot.2.val) = true ∧ p dot.1 dot.2).card := by
  have himage : ((Sprite.dots rows).filter fun dot => p dot.1 dot.2).toFinset =
      (Finset.univ.filter fun dot : Fin rows.length × Fin Sprite.width =>
        Bits.bit rows[dot.1] (7 - dot.2.val) = true ∧ p dot.1 dot.2).image
          fun dot => (dot.1.val, dot.2.val) := by
    ext ⟨r, c⟩
    simp only [List.mem_toFinset, List.mem_filter, Sprite.mem_dots, decide_eq_true_eq,
      Finset.mem_image, Finset.mem_filter, Finset.mem_univ, true_and, Prod.exists, Prod.mk.injEq]
    constructor
    · rintro ⟨⟨row, hrow, hc, hlit⟩, hp⟩
      obtain ⟨hr, rfl⟩ := List.getElem?_eq_some_iff.1 hrow
      exact ⟨⟨r, hr⟩, ⟨c, hc⟩, ⟨hlit, hp⟩, rfl, rfl⟩
    · rintro ⟨r, c, ⟨hlit, hp⟩, rfl, rfl⟩
      exact ⟨⟨_, List.getElem?_eq_getElem r.isLt, c.isLt, hlit⟩, hp⟩
  rw [List.countP_eq_length_filter,
    ← List.toFinset_card_of_nodup ((Sprite.nodup_dots rows).filter _), himage]
  refine Finset.card_image_of_injective _ fun first second h => ?_
  obtain ⟨hr, hc⟩ := Prod.mk.inj h
  exact Prod.ext (Fin.ext hr) (Fin.ext hc)

theorem hits_targets : hits (targets width height x y rows clip) v u = overlaps x y rows clip v u :=
  hits_targets_eq_countP.trans (countP_dots _)

end

/-! ## Giving up at the edges -/

/-- Flips the pixels under the set bits of a row in some columns, one column after the other.  With
`clip` the first set bit past the right edge ends the row. -/
def sweepRow (left line : Int) (row : Int) (clip : Bool) :
    List Nat → Drawn width height → Drawn width height
  | [], drawn => drawn
  | c :: rest, drawn =>
    if Sprite.litIn row c = false then sweepRow left line row clip rest drawn
    else if clip = true ∧ width ≤ left + c then drawn
    else sweepRow left line row clip rest (drawn.flip (left + c, line))

/-- Flips the pixels under some rows with their places in the sprite, one row after the other.  With
`clip` the first row past the bottom ends the sprite. -/
def sweepRows (left top : Int) (clip : Bool) :
    List (Int × Nat) → Drawn width height → Drawn width height
  | [], drawn => drawn
  | (row, r) :: rest, drawn =>
    if clip = true ∧ height ≤ top + r then drawn
    else
      sweepRows left top clip rest
        (sweepRow left (top + r) row clip (List.range Sprite.width) drawn)

/-- Draws a sprite row by row and column by column, up to where it is cut off. -/
def sweep (screen : Screen width height) (x y : Int) (rows : List Int) (clip : Bool) :
    Drawn width height :=
  sweepRows (x % width) (y % height) clip rows.zipIdx ⟨screen, false⟩

section

variable {drawn : Drawn width height} {left top line row : Int} {clip : Bool}

/-- Whether a position is drawn. -/
def isDrawn (width height : Nat) (clip : Bool) (position : Int × Int) : Bool :=
  !clip || decide (position.1 < width ∧ position.2 < height)

omit [Nonempty (Fin width)] [Nonempty (Fin height)] in
theorem isDrawn_iff {position : Int × Int} : isDrawn width height clip position = true ↔
    (clip = true → position.1 < width ∧ position.2 < height) := by
  cases clip <;> simp [isDrawn]

/-- Behind a column past the right edge there are only others. -/
theorem sweepRow_eq_foldl {columns : List Nat} (hcolumns : columns.Pairwise (· < ·))
    (hline : clip = true → line < height) :
    sweepRow left line row clip columns drawn =
      (((columns.filter (Sprite.litIn row)).map fun c : Nat => (left + c, line)).filter
        (isDrawn width height clip)).foldl Drawn.flip drawn := by
  induction columns generalizing drawn with
  | nil => rfl
  | cons c rest ih =>
    obtain ⟨hbehind, hrest⟩ := List.pairwise_cons.1 hcolumns
    rw [sweepRow]
    split
    next hdark =>
      rw [List.filter_cons_of_neg (by rw [hdark]; decide), ih hrest]
    next hlit =>
      rw [List.filter_cons_of_pos (by simpa using hlit)]
      split
      next hpast =>
        obtain ⟨hclip, hpast⟩ := hpast
        have hnone : ((c :: rest.filter (Sprite.litIn row)).map
            fun c : Nat => (left + c, line)).filter (isDrawn width height clip) = [] := by
          rw [List.filter_eq_nil_iff]
          intro position hmem hdrawn
          obtain ⟨column, hcolumn, rfl⟩ := List.mem_map.1 hmem
          have hinside : left + column < width := (isDrawn_iff.1 hdrawn hclip).1
          rcases List.mem_cons.1 hcolumn with rfl | hlater
          · omega
          · have hlt := hbehind column (List.mem_filter.1 hlater).1
            omega
        rw [hnone]
        rfl
      next hinside =>
        have hdrawn : isDrawn width height clip (left + c, line) = true :=
          isDrawn_iff.2 fun hclip => ⟨not_le.1 fun hpast => hinside ⟨hclip, hpast⟩, hline hclip⟩
        rw [List.map_cons, List.filter_cons_of_pos hdrawn, List.foldl_cons, ih hrest]

/-- Below a row past the bottom there are only others. -/
theorem sweepRows_eq_foldl {rows : List (Int × Nat)}
    (hrows : rows.Pairwise fun first second => first.2 < second.2) :
    sweepRows left top clip rows drawn =
      ((rows.flatMap fun (row, r) => ((List.range Sprite.width).filter (Sprite.litIn row)).map
        fun c : Nat => (left + c, top + r)).filter
          (isDrawn width height clip)).foldl Drawn.flip drawn := by
  induction rows generalizing drawn with
  | nil => rfl
  | cons entry rest ih =>
    obtain ⟨row, r⟩ := entry
    obtain ⟨hbelow, hrest⟩ := List.pairwise_cons.1 hrows
    rw [sweepRows]
    split
    next hpast =>
      obtain ⟨hclip, hpast⟩ := hpast
      have hnone : (((row, r) :: rest).flatMap fun (row, r) =>
          ((List.range Sprite.width).filter (Sprite.litIn row)).map
            fun c : Nat => (left + (c : Int), top + (r : Int))).filter
              (isDrawn width height clip) = [] := by
        rw [List.filter_eq_nil_iff]
        intro position hmem hdrawn
        obtain ⟨⟨row', r'⟩, hentry, hposition⟩ := List.mem_flatMap.1 hmem
        obtain ⟨column, -, rfl⟩ := List.mem_map.1 hposition
        have hinside : top + r' < height := (isDrawn_iff.1 hdrawn hclip).2
        rcases List.mem_cons.1 hentry with hfirst | hlater
        · cases hfirst
          omega
        · have hlt : r < r' := hbelow _ hlater
          omega
      rw [hnone]
      rfl
    next hinside =>
      have hline : clip = true → top + r < height :=
        fun hclip => not_le.1 fun hpast => hinside ⟨hclip, hpast⟩
      rw [List.flatMap_cons, List.filter_append, List.foldl_append, ih hrest,
        sweepRow_eq_foldl List.pairwise_lt_range hline]

end

/-- A sprite may be given up at the edges where it is cut off. -/
theorem sweep_eq_draw (screen : Screen width height) (x y : Int) (rows : List Int) (clip : Bool) :
    sweep screen x y rows clip = draw screen x y rows clip := by
  have hrows : rows.zipIdx.Pairwise fun first second => first.2 < second.2 := by
    rw [← List.pairwise_map, List.zipIdx_map_snd]
    exact List.pairwise_lt_range'
  rw [sweep, sweepRows_eq_foldl hrows, draw, targets_eq, Sprite.dots, List.map_flatMap]
  simp only [List.map_map]
  rfl

end Screen

/-- On a canvas that has pixels, drawing a sprite changes a pixel if an odd number of its set bits
are drawn over the pixel.  It reports a collision if there is such a bit over some lit pixel, or if
there are two over a dark one.  A sprite that is given up where it is cut off comes out the same. -/
theorem Canvas.draw_by_overlaps {width height : Nat} (width_ne : width ≠ 0) (height_ne : height ≠ 0)
    (screen : Screen width height) (x y : Int) (rows : List Int) (clip : Bool) :
    have := nonempty_of_ne_zero width_ne
    have := nonempty_of_ne_zero height_ne
    ∃ (drawn : Screen width height) (collision : Bool),
      (pixels width_ne height_ne screen).draw x y rows clip =
        .ok (pixels width_ne height_ne drawn, collision) ∧
      screen.sweep x y rows clip = ⟨drawn, collision⟩ ∧
      (∀ v u, drawn.cell v u =
        (screen.cell v u ^^ decide (Screen.overlaps x y rows clip v u % 2 = 1))) ∧
      (collision = true ↔ ∃ v u,
        (screen.cell v u = true ∧ 1 ≤ Screen.overlaps x y rows clip v u) ∨
        (screen.cell v u = false ∧ 2 ≤ Screen.overlaps x y rows clip v u)) := by
  intro _ _
  refine ⟨_, _, rfl, Screen.sweep_eq_draw screen x y rows clip, fun v u => ?_, ?_⟩
  · rw [Screen.cell_draw, Screen.hits_targets]
  · simp only [Screen.collision_draw_iff, Screen.hits_targets, Screen.TurnsOff]

/-- Three rows on a screen of three columns and two rows, with the corner to the left of it and in
the last row: the last bit comes to the corner's pixel, which three bits of the first row have
flipped. -/
theorem Canvas.draw_by_overlaps_narrow :
    (3 : Nat) ≠ 0 ∧ (2 : Nat) ≠ 0 ∧
      ∃ drawn : Screen 3 2,
        (pixels (by decide) (by decide) (Screen.dark : Screen 3 2)).draw (-1) 1
          [0xFF, -1, 0x80] false = .ok (pixels (by decide) (by decide) drawn, true) ∧
        drawn.toLists = [[true, false, true], [true, false, false]] := by
  obtain ⟨drawn, collision, hdraw, -, hcell, hcollision⟩ :=
    draw_by_overlaps (by decide) (by decide) (Screen.dark : Screen 3 2) (-1) 1 [0xFF, -1, 0x80]
      false
  have hturned : collision = true :=
    hcollision.2 ⟨1, 2, Or.inr ⟨by decide +kernel, by decide +kernel⟩⟩
  rw [hturned] at hdraw
  have hdrawn : drawn = Grid.ofFn fun v u => decide (u = 0 ∨ v = 0 ∧ u = 2) := by
    refine Grid.ext_cell fun v u => ?_
    rw [hcell, Grid.cell_ofFn]
    revert v u
    decide +kernel
  refine ⟨by decide, by decide, drawn, hdraw, ?_⟩
  rw [hdrawn]
  decide +kernel

end Chip8
