import Mathlib.Data.Int.ModEq
import Mathlib.Data.List.Nodup
import Chip8.Screen

/-!
# Drawing sprites

`Screen.draw` flips one pixel after the other.  What comes of it depends only on how often each
pixel is flipped, which `Screen.hits` counts: a pixel ends up changed if it was flipped an odd
number of times (`Screen.cell_draw`), and some flip turned it off unless it was dark and flipped no
more than once (`Screen.collision_draw_iff`).

`Screen.Covers` says which pixels lie under a set bit of a sprite.  A sprite that is no larger than
the screen has no two bits at the same pixel (`Screen.nodup_pixels_targets`), although it may go on
at the opposite edge.  Drawing it flips just the pixels that it covers, and reports a collision just
if a pixel was lit before and is dark after.
-/

namespace Chip8

/-- Two places that are fewer than `n` steps behind a common start are different on a circle of `n`
places. -/
theorem wrap_add_inj {n : Nat} [Nonempty (Fin n)] {start : Int} {a b : Nat} (ha : a < n)
    (hb : b < n) (h : wrap n (start + a) = wrap n (start + b)) : a = b := by
  have hmod : start + a ≡ start + b [ZMOD n] := by
    have hval := congrArg (fun i : Fin n => (i.val : Int)) h
    simp only [val_wrap] at hval
    exact hval
  have hnat : a ≡ b [MOD n] := Int.natCast_modEq_iff.1 (Int.ModEq.add_left_cancel' start hmod)
  exact Nat.ModEq.eq_of_lt_of_lt hnat ha hb

theorem wrap_eq_iff {n : Nat} [Nonempty (Fin n)] {i : Int} {place : Fin n} :
    wrap n i = place ↔ (place.val : Int) = i % n := by
  rw [← val_wrap, Fin.ext_iff]
  omega

namespace Sprite

variable {rows : List Int}

theorem mem_dots {r c : Nat} :
    (r, c) ∈ dots rows ↔ ∃ row, rows[r]? = some row ∧ c < width ∧ litIn row c = true := by
  simp only [dots, List.mem_flatMap, List.mem_map, List.mem_filter, List.mem_range, Prod.exists,
    List.mem_zipIdx_iff_getElem?, Prod.mk.injEq]
  constructor
  · rintro ⟨row, r', hrow, c', ⟨hc, hlit⟩, rfl, rfl⟩
    exact ⟨row, hrow, hc, hlit⟩
  · rintro ⟨row, hrow, hc, hlit⟩
    exact ⟨row, r, hrow, c, ⟨hc, hlit⟩, rfl, rfl⟩

theorem nodup_dots (rows : List Int) : (dots rows).Nodup := by
  have hindices : rows.zipIdx.Pairwise fun first second => first.2 ≠ second.2 := by
    rw [← List.pairwise_map, List.zipIdx_map_snd]
    exact List.nodup_range'
  refine List.nodup_flatMap.2 ⟨fun entry _ => ?_, hindices.imp fun hne => ?_⟩
  · refine List.Nodup.map (fun c c' h => (Prod.mk.inj h).2) ?_
    exact List.nodup_range.filter _
  · rintro dot hfirst hsecond
    obtain ⟨c, -, rfl⟩ := List.mem_map.1 hfirst
    obtain ⟨c', -, h⟩ := List.mem_map.1 hsecond
    exact hne (Prod.mk.inj h).1.symm

end Sprite

namespace Screen

variable {width height : Nat} [Nonempty (Fin width)] [Nonempty (Fin height)]

/-! ## Flipping pixels -/

/-- The row and the column of the pixel at a position. -/
def pixelAt (position : Int × Int) : Fin height × Fin width :=
  (wrap height position.2, wrap width position.1)

/-- How many of some positions are at the pixel in row `v` and column `u`. -/
def hits (positions : List (Int × Int)) (v : Fin height) (u : Fin width) : Nat :=
  (positions.map pixelAt).count (v, u)

section Flips

variable {drawn : Drawn width height} {position : Int × Int} {positions : List (Int × Int)}
  {v : Fin height} {u : Fin width}

theorem hits_cons : hits (position :: positions) v u =
    hits positions v u + if pixelAt position = (v, u) then 1 else 0 := by
  simp only [hits, List.map_cons, List.count_cons, beq_iff_eq]

theorem cell_flip : (drawn.flip position).screen.cell v u =
    (drawn.screen.cell v u ^^ decide (pixelAt position = (v, u))) := by
  simp only [Drawn.flip, toggle, Grid.cell_set, get, pixelAt, Prod.mk.injEq, eq_comm (b := v),
    eq_comm (b := u)]
  split
  next hsame =>
    obtain ⟨rfl, rfl⟩ := hsame
    simp
  next hother => simp [hother]

theorem collision_flip : (drawn.flip position).collision =
    (drawn.collision || drawn.screen.cell (wrap height position.2) (wrap width position.1)) := by
  simp only [Drawn.flip, toggle, get, Bool.not_not]

/-- A pixel changes if it is flipped an odd number of times. -/
theorem cell_foldl_flip : (positions.foldl Drawn.flip drawn).screen.cell v u =
    (drawn.screen.cell v u ^^ decide (hits positions v u % 2 = 1)) := by
  induction positions generalizing drawn with
  | nil => simp [hits]
  | cons position rest ih =>
    rw [List.foldl_cons, ih, cell_flip, hits_cons, Bool.xor_assoc, Bits.decide_odd_add_ite]

/-- Whether one of a number of flips turns a pixel off: the first one does if the pixel was lit, and
the second one if it was dark. -/
def TurnsOff (lit : Bool) (flips : Nat) : Prop :=
  (lit = true ∧ 1 ≤ flips) ∨ (lit = false ∧ 2 ≤ flips)

theorem turnsOff_succ {lit : Bool} {flips : Nat} :
    TurnsOff lit (flips + 1) ↔ lit = true ∨ TurnsOff (!lit) flips := by
  cases lit with
  | true => simp [TurnsOff]
  | false => simp [TurnsOff]

theorem collision_foldl_flip_iff : (positions.foldl Drawn.flip drawn).collision = true ↔
    drawn.collision = true ∨ ∃ (v : Fin height) (u : Fin width),
      TurnsOff (drawn.screen.cell v u) (hits positions v u) := by
  induction positions generalizing drawn with
  | nil => simp [hits, TurnsOff]
  | cons position rest ih =>
    -- The pixel at `position` takes one flip more than the rest says, and all others as many.
    have hpixel (v : Fin height) (u : Fin width) :
        TurnsOff (drawn.screen.cell v u) (hits (position :: rest) v u) ↔
          (pixelAt position = (v, u) ∧ drawn.screen.cell v u = true) ∨
            TurnsOff ((drawn.flip position).screen.cell v u) (hits rest v u) := by
      rw [hits_cons, cell_flip]
      by_cases hat : pixelAt position = (v, u)
      · simp only [hat, if_true, turnsOff_succ, true_and, decide_true, Bool.xor_true]
      · simp only [hat, if_false, Nat.add_zero, false_and, false_or, decide_false, Bool.xor_false]
    have hlit : (∃ (v : Fin height) (u : Fin width),
        pixelAt position = (v, u) ∧ drawn.screen.cell v u = true) ↔
          drawn.screen.cell (wrap height position.2) (wrap width position.1) = true := by
      simp [pixelAt]
    rw [List.foldl_cons, ih, collision_flip, Bool.or_eq_true, ← hlit, or_assoc]
    simp only [hpixel, exists_or]

end Flips

/-! ## The pixels of a sprite -/

section Targets

variable {x y : Int} {rows : List Int} {clip : Bool} {v : Fin height} {u : Fin width}

/-- The pixel in row `v` and column `u` lies under a set bit of a sprite at `(x, y)`: bits go on at
the opposite edge of the screen, or with `clip` are left out there. -/
def Covers (x y : Int) (rows : List Int) (clip : Bool) (v : Fin height) (u : Fin width) : Prop :=
  ∃ (r c : Nat) (row : Int), rows[r]? = some row ∧ c < Sprite.width ∧
    Sprite.litIn row c = true ∧
    (u.val : Int) = (x % width + c) % width ∧ (v.val : Int) = (y % height + r) % height ∧
    (clip = true → x % width + c < width ∧ y % height + r < height)

theorem targets_eq (x y : Int) (rows : List Int) (clip : Bool) :
    targets width height x y rows clip =
      ((Sprite.dots rows).map fun (r, c) => (x % width + c, y % height + r)).filter
        fun (px, py) => !clip || decide (px < width ∧ py < height) := by
  cases clip <;> simp [targets, val_wrap]

theorem mem_targets {position : Int × Int} :
    position ∈ targets width height x y rows clip ↔
      ∃ r c, (r, c) ∈ Sprite.dots rows ∧ (x % width + c, y % height + r) = position ∧
        (clip = true → position.1 < width ∧ position.2 < height) := by
  simp only [targets_eq, List.mem_filter, List.mem_map, Prod.exists, Bool.or_eq_true,
    Bool.not_eq_true', decide_eq_true_eq]
  constructor
  · rintro ⟨⟨r, c, hdot, hposition⟩, hclip⟩
    refine ⟨r, c, hdot, hposition, fun hset => ?_⟩
    rcases hclip with hunset | hinside
    · rw [hset] at hunset
      cases hunset
    · exact hinside
  · rintro ⟨r, c, hdot, hposition, hclip⟩
    refine ⟨⟨r, c, hdot, hposition⟩, ?_⟩
    cases clip with
    | true => exact Or.inr (hclip rfl)
    | false => exact Or.inl rfl

theorem one_le_hits_targets_iff :
    1 ≤ hits (targets width height x y rows clip) v u ↔ Covers x y rows clip v u := by
  simp only [hits, List.one_le_count_iff, List.mem_map, mem_targets, Sprite.mem_dots, pixelAt,
    Prod.mk.injEq, wrap_eq_iff]
  constructor
  · rintro ⟨position, ⟨r, c, ⟨row, hrow, hc, hlit⟩, rfl, hclip⟩, hv, hu⟩
    exact ⟨r, c, row, hrow, hc, hlit, hu, hv, hclip⟩
  · rintro ⟨r, c, row, hrow, hc, hlit, hu, hv, hclip⟩
    exact ⟨_, ⟨r, c, ⟨row, hrow, hc, hlit⟩, rfl, hclip⟩, hv, hu⟩

/-- The bits of a sprite that is no larger than the screen are at different pixels. -/
theorem nodup_pixels_targets (hwidth : Sprite.width ≤ width) (hheight : rows.length ≤ height) :
    ((targets width height x y rows clip).map pixelAt : List (Fin height × Fin width)).Nodup := by
  rw [targets_eq]
  refine List.Nodup.sublist (List.filter_sublist.map pixelAt) ?_
  rw [List.map_map]
  refine List.Nodup.map_on ?_ (Sprite.nodup_dots rows)
  rintro ⟨r, c⟩ hdot ⟨r', c'⟩ hdot' h
  obtain ⟨row, hrow, hc, -⟩ := Sprite.mem_dots.1 hdot
  obtain ⟨row', hrow', hc', -⟩ := Sprite.mem_dots.1 hdot'
  have hr := (List.getElem?_eq_some_iff.1 hrow).1
  have hr' := (List.getElem?_eq_some_iff.1 hrow').1
  obtain ⟨hv, hu⟩ := Prod.mk.inj h
  have hrows : r = r' := wrap_add_inj (by omega) (by omega) hv
  have hcolumns : c = c' := wrap_add_inj (by omega) (by omega) hu
  rw [hrows, hcolumns]

end Targets

/-! ## Drawing -/

section Draw

variable {screen : Screen width height} {x y : Int} {rows : List Int} {clip : Bool}
  {v : Fin height} {u : Fin width}

theorem cell_draw : (draw screen x y rows clip).screen.cell v u =
    (screen.cell v u ^^ decide (hits (targets width height x y rows clip) v u % 2 = 1)) :=
  cell_foldl_flip

theorem collision_draw_iff : (draw screen x y rows clip).collision = true ↔
    ∃ (v : Fin height) (u : Fin width),
      TurnsOff (screen.cell v u) (hits (targets width height x y rows clip) v u) := by
  unfold draw
  simp [collision_foldl_flip_iff]

variable (hwidth : Sprite.width ≤ width) (hheight : rows.length ≤ height)
include hwidth hheight

theorem hits_targets_le_one : hits (targets width height x y rows clip) v u ≤ 1 :=
  List.nodup_iff_count_le_one.1 (nodup_pixels_targets hwidth hheight) (v, u)

/-- Of the pixels a sprite flips those that it covers. -/
theorem cell_draw_ne_iff : (draw screen x y rows clip).screen.cell v u ≠ screen.cell v u ↔
    Covers x y rows clip v u := by
  have hle : hits (targets width height x y rows clip) v u ≤ 1 :=
    hits_targets_le_one hwidth hheight
  rw [← one_le_hits_targets_iff, cell_draw]
  by_cases hhit : hits (targets width height x y rows clip) v u = 1
  · simp [hhit]
  · have hnone : hits (targets width height x y rows clip) v u = 0 := by omega
    simp [hnone]

/-- The flips report a collision if in the end some pixel is off that was on. -/
theorem collision_draw_iff_turned_off : (draw screen x y rows clip).collision = true ↔
    ∃ (v : Fin height) (u : Fin width), screen.cell v u = true ∧
      (draw screen x y rows clip).screen.cell v u = false := by
  rw [collision_draw_iff]
  refine exists_congr fun v => exists_congr fun u => ?_
  have hle : hits (targets width height x y rows clip) v u ≤ 1 :=
    hits_targets_le_one hwidth hheight
  rw [cell_draw]
  by_cases hhit : hits (targets width height x y rows clip) v u = 1
  · simp [hhit, TurnsOff]
  · have hnone : hits (targets width height x y rows clip) v u = 0 := by omega
    cases hlit : screen.cell v u <;> simp [hnone, TurnsOff]

end Draw

end Screen
end Chip8
