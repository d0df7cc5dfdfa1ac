import ViewGuard.Inference.Boxes
import Mathlib.Tactic.Linarith
import Mathlib.Tactic.FieldSimp
import Mathlib.Algebra.Order.Field.Basic

/-!
# Inference — intersection over union

`PostProcessor._calculate_iou` of `ai_service/inference.py`: the area of
the intersection of two boxes over the area of their union, `0.0` when
the intersection is empty (or the union is zero).

Main results:

* **`calculateIou_laws`**: for boxes with `x1 < x2` and `y1 < y2` (the
  shape `process_output` produces) the value is symmetric, lies in
  `[0, 1]`, is `1` exactly for identical boxes and `0` exactly for boxes
  whose interiors are disjoint.
* `calculateIou_comm`, `calculateIou_nonneg`, `calculateIou_le_one`: the
  symmetry and the range hold of every pair of boxes; a box with an empty
  side never overlaps anything, so the division only ever sees two
  well-formed boxes.
-/

namespace ViewGuard

/-- `inter_area`: the intersection's width times its height. -/
def interArea (box1 box2 : BoundingBox) : ℚ :=
  (min box1.x2 box2.x2 - max box1.x1 box2.x1) * (min box1.y2 box2.y2 - max box1.y1 box2.y1)

/-- `_calculate_iou(box1, box2)`. -/
def calculateIou (box1 box2 : BoundingBox) : ℚ :=
  let x1Inter := max box1.x1 box2.x1
  let y1Inter := max box1.y1 box2.y1
  let x2Inter := min box1.x2 box2.x2
  let y2Inter := min box1.y2 box2.y2
  if x2Inter ≤ x1Inter ∨ y2Inter ≤ y1Inter then 0
  else
    let unionArea := box1.area + box2.area - interArea box1 box2
    if unionArea = 0 then 0 else interArea box1 box2 / unionArea

/-! ## The overlap -/

/-- The intersection `_calculate_iou` computes is non-empty. -/
def Overlap (a b : BoundingBox) : Prop :=
  max a.x1 b.x1 < min a.x2 b.x2 ∧ max a.y1 b.y1 < min a.y2 b.y2

/-- A point strictly inside a box. -/
def BoundingBox.Interior (b : BoundingBox) (p q : ℚ) : Prop :=
  b.x1 < p ∧ p < b.x2 ∧ b.y1 < q ∧ q < b.y2

theorem overlap_comm {a b : BoundingBox} : Overlap a b ↔ Overlap b a := by
  simp only [Overlap, max_comm a.x1, max_comm a.y1, min_comm a.x2, min_comm a.y2]

theorem interArea_comm (a b : BoundingBox) : interArea a b = interArea b a := by
  simp only [interArea, max_comm a.x1, max_comm a.y1, min_comm a.x2, min_comm a.y2]

/-- The intersection is non-empty exactly when the two interiors share a
point: the centre of the intersection is one. -/
theorem overlap_iff_interior {a b : BoundingBox} :
    Overlap a b ↔ ∃ p q, a.Interior p q ∧ b.Interior p q := by
  constructor
  · rintro ⟨hx, hy⟩
    have hmx := left_lt_add_div_two.mpr hx
    have hMx := add_div_two_lt_right.mpr hx
    have hmy := left_lt_add_div_two.mpr hy
    have hMy := add_div_two_lt_right.mpr hy
    exact ⟨_, _, ⟨(le_max_left _ _).trans_lt hmx, hMx.trans_le (min_le_left _ _),
      (le_max_left _ _).trans_lt hmy, hMy.trans_le (min_le_left _ _)⟩,
      ⟨(le_max_right _ _).trans_lt hmx, hMx.trans_le (min_le_right _ _),
      (le_max_right _ _).trans_lt hmy, hMy.trans_le (min_le_right _ _)⟩⟩
  · rintro ⟨p, q, ⟨ha1, ha2, ha3, ha4⟩, ⟨hb1, hb2, hb3, hb4⟩⟩
    exact ⟨(max_lt ha1 hb1).trans (lt_min ha2 hb2), (max_lt ha3 hb3).trans (lt_min ha4 hb4)⟩

/-- Inside an overlap each side of the intersection is positive and at
most the first box's side. -/
theorem inter_sides {a b : BoundingBox} (h : Overlap a b) :
    0 < min a.x2 b.x2 - max a.x1 b.x1 ∧ min a.x2 b.x2 - max a.x1 b.x1 ≤ a.x2 - a.x1 ∧
      0 < min a.y2 b.y2 - max a.y1 b.y1 ∧ min a.y2 b.y2 - max a.y1 b.y1 ≤ a.y2 - a.y1 := by
  obtain ⟨hx, hy⟩ := h
  refine ⟨by linarith, ?_, by linarith, ?_⟩ <;>
    linarith [le_max_left a.x1 b.x1, min_le_left a.x2 b.x2, le_max_left a.y1 b.y1,
      min_le_left a.y2 b.y2]

/-- Inside an overlap the intersection has positive area, at most the
area of the first box. -/
theorem interArea_pos_le {a b : BoundingBox} (h : Overlap a b) :
    0 < interArea a b ∧ interArea a b ≤ a.area := by
  obtain ⟨h1, h2, h3, h4⟩ := inter_sides h
  exact ⟨mul_pos h1 h3, mul_le_mul h2 h4 h3.le (h1.trans_le h2).le⟩

/-- Inside an overlap the union is at least each area, so it is positive
and at least the intersection. -/
theorem interArea_le_union {a b : BoundingBox} (h : Overlap a b) :
    0 < interArea a b ∧ interArea a b ≤ a.area + b.area - interArea a b := by
  obtain ⟨hi, ha⟩ := interArea_pos_le h
  have hb := (interArea_pos_le (overlap_comm.mp h)).2
  rw [interArea_comm] at hb
  exact ⟨hi, by linarith⟩

theorem calculateIou_of_not_overlap {a b : BoundingBox} (h : ¬ Overlap a b) :
    calculateIou a b = 0 := by
  simp only [Overlap, not_and_or, not_lt] at h
  simp only [calculateIou, if_pos h]

theorem calculateIou_of_overlap {a b : BoundingBox} (h : Overlap a b) :
    calculateIou a b = interArea a b / (a.area + b.area - interArea a b) := by
  obtain ⟨hi, hu⟩ := interArea_le_union h
  simp only [calculateIou, not_le.mpr h.1, not_le.mpr h.2, or_self, if_false,
    (show a.area + b.area - interArea a b ≠ 0 by linarith), ↓reduceIte]

/-! ## The laws -/

theorem calculateIou_comm (a b : BoundingBox) : calculateIou a b = calculateIou b a := by
  by_cases h : Overlap a b
  · rw [calculateIou_of_overlap h, calculateIou_of_overlap (overlap_comm.mp h), interArea_comm,
      add_comm a.area]
  · rw [calculateIou_of_not_overlap h, calculateIou_of_not_overlap (mt overlap_comm.mpr h)]

theorem calculateIou_nonneg (a b : BoundingBox) : 0 ≤ calculateIou a b := by
  by_cases h : Overlap a b
  · obtain ⟨hi, hu⟩ := interArea_le_union h
    rw [calculateIou_of_overlap h]
    exact div_nonneg hi.le (by linarith)
  · rw [calculateIou_of_not_overlap h]

theorem calculateIou_le_one (a b : BoundingBox) : calculateIou a b ≤ 1 := by
  by_cases h : Overlap a b
  · obtain ⟨hi, hu⟩ := interArea_le_union h
    rw [calculateIou_of_overlap h]
    exact div_le_one_of_le₀ hu (by linarith)
  · rw [calculateIou_of_not_overlap h]
    exact zero_le_one

theorem calculateIou_eq_zero_iff (a b : BoundingBox) :
    calculateIou a b = 0 ↔ ¬ Overlap a b := by
  refine ⟨fun h0 h => ?_, calculateIou_of_not_overlap⟩
  obtain ⟨hi, hu⟩ := interArea_le_union h
  rw [calculateIou_of_overlap h] at h0
  exact (div_pos hi (by linarith)).ne' h0

/-- A side of the intersection that reaches the full side of both boxes
makes the two boxes agree on it. -/
theorem side_eq {a1 a2 b1 b2 : ℚ} (ha : min a2 b2 - max a1 b1 = a2 - a1)
    (hb : min a2 b2 - max a1 b1 = b2 - b1) : a1 = b1 ∧ a2 = b2 := by
  constructor <;>
    linarith [le_max_left a1 b1, le_max_right a1 b1, min_le_left a2 b2, min_le_right a2 b2]

/-- A product of two positive sides, each at most its bound, reaches the
product of the bounds only when each side does. -/
theorem eq_of_mul_eq_mul {p q P Q : ℚ} (hp : 0 < p) (hq : 0 < q) (hpP : p ≤ P) (hqQ : q ≤ Q)
    (h : p * q = P * Q) : p = P ∧ q = Q := by
  -- `p * q ≤ p * Q ≤ P * Q`, and the two ends are equal
  have h1 : p * q ≤ p * Q := mul_le_mul_of_nonneg_left hqQ hp.le
  have h2 : p * Q ≤ P * Q := mul_le_mul_of_nonneg_right hpP (hq.le.trans hqQ)
  exact ⟨mul_right_cancel₀ (hq.trans_le hqQ).ne' (by linarith),
    mul_left_cancel₀ hp.ne' (by linarith)⟩

/-- The union equals the intersection only when the intersection is each
box, so the two boxes coincide. -/
theorem eq_of_calculateIou_eq_one {a b : BoundingBox} (h1 : calculateIou a b = 1) :
    a.x1 = b.x1 ∧ a.y1 = b.y1 ∧ a.x2 = b.x2 ∧ a.y2 = b.y2 := by
  have h : Overlap a b := by
    by_contra h'
    rw [calculateIou_of_not_overlap h'] at h1
    exact zero_ne_one h1
  obtain ⟨hi, hu⟩ := interArea_le_union h
  have ha := (interArea_pos_le h).2
  have hb := (interArea_pos_le (overlap_comm.mp h)).2
  rw [interArea_comm] at hb
  rw [calculateIou_of_overlap h, div_eq_one_iff_eq (by linarith)] at h1
  -- the intersection is as large as each box
  have hia : interArea a b = a.area := by linarith
  have hib : interArea a b = b.area := by linarith
  obtain ⟨hw0, hwa, hh0, hha⟩ := inter_sides h
  obtain ⟨-, hwb, -, hhb⟩ := inter_sides (overlap_comm.mp h)
  simp only [max_comm b.x1, min_comm b.x2, max_comm b.y1, min_comm b.y2] at hwb hhb
  obtain ⟨hxa, hya⟩ := eq_of_mul_eq_mul hw0 hh0 hwa hha hia
  obtain ⟨hxb, hyb⟩ := eq_of_mul_eq_mul hw0 hh0 hwb hhb hib
  obtain ⟨h1, h2⟩ := side_eq hxa hxb
  obtain ⟨h3, h4⟩ := side_eq hya hyb
  exact ⟨h1, h3, h2, h4⟩

/-- **Laws of `_calculate_iou`** on the boxes `process_output` produces:
symmetric, within `[0, 1]`, `1` exactly for identical boxes and `0`
exactly for boxes whose interiors are disjoint. -/
theorem calculateIou_laws (a b : BoundingBox) (ha : a.x1 < a.x2 ∧ a.y1 < a.y2)
    (hb : b.x1 < b.x2 ∧ b.y1 < b.y2) :
    calculateIou a b = calculateIou b a ∧ 0 ≤ calculateIou a b ∧ calculateIou a b ≤ 1 ∧
      (calculateIou a b = 1 ↔ a.x1 = b.x1 ∧ a.y1 = b.y1 ∧ a.x2 = b.x2 ∧ a.y2 = b.y2) ∧
      (calculateIou a b = 0 ↔ ¬ ∃ p q, a.Interior p q ∧ b.Interior p q) := by
  refine ⟨calculateIou_comm a b, calculateIou_nonneg a b, calculateIou_le_one a b,
    ⟨eq_of_calculateIou_eq_one, fun hab => ?_⟩, by rw [calculateIou_eq_zero_iff, overlap_iff_interior]⟩
  obtain ⟨h1, h2, h3, h4⟩ := hab
  have hi : interArea a b = b.area := by simp [interArea, BoundingBox.area, h1, h2, h3, h4]
  have harea : a.area = b.area := by simp [BoundingBox.area, h1, h2, h3, h4]
  have hpos : 0 < b.area := mul_pos (by linarith) (by linarith)
  rw [calculateIou_of_overlap (by simpa [Overlap, ← h1, ← h2, ← h3, ← h4] using ha), hi, harea]
  field_simp

/-- The `10 × 10` box at the origin and the `10 × 4` strip along its
lower edge: their IoU is `40 / 100`, the default `nms_threshold`. -/
def squareBox : BoundingBox := ⟨0, 0, 10, 10, 9 / 10, 0, "person"⟩

def stripBox : BoundingBox := ⟨0, 0, 10, 4, 4 / 5, 0, "person"⟩

theorem calculateIou_laws_on_strip :
    calculateIou squareBox stripBox = calculateIou stripBox squareBox ∧
      0 ≤ calculateIou squareBox stripBox ∧ calculateIou squareBox stripBox ≤ 1 ∧
      (calculateIou squareBox stripBox = 1 ↔ squareBox.x1 = stripBox.x1 ∧
        squareBox.y1 = stripBox.y1 ∧ squareBox.x2 = stripBox.x2 ∧ squareBox.y2 = stripBox.y2) ∧
      (calculateIou squareBox stripBox = 0 ↔
        ¬ ∃ p q, squareBox.Interior p q ∧ stripBox.Interior p q) :=
  calculateIou_laws squareBox stripBox (by norm_num [squareBox]) (by norm_num [stripBox])

end ViewGuard
