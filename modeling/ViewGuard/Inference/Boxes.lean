import Mathlib.Algebra.Order.Field.Rat

/-!
# Inference — boxes and results

`BoundingBox` and `DetectionResult` of `ai_service/inference.py`, the
values the post-processor produces and the detection filter reads.
Coordinates, confidences and times are Python floats; the model takes
them as exact rationals, so statements about them are about the
arithmetic the code writes, free of rounding.
-/

namespace ViewGuard

/-- A detected object: corners in original-frame pixels, the top class
score and the class. -/
structure BoundingBox where
  x1 : ℚ
  y1 : ℚ
  x2 : ℚ
  y2 : ℚ
  confidence : ℚ
  classId : Nat
  className : String
  deriving DecidableEq, Repr

/-- The area `filter_detections` and `_calculate_iou` compute. -/
def BoundingBox.area (box : BoundingBox) : ℚ := (box.x2 - box.x1) * (box.y2 - box.y1)

/-- Where a box lies: corners in order, inside a `height × width` frame. -/
def BoundingBox.InFrame (b : BoundingBox) (height width : Nat) : Prop :=
  0 ≤ b.x1 ∧ b.x1 < b.x2 ∧ b.x2 ≤ width ∧ 0 ≤ b.y1 ∧ b.y1 < b.y2 ∧ b.y2 ≤ height

/-- The detections of one frame, the measured time, the frame's
`(height, width)` and the model input's. -/
structure DetectionResult where
  boundingBoxes : List BoundingBox
  inferenceTimeMs : ℚ
  frameShape : Nat × Nat
  modelInputShape : Nat × Nat
  deriving DecidableEq, Repr

end ViewGuard
