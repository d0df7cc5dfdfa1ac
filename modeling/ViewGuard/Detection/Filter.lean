import ViewGuard.Inference.Boxes
import Mathlib.Data.Finset.Basic
import Mathlib.Order.WithBot

/-!
# Detection — the filter and its configuration

`DetectionFilter` and `DetectionLogic` of `ai_service/detection.py`: the
process-wide filter configuration, `filter_detections`, the two setters
that mutate the configuration, and the class queries over a result.

`enabled_classes` is a Python set of names, a `Finset String` here;
`max_area` defaults to `float('inf')`, so it lives in `WithTop ℚ`.
-/

namespace ViewGuard

/-- `DetectionFilter`, with the source's defaults. -/
structure DetectionFilter where
  enabledClasses : Option (Finset String) := none
  minConfidence : ℚ := 1 / 2
  minArea : ℚ := 0
  maxArea : WithTop ℚ := ⊤
  deriving DecidableEq

/-- `DetectionLogic`: its state is its filter. -/
structure DetectionLogic where
  filter : DetectionFilter := {}
  deriving DecidableEq

/-- The class check of `filter_detections`: `None` admits every class. -/
def DetectionFilter.classEnabled (f : DetectionFilter) (className : String) : Bool :=
  match f.enabledClasses with
  | some classes => className ∈ classes
  | none => true

/-- One iteration of `filter_detections`: whether the box survives its
three `continue` checks, in the source's order. -/
def DetectionFilter.keeps (f : DetectionFilter) (box : BoundingBox) : Bool :=
  if box.confidence < f.minConfidence then false
  else if !f.classEnabled box.className then false
  else if box.area < f.minArea ∨ f.maxArea < (box.area : WithTop ℚ) then false
  else true

/-- `filter_detections(result)`: a new result with the surviving boxes
in order and the other fields copied. -/
def DetectionLogic.filterDetections (dl : DetectionLogic) (result : DetectionResult) :
    DetectionResult :=
  { boundingBoxes := result.boundingBoxes.filter dl.filter.keeps
    inferenceTimeMs := result.inferenceTimeMs
    frameShape := result.frameShape
    modelInputShape := result.modelInputShape }

/-- `set_confidence_threshold(threshold)`: values outside `[0, 1]` raise
`ValueError` and change nothing. Python renders the float in the
message; the model renders the rational. -/
def DetectionLogic.setConfidenceThreshold (dl : DetectionLogic) (threshold : ℚ) :
    Except String DetectionLogic :=
  if 0 ≤ threshold ∧ threshold ≤ 1 then .ok { filter := { dl.filter with minConfidence := threshold } }
  else .error ("Confidence threshold must be between 0.0 and 1.0, got " ++ toString threshold)

/-- `set_enabled_classes(class_names)`: the set of the names, or `None`
for all classes. -/
def DetectionLogic.setEnabledClasses (dl : DetectionLogic) (classNames : Option (List String)) :
    DetectionLogic :=
  { filter := { dl.filter with enabledClasses := classNames.map List.toFinset } }

/-! ## The contract -/

/-- The contract of `filter_detections` in the spec's words: confidence at
least `min_confidence`, the class among the enabled ones (every class
when they are unset), and the area within `[min_area, max_area]`. -/
def DetectionFilter.Admits (f : DetectionFilter) (box : BoundingBox) : Prop :=
  f.minConfidence ≤ box.confidence ∧ (∀ classes ∈ f.enabledClasses, box.className ∈ classes) ∧
    f.minArea ≤ box.area ∧ (box.area : WithTop ℚ) ≤ f.maxArea

instance (f : DetectionFilter) : DecidablePred f.Admits := fun _ =>
  inferInstanceAs (Decidable (_ ∧ _ ∧ _ ∧ _))

/-- The three `continue` checks pass exactly the boxes the contract admits. -/
theorem DetectionFilter.keeps_eq (f : DetectionFilter) (box : BoundingBox) :
    f.keeps box = decide (f.Admits box) := by
  have hclass : f.classEnabled box.className = true ↔
      ∀ classes ∈ f.enabledClasses, box.className ∈ classes := by
    rcases f with ⟨_ | classes, _, _, _⟩ <;> simp [DetectionFilter.classEnabled]
  have harea : f.minArea ≤ box.area ∧ (box.area : WithTop ℚ) ≤ f.maxArea ↔
      ¬ (box.area < f.minArea ∨ f.maxArea < box.area) := by
    rw [not_or, not_lt, not_lt]
  unfold DetectionFilter.keeps DetectionFilter.Admits
  simp only [← hclass, harea]
  split_ifs <;> simp_all

/-- **`filter_detections` meets its contract**: the kept boxes are exactly
the admitted ones, in their order, and the other fields are copied. -/
theorem filterDetections_spec (dl : DetectionLogic) (r : DetectionResult) :
    (dl.filterDetections r).boundingBoxes = r.boundingBoxes.filter (fun box => dl.filter.Admits box) ∧
      (dl.filterDetections r).inferenceTimeMs = r.inferenceTimeMs ∧
      (dl.filterDetections r).frameShape = r.frameShape ∧
      (dl.filterDetections r).modelInputShape = r.modelInputShape :=
  ⟨List.filter_congr fun box _ => dl.filter.keeps_eq box, rfl, rfl, rfl⟩

/-! ## Class queries -/

/-- COCO class ids the source names: person, and the vehicle classes. -/
def personClassId : Nat := 0

def vehicleClassIds : List Nat := [2, 3, 5, 7, 1]

/-- `detect_persons(result)`. -/
def detectPersons (result : DetectionResult) : List BoundingBox :=
  result.boundingBoxes.filter (·.classId == personClassId)

/-- `detect_vehicles(result)`. -/
def detectVehicles (result : DetectionResult) : List BoundingBox :=
  result.boundingBoxes.filter (·.classId ∈ vehicleClassIds)

/-- `detect_custom_classes(result, class_names)`. -/
def detectCustomClasses (result : DetectionResult) (classNames : List String) :
    List BoundingBox :=
  result.boundingBoxes.filter (·.className ∈ classNames.toFinset)

/-- `has_person(result)`. -/
def hasPerson (result : DetectionResult) : Bool := (detectPersons result).length > 0

/-- `has_vehicle(result)`. -/
def hasVehicle (result : DetectionResult) : Bool := (detectVehicles result).length > 0

/-! ## The setters -/

theorem DetectionLogic.setConfidenceThreshold_ok {dl : DetectionLogic} {t : ℚ}
    (h0 : 0 ≤ t) (h1 : t ≤ 1) :
    dl.setConfidenceThreshold t = .ok { filter := { dl.filter with minConfidence := t } } := by
  simp [DetectionLogic.setConfidenceThreshold, h0, h1]

/-- The setter accepts exactly the thresholds in `[0, 1]`, and then
changes only `min_confidence`. -/
theorem DetectionLogic.setConfidenceThreshold_eq_ok_iff {dl dl' : DetectionLogic} {t : ℚ} :
    dl.setConfidenceThreshold t = .ok dl' ↔
      (0 ≤ t ∧ t ≤ 1) ∧ dl' = { filter := { dl.filter with minConfidence := t } } := by
  unfold DetectionLogic.setConfidenceThreshold
  split_ifs with ht
  · simp only [Except.ok.injEq, ht, true_and, eq_comm]
  · simp only [reduceCtorEq, false_iff, not_and]
    exact fun h => absurd h ht

end ViewGuard
