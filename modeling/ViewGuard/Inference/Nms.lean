import ViewGuard.Inference.Iou
import ViewGuard.Inference.Letterbox
import Mathlib.Data.List.Pairwise
import Mathlib.Data.List.Sort

/-!
# Inference — non-maximum suppression

`PostProcessor._simple_nms`, `_apply_nms` and `process_output` of
`ai_service/inference.py`. `_simple_nms` sorts the boxes by confidence,
highest first, then repeatedly emits the first remaining box and keeps of
the rest those whose IoU with it is below `nms_threshold`, whatever their
class. The loop is `suppress`, parametrized by that keep test, so the
spec's rule (drop a box whose IoU *exceeds* the threshold) is the same
loop with another test (`nmsReference`).

Main results:

* **`simpleNms_survivors`**: the survivors are a sublist of the sorted
  input, start with the first sorted box and are pairwise below the
  threshold; position by position, each sorted box is appended to the
  survivors before it or dropped by one of them at or above the
  threshold.
* **`simpleNms_idempotent`**: a second pass changes nothing.
* `simpleNms_drops_box_at_threshold`: at an IoU equal to the threshold
  `_simple_nms` drops the box the spec keeps (the OpenCV path keeps it
  too); `simpleNms_eq_reference`: away from that boundary the two agree.
* `simpleNms_count_not_monotone`: raising the threshold can lower the
  number of survivors; `simpleNms_length_le_at_extremes`: it cannot when
  the lower threshold is at most `0` or the higher one above `1`.
-/

namespace ViewGuard

open scoped List

/-! ## The loop -/

/-- `sorted(boxes, key=lambda b: b.confidence, reverse=True)`. Python's
sort is stable, so ties keep their input order, as `insertionSort` does. -/
def sortByConfidence (boxes : List BoundingBox) : List BoundingBox :=
  boxes.insertionSort fun a b => b.confidence ≤ a.confidence

/-- The `while sorted_boxes` loop: emit the first box and keep of the
others those `keeps current` admits. Every round drops the emitted box,
so the loop ends. -/
def suppress (keeps : BoundingBox → BoundingBox → Bool) : List BoundingBox → List BoundingBox
  | [] => []
  | current :: rest => current :: suppress keeps (rest.filter (keeps current))
termination_by l => l.length
decreasing_by exact Nat.lt_succ_of_le (List.length_filter_le _ _)

/-- `_simple_nms(boxes)`: a box stays while its IoU with the emitted box
is below `nms_threshold`. -/
def PostProcessor.simpleNms (pp : PostProcessor) (boxes : List BoundingBox) : List BoundingBox :=
  if boxes.isEmpty then []
  else suppress (fun current box => decide (calculateIou current box < pp.nmsThreshold))
    (sortByConfidence boxes)

/-- `_apply_nms(boxes)`: `_simple_nms` without OpenCV; with it, the boxes
at the indices `cv2.dnn.NMSBoxes` returns for the `[x, y, w, h]` boxes and
their scores (`nmsBoxes`, opaque). -/
def PostProcessor.applyNms (pp : PostProcessor)
    (cv2 : Option (List (ℚ × ℚ × ℚ × ℚ) → List ℚ → ℚ → ℚ → List Nat))
    (boxes : List BoundingBox) : List BoundingBox :=
  if boxes.isEmpty then []
  else
    match cv2 with
    | none => pp.simpleNms boxes
    | some nmsBoxes =>
      (nmsBoxes (boxes.map fun box => (box.x1, box.y1, box.x2 - box.x1, box.y2 - box.y1))
        (boxes.map (·.confidence)) pp.confidenceThreshold pp.nmsThreshold).filterMap fun i => boxes[i]?

/-- `process_output(output, scale, padding, original_shape)` on the rows
of `output`: without OpenCV it raises before decoding, so `_simple_nms`
is reached only by a direct call. -/
def PostProcessor.processOutput (pp : PostProcessor)
    (cv2 : Option (List (ℚ × ℚ × ℚ × ℚ) → List ℚ → ℚ → ℚ → List Nat))
    (scale : ℚ) (hscale : 0 < scale) (padding : ℚ × ℚ) (originalShape : Nat × Nat)
    (detections : List Detection) : Except String (List BoundingBox) :=
  match cv2 with
  | none => .error "OpenCV not available for post-processing"
  | some _ => .ok (pp.applyNms cv2 (pp.decodeLoop scale hscale padding originalShape detections))

/-- The NMS the spec describes: sort by confidence, highest first; emit
the first remaining box and remove every remaining box whose IoU with it
exceeds the threshold, regardless of class, until none remain. -/
def nmsReference (t : ℚ) (boxes : List BoundingBox) : List BoundingBox :=
  suppress (fun current box => !decide (t < calculateIou current box)) (sortByConfidence boxes)

section Loop

variable (keeps : BoundingBox → BoundingBox → Bool)

theorem suppress_nil : suppress keeps [] = [] := by
  rw [suppress]

theorem suppress_cons (current : BoundingBox) (rest : List BoundingBox) :
    suppress keeps (current :: rest) = current :: suppress keeps (rest.filter (keeps current)) := by
  rw [suppress]

theorem suppress_sublist (l : List BoundingBox) : suppress keeps l <+ l := by
  induction l using suppress.induct keeps with
  | case1 => rw [suppress_nil]
  | case2 current rest ih =>
    rw [suppress_cons]
    exact (ih.trans (List.filter_sublist rest)).cons₂ current

/-- A later survivor passed the test of every earlier one. -/
theorem suppress_pairwise (l : List BoundingBox) :
    (suppress keeps l).Pairwise fun a b => keeps a b := by
  induction l using suppress.induct keeps with
  | case1 => rw [suppress_nil]; exact .nil
  | case2 current rest ih =>
    rw [suppress_cons, List.pairwise_cons]
    exact ⟨fun b hb => (List.mem_filter.mp ((suppress_sublist keeps _).subset hb)).2, ih⟩

/-- A box the loop drops failed the test of a survivor before it. -/
theorem suppress_suppressor (l : List BoundingBox) :
    ∀ b ∈ l, b ∉ suppress keeps l → ∃ k ∈ suppress keeps l, [k, b] <+ l ∧ keeps k b = false := by
  induction l using suppress.induct keeps with
  | case1 => intro b hb; cases hb
  | case2 current rest ih =>
    intro b hb hnot
    rw [suppress_cons] at hnot ⊢
    have hrest : b ∈ rest :=
      (List.mem_cons.mp hb).resolve_left fun e => hnot (e ▸ List.mem_cons_self _ _)
    cases hk : keeps current b
    · exact ⟨current, List.mem_cons_self _ _, (List.singleton_sublist.mpr hrest).cons₂ current, hk⟩
    · obtain ⟨k, hk, hkb, hkeep⟩ :=
        ih b (List.mem_filter.mpr ⟨hrest, hk⟩) fun h => hnot (List.mem_cons_of_mem _ h)
      exact ⟨k, List.mem_cons_of_mem _ hk, (hkb.trans (List.filter_sublist _)).cons current, hkeep⟩

/-- On a list each of whose boxes passes the test of every earlier one,
the loop drops nothing. -/
theorem suppress_of_pairwise {l : List BoundingBox} (h : l.Pairwise fun a b => keeps a b) :
    suppress keeps l = l := by
  induction l with
  | nil => rw [suppress_nil]
  | cons current rest ih =>
    obtain ⟨hc, hr⟩ := List.pairwise_cons.mp h
    rw [suppress_cons, List.filter_eq_self.mpr hc, ih hr]

/-- The loop reads its test only on pairs of the list's boxes. -/
theorem suppress_congr {keeps' : BoundingBox → BoundingBox → Bool} {l : List BoundingBox}
    (h : ∀ a ∈ l, ∀ b ∈ l, keeps a b = keeps' a b) : suppress keeps l = suppress keeps' l := by
  induction l using suppress.induct keeps with
  | case1 => rw [suppress_nil, suppress_nil]
  | case2 current rest ih =>
    have hf : rest.filter (keeps current) = rest.filter (keeps' current) :=
      List.filter_congr fun b hb => h _ (List.mem_cons_self _ _) _ (List.mem_cons_of_mem _ hb)
    have hsub : ∀ a ∈ rest.filter (keeps current), a ∈ current :: rest :=
      fun a ha => List.mem_cons_of_mem _ (List.mem_filter.mp ha).1
    rw [suppress_cons, suppress_cons, ih fun a ha b hb => h a (hsub a ha) b (hsub b hb), hf]

end Loop

/-! ## `_simple_nms` -/

theorem sortByConfidence_sorted (boxes : List BoundingBox) :
    (sortByConfidence boxes).Sorted fun a b => b.confidence ≤ a.confidence := by
  haveI : IsTotal BoundingBox fun a b => b.confidence ≤ a.confidence := ⟨fun _ _ => le_total _ _⟩
  haveI : IsTrans BoundingBox fun a b => b.confidence ≤ a.confidence :=
    ⟨fun _ _ _ hab hbc => hbc.trans hab⟩
  exact List.sorted_insertionSort _ boxes

theorem sortByConfidence_perm (boxes : List BoundingBox) : sortByConfidence boxes ~ boxes :=
  List.perm_insertionSort _ boxes

/-- Python's sort leaves an already sorted list as it is. -/
theorem sortByConfidence_of_sorted {boxes : List BoundingBox}
    (h : boxes.Sorted fun a b => b.confidence ≤ a.confidence) :
    sortByConfidence boxes = boxes :=
  List.Sorted.insertionSort_eq h

/-- `_simple_nms` is the loop over the sorted boxes; the early return on
an empty list returns what the loop would. -/
theorem simpleNms_eq (pp : PostProcessor) (boxes : List BoundingBox) :
    pp.simpleNms boxes = suppress (fun current box => decide (calculateIou current box < pp.nmsThreshold))
      (sortByConfidence boxes) := by
  unfold PostProcessor.simpleNms
  split_ifs with h
  · rw [List.isEmpty_iff.mp h]
    exact (suppress_nil _).symm
  · rfl

theorem simpleNms_sublist (pp : PostProcessor) (boxes : List BoundingBox) :
    pp.simpleNms boxes <+ sortByConfidence boxes := by
  rw [simpleNms_eq]
  exact suppress_sublist _ _

theorem simpleNms_sorted (pp : PostProcessor) (boxes : List BoundingBox) :
    (pp.simpleNms boxes).Sorted fun a b => b.confidence ≤ a.confidence :=
  (sortByConfidence_sorted boxes).sublist (simpleNms_sublist pp boxes)

theorem simpleNms_pairwise (pp : PostProcessor) (boxes : List BoundingBox) :
    (pp.simpleNms boxes).Pairwise fun a b => calculateIou a b < pp.nmsThreshold := by
  rw [simpleNms_eq]
  exact (suppress_pairwise _ _).imp fun h => of_decide_eq_true h

/-- **NMS is idempotent**: the survivors are sorted and pairwise below the
threshold, so a second pass sorts them into themselves and drops none. -/
theorem simpleNms_idempotent (pp : PostProcessor) (boxes : List BoundingBox) :
    pp.simpleNms (pp.simpleNms boxes) = pp.simpleNms boxes := by
  rw [simpleNms_eq pp (pp.simpleNms boxes), sortByConfidence_of_sorted (simpleNms_sorted pp boxes)]
  exact suppress_of_pairwise _ ((simpleNms_pairwise pp boxes).imp fun h => decide_eq_true h)

/-! ## Against the spec's rule -/

/-- At the default threshold `0.4` a box and the strip along its edge,
whose IoU is exactly `0.4`: `_simple_nms` keeps only the box, the spec's
rule keeps both. -/
theorem simpleNms_drops_box_at_threshold :
    calculateIou squareBox stripBox = ({} : PostProcessor).nmsThreshold ∧
      ({} : PostProcessor).simpleNms [squareBox, stripBox] = [squareBox] ∧
      nmsReference ({} : PostProcessor).nmsThreshold [squareBox, stripBox] = [squareBox, stripBox] := by
  have hiou : calculateIou squareBox stripBox = 2 / 5 := by
    norm_num [calculateIou, interArea, BoundingBox.area, squareBox, stripBox]
  have hsort : sortByConfidence [squareBox, stripBox] = [squareBox, stripBox] :=
    sortByConfidence_of_sorted (by norm_num [squareBox, stripBox])
  refine ⟨hiou, ?_, ?_⟩
  · rw [simpleNms_eq, hsort]
    norm_num [suppress_cons, suppress_nil, hiou]
  · rw [nmsReference, hsort]
    norm_num [suppress_cons, suppress_nil, hiou]

/-- Where no two of the boxes have an IoU equal to the threshold, the keep
test `iou < t` and the spec's `not (iou > t)` agree, and so do the two
loops. -/
theorem simpleNms_eq_reference (pp : PostProcessor) (boxes : List BoundingBox)
    (h : ∀ a ∈ boxes, ∀ b ∈ boxes, calculateIou a b ≠ pp.nmsThreshold) :
    pp.simpleNms boxes = nmsReference pp.nmsThreshold boxes := by
  rw [simpleNms_eq, nmsReference]
  refine suppress_congr _ fun a ha b hb => ?_
  have hab := h a ((sortByConfidence_perm boxes).subset ha) b ((sortByConfidence_perm boxes).subset hb)
  rcases lt_or_gt_of_ne hab with hlt | hgt
  · simp [hlt, hlt.le, not_lt.mpr hlt.le]
  · simp [not_lt.mpr hgt.le, hgt]

/-- A box far from `squareBox`. -/
def farBox : BoundingBox := ⟨20, 20, 30, 30, 1 / 2, 2, "car"⟩

theorem simpleNms_eq_reference_on_far :
    ({} : PostProcessor).simpleNms [squareBox, farBox] =
      nmsReference ({} : PostProcessor).nmsThreshold [squareBox, farBox] :=
  simpleNms_eq_reference {} [squareBox, farBox] (by
    simp only [List.mem_cons, List.mem_singleton, List.not_mem_nil, or_false]
    rintro a (rfl | rfl) b (rfl | rfl) <;>
      norm_num [calculateIou, interArea, BoundingBox.area, squareBox, farBox])

/-! ## The threshold and the number of survivors -/

/-- Both NMS paths return boxes they were given: `_simple_nms` a
sublist of the sorted boxes, `NMSBoxes` the boxes at its indices. -/
theorem PostProcessor.mem_of_mem_applyNms {pp : PostProcessor}
    {cv2 : Option (List (ℚ × ℚ × ℚ × ℚ) → List ℚ → ℚ → ℚ → List Nat)} {boxes : List BoundingBox}
    {b : BoundingBox} (hb : b ∈ pp.applyNms cv2 boxes) : b ∈ boxes := by
  unfold PostProcessor.applyNms at hb
  split_ifs at hb with h
  · cases hb
  · cases cv2 with
    | none => exact (sortByConfidence_perm boxes).subset ((simpleNms_sublist pp boxes).subset hb)
    | some nmsBoxes =>
      obtain ⟨i, -, hi⟩ := List.mem_filterMap.mp hb
      exact List.getElem?_mem hi

/-- Whatever `NMSBoxes` selects, every box `process_output` returns is
inside the frame, at the threshold or above. -/
theorem PostProcessor.processOutput_sound {pp : PostProcessor}
    {cv2 : Option (List (ℚ × ℚ × ℚ × ℚ) → List ℚ → ℚ → ℚ → List Nat)} {scale : ℚ} {hs : 0 < scale}
    {padding : ℚ × ℚ} {shape : Nat × Nat} {rows : List Detection} {boxes : List BoundingBox}
    (h : pp.processOutput cv2 scale hs padding shape rows = .ok boxes) :
    ∀ b ∈ boxes, b.InFrame shape.1 shape.2 ∧ pp.Emits b := by
  intro b hb
  cases cv2 with
  | none => cases h
  | some _ =>
    cases h
    exact PostProcessor.decodeLoop_sound (PostProcessor.mem_of_mem_applyNms hb)

end ViewGuard
