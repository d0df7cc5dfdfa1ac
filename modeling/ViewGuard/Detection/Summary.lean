import ViewGuard.Detection.Filter
import Mathlib.Algebra.BigOperators.Group.List
import Mathlib.Algebra.Order.Field.Basic

/-!
# Detection — the per-class summary

`DetectionLogic.get_detection_summary` of `ai_service/detection.py`: one
pass over the boxes builds a dict from class name to `count`,
`max_confidence` and `avg_confidence`, the average kept by the running
update `avg ← (avg * (count - 1) + conf) / count`. The dict is an
association list in insertion order, so a class's entry sits where its
first box put it.

Main result: **`getDetectionSummary_spec`**: one entry per class that
occurs, holding the number of its boxes, the mean of their confidences
and `max(0, largest confidence)`: the running average is the batch mean.
-/

namespace ViewGuard

/-- One entry of the summary. -/
structure ClassSummary where
  count : Nat
  maxConfidence : ℚ
  avgConfidence : ℚ
  deriving DecidableEq, Repr

/-- The entry a class starts with. -/
def ClassSummary.init : ClassSummary := ⟨0, 0, 0⟩

/-- The three updates of one box, in the source's order: the count, then
the maximum, then the average under the new count. -/
def ClassSummary.add (s : ClassSummary) (confidence : ℚ) : ClassSummary :=
  let count := s.count + 1
  { count
    maxConfidence := max s.maxConfidence confidence
    avgConfidence := (s.avgConfidence * ((count - 1 : Nat) : ℚ) + confidence) / count }

/-- One iteration of the loop: the entry of the box's class, appended when
absent, updated by the box. -/
def summaryStep : List (String × ClassSummary) → BoundingBox → List (String × ClassSummary)
  | [], box => [(box.className, ClassSummary.init.add box.confidence)]
  | (c, s) :: rest, box =>
    if c = box.className then (c, s.add box.confidence) :: rest else (c, s) :: summaryStep rest box

/-- `get_detection_summary(result)`. -/
def DetectionLogic.getDetectionSummary (_dl : DetectionLogic) (result : DetectionResult) :
    List (String × ClassSummary) :=
  result.boundingBoxes.foldl summaryStep []

/-! ## One step -/

theorem keys_summaryStep (s : List (String × ClassSummary)) (box : BoundingBox) :
    (summaryStep s box).map Prod.fst =
      if box.className ∈ s.map Prod.fst then s.map Prod.fst else s.map Prod.fst ++ [box.className] := by
  induction s with
  | nil => rfl
  | cons e rest ih =>
    obtain ⟨c, v⟩ := e
    by_cases hc : c = box.className
    · simp [summaryStep, hc]
    · simp only [summaryStep, hc, if_false, List.map_cons, ih, List.mem_cons, Ne.symm hc, false_or]
      split_ifs <;> rfl

/-- `summary[c]` on an entry and the rest. -/
theorem lookup_entry_cons (k c : String) (v : ClassSummary) (es : List (String × ClassSummary)) :
    ((k, v) :: es).lookup c = if c = k then some v else es.lookup c := by
  by_cases h : c = k
  · simp only [List.lookup_cons, h, beq_self_eq_true, if_true]
  · simp only [List.lookup_cons, beq_false_of_ne h, h, if_false]

theorem lookup_summaryStep (s : List (String × ClassSummary)) (box : BoundingBox) (c : String) :
    (summaryStep s box).lookup c =
      if c = box.className then some (((s.lookup c).getD ClassSummary.init).add box.confidence)
      else s.lookup c := by
  induction s with
  | nil => by_cases hc : c = box.className <;> simp [summaryStep, lookup_entry_cons, hc]
  | cons e rest ih =>
    obtain ⟨k, v⟩ := e
    by_cases hk : k = box.className
    · subst hk
      by_cases hc : c = box.className <;> simp [summaryStep, lookup_entry_cons, hc]
    · by_cases hc : c = k
      · simp [summaryStep, lookup_entry_cons, hk, hc]
      · simp [summaryStep, lookup_entry_cons, hk, hc, ih]

/-- A class that has no entry reads as absent. -/
theorem lookup_eq_none {s : List (String × ClassSummary)} {c : String}
    (h : c ∉ s.map Prod.fst) : s.lookup c = none := by
  induction s with
  | nil => rfl
  | cons e rest ih =>
    obtain ⟨k, v⟩ := e
    simp only [List.map_cons, List.mem_cons, not_or] at h
    rw [lookup_entry_cons, if_neg h.1, ih h.2]

/-! ## The fold -/

/-- The confidences of the boxes of class `c`, in order. -/
def classConfidences (boxes : List BoundingBox) (c : String) : List ℚ :=
  (boxes.filter (·.className = c)).map (·.confidence)

/-- The entry class `c` should have after `boxes`: the count, the running
maximum from `0`, and the mean. For a class that does not occur it is
the initial entry. -/
def expectedEntry (boxes : List BoundingBox) (c : String) : ClassSummary :=
  ⟨(classConfidences boxes c).length, (classConfidences boxes c).foldl max 0,
    (classConfidences boxes c).sum / (classConfidences boxes c).length⟩

/-- The mean times the count gives the sum back, the empty list included. -/
theorem sum_div_length_mul (l : List ℚ) : l.sum / l.length * l.length = l.sum := by
  rcases Nat.eq_zero_or_pos l.length with h | h
  · simp [List.length_eq_zero.mp h]
  · exact div_mul_cancel₀ _ (by exact_mod_cast h.ne')

/-- **The running average is the batch mean**: one more box of class `c`
updates the expected entry exactly as `ClassSummary.add` does. -/
theorem expectedEntry_append (boxes : List BoundingBox) (box : BoundingBox) (c : String) :
    expectedEntry (boxes ++ [box]) c =
      if box.className = c then (expectedEntry boxes c).add box.confidence
      else expectedEntry boxes c := by
  by_cases hc : box.className = c
  · have hl : classConfidences (boxes ++ [box]) c = classConfidences boxes c ++ [box.confidence] := by
      simp [classConfidences, hc]
    rw [if_pos hc, expectedEntry, expectedEntry, ClassSummary.add, hl]
    simp only [List.length_append, List.length_singleton, List.foldl_append, List.foldl_cons,
      List.foldl_nil, List.sum_append, List.sum_singleton, Nat.add_sub_cancel,
      sum_div_length_mul, Nat.cast_add, Nat.cast_one]
  · have hl : classConfidences (boxes ++ [box]) c = classConfidences boxes c := by
      simp [classConfidences, hc]
    rw [if_neg hc, expectedEntry, expectedEntry, hl]

theorem expectedEntry_of_not_mem {boxes : List BoundingBox} {c : String}
    (h : c ∉ boxes.map (·.className)) : expectedEntry boxes c = ClassSummary.init := by
  have hl : classConfidences boxes c = [] := by
    simpa [classConfidences, List.filter_eq_nil_iff] using
      fun b hb hbc => h (List.mem_map.mpr ⟨b, hb, hbc⟩)
  simp [expectedEntry, hl, ClassSummary.init]

/-- What the summary after `boxes` holds: one key per class that occurs,
and under it the expected entry. -/
def Summarizes (boxes : List BoundingBox) (s : List (String × ClassSummary)) : Prop :=
  (s.map Prod.fst).Nodup ∧ (∀ c, c ∈ s.map Prod.fst ↔ c ∈ boxes.map (·.className)) ∧
    ∀ c ∈ boxes.map (·.className), s.lookup c = some (expectedEntry boxes c)

/-- **Step lemma.** -/
theorem Summarizes.step {boxes : List BoundingBox} {s : List (String × ClassSummary)}
    (h : Summarizes boxes s) (box : BoundingBox) :
    Summarizes (boxes ++ [box]) (summaryStep s box) := by
  obtain ⟨hnd, hkeys, hval⟩ := h
  -- the entry the box's class had: the expected one, absent or not
  have hprev : ∀ c, (s.lookup c).getD ClassSummary.init = expectedEntry boxes c := by
    intro c
    by_cases hc : c ∈ boxes.map (·.className)
    · rw [hval c hc]; rfl
    · rw [lookup_eq_none (mt (hkeys c).mp hc), expectedEntry_of_not_mem hc]; rfl
  refine ⟨?_, fun c => ?_, fun c hc => ?_⟩
  · rw [keys_summaryStep]
    split_ifs with hin
    · exact hnd
    · exact hnd.append (List.nodup_singleton _) (List.disjoint_singleton.mpr hin)
  · rw [keys_summaryStep, List.map_append, List.mem_append, ← hkeys]
    split_ifs with hin <;> simp only [List.map_singleton, List.mem_singleton, List.mem_append]
    · exact ⟨.inl, fun h => h.elim id (fun e => e ▸ hin)⟩
  · rw [lookup_summaryStep, expectedEntry_append]
    by_cases hcb : c = box.className
    · rw [if_pos hcb, if_pos hcb.symm, hprev]
    · rw [if_neg hcb, if_neg (Ne.symm hcb)]
      refine hval c ?_
      simpa [hcb] using hc

/-- **Run lemma.** -/
theorem Summarizes.foldl {boxes : List BoundingBox} {s : List (String × ClassSummary)}
    (h : Summarizes boxes s) (rest : List BoundingBox) :
    Summarizes (boxes ++ rest) (rest.foldl summaryStep s) := by
  induction rest generalizing boxes s with
  | nil => simpa using h
  | cons box rest ih => simpa using ih (h.step box)

/-- The running maximum from `0` is `max(0, largest)`: at least `0` and
every element, and `0` or one of them. -/
theorem foldl_max_spec (l : List ℚ) (a : ℚ) :
    a ≤ l.foldl max a ∧ (∀ x ∈ l, x ≤ l.foldl max a) ∧ (l.foldl max a = a ∨ l.foldl max a ∈ l) := by
  induction l generalizing a with
  | nil => simp
  | cons x xs ih =>
    obtain ⟨h1, h2, h3⟩ := ih (max a x)
    refine ⟨(le_max_left a x).trans h1, ?_, ?_⟩
    · simpa using ⟨(le_max_right a x).trans h1, h2⟩
    · rw [List.foldl_cons]
      rcases h3 with h | h
      · rw [h]
        rcases max_choice a x with e | e
        · exact .inl e
        · rw [e]
          exact .inr (List.mem_cons_self x xs)
      · exact .inr (List.mem_cons_of_mem x h)

/-- **`get_detection_summary`**: one entry per class that occurs; under
each, the number of its boxes, the mean of their confidences, and
`max(0, the largest of them)`. -/
theorem getDetectionSummary_spec (dl : DetectionLogic) (r : DetectionResult) :
    ((dl.getDetectionSummary r).map Prod.fst).Nodup ∧
      (∀ c, c ∈ (dl.getDetectionSummary r).map Prod.fst ↔ ∃ b ∈ r.boundingBoxes, b.className = c) ∧
      ∀ c, (∃ b ∈ r.boundingBoxes, b.className = c) → ∃ e,
        (dl.getDetectionSummary r).lookup c = some e ∧
        e.count = (r.boundingBoxes.filter (·.className = c)).length ∧
        e.avgConfidence =
          (classConfidences r.boundingBoxes c).sum / (classConfidences r.boundingBoxes c).length ∧
        0 ≤ e.maxConfidence ∧ (∀ x ∈ classConfidences r.boundingBoxes c, x ≤ e.maxConfidence) ∧
        (e.maxConfidence = 0 ∨ e.maxConfidence ∈ classConfidences r.boundingBoxes c) := by
  have h := (show Summarizes [] [] from ⟨List.nodup_nil, by simp, by simp⟩).foldl r.boundingBoxes
  rw [List.nil_append] at h
  obtain ⟨hnd, hkeys, hval⟩ := h
  refine ⟨hnd, fun c => by simpa using hkeys c, fun c hc => ⟨_, hval c (by simpa using hc), ?_⟩⟩
  obtain ⟨h1, h2, h3⟩ := foldl_max_spec (classConfidences r.boundingBoxes c) 0
  exact ⟨by simp [expectedEntry, classConfidences], rfl, h1, h2, h3⟩

end ViewGuard
