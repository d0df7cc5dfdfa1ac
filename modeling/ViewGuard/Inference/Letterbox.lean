import ViewGuard.Inference.Boxes
import ViewGuard.Inference.Binary64
import Mathlib.Data.Rat.Floor
import Mathlib.Tactic.FieldSimp
import Mathlib.Tactic.Linarith

/-!
# Inference — letterbox and decode

`FramePreprocessor.preprocess` and the decode loop of
`PostProcessor.process_output` (`ai_service/inference.py`): a frame is
scaled by `min(W/w, H/h)`, resized with `cv2.resize` (opaque here),
centred on a gray `H × W` canvas at integer offsets `(pad_x, pad_y)`,
and handed over as an NCHW tensor; a model output row
`[cx, cy, w, h, scores...]` in normalized input coordinates is mapped
back through `pixel = (normalized * 640 - pad) / scale` and clipped to
the frame.

The decode step normalizes by the literal `640` of the source, not by
the preprocessor's target size, so decoding undoes the letterbox for a
`640 × 640` target (`decodeDetection_letterbox_640`) and for no other
square target (`decode_misplaces_box_at_320`).

`int()` truncates a resized side to `0` for frames much thinner than the
target (`preprocess_rejects_thin_frame`), and `cv2.resize` then raises.
`letterbox` computes the geometry in exact arithmetic: there
`letterbox_emptyResize_iff` says exactly which frames fail, and
`letterbox_fits` that every frame that passes lands inside the canvas.
The code computes it in binary64 (`codeLetterbox`): `codeSides_refine`
says each resized side is the exact one, or one less where the exact
product is an integer, and `codeLetterbox_emptyResize` which frames the
code rejects, exactly the exact model's away from the boundary
`H * w = h` or `W * h = w`, where both outcomes occur
(`codeLetterbox_boundary`).
-/

namespace ViewGuard

/-! ## Preprocessing -/

/-- A BGR frame as OpenCV hands it over: `shape[:2]` and the value of
each channel at row `y`, column `x`. -/
structure Frame where
  height : Nat
  width : Nat
  pixel : Nat → Nat → Fin 3 → Nat

/-- `FramePreprocessor(target_size=(width, height))`. -/
structure FramePreprocessor where
  targetWidth : Nat := 640
  targetHeight : Nat := 640

/-- The geometry `preprocess` computes for one frame. The scale is
positive whenever `preprocess` returns. -/
structure Letterbox where
  scale : ℚ
  newWidth : Nat
  newHeight : Nat
  padX : Int
  padY : Int
  scale_pos : 0 < scale

/-- Why `preprocess` raises: a zero frame dimension divides by zero, and
`cv2.resize` rejects an empty target size. -/
inductive PreprocessError where
  | zeroDivision
  | emptyResize
  deriving DecidableEq, Repr

theorem scale_pos_of_floor {w : Nat} {scale : ℚ} (h : ⌊(w : ℚ) * scale⌋₊ ≠ 0) : 0 < scale := by
  have h1 : 1 ≤ (w : ℚ) * scale := Nat.floor_pos.mp (Nat.pos_of_ne_zero h)
  by_contra hs
  nlinarith [(Nat.cast_nonneg w : (0 : ℚ) ≤ w)]

/-- The letterbox geometry of `preprocess`: `scale = min(W/w, H/h)`,
`new = int(side * scale)`, `pad = (target - new) // 2`. -/
def FramePreprocessor.letterbox (p : FramePreprocessor) (originalHeight originalWidth : Nat) :
    Except PreprocessError Letterbox :=
  if originalWidth = 0 ∨ originalHeight = 0 then .error .zeroDivision
  else
    let scale : ℚ := min ((p.targetWidth : ℚ) / originalWidth) ((p.targetHeight : ℚ) / originalHeight)
    if hw : ⌊(originalWidth : ℚ) * scale⌋₊ = 0 ∨ ⌊(originalHeight : ℚ) * scale⌋₊ = 0 then
      .error .emptyResize
    else
      .ok { scale
            newWidth := ⌊(originalWidth : ℚ) * scale⌋₊
            newHeight := ⌊(originalHeight : ℚ) * scale⌋₊
            padX := ((p.targetWidth : Int) - ⌊(originalWidth : ℚ) * scale⌋₊) / 2
            padY := ((p.targetHeight : Int) - ⌊(originalHeight : ℚ) * scale⌋₊) / 2
            scale_pos := scale_pos_of_floor (not_or.mp hw).1 }

/-- `scale = min(W / w, H / h)` as the code computes it: each true
division rounded to binary64, then Python's `min`. -/
def FramePreprocessor.codeScale (p : FramePreprocessor) (originalHeight originalWidth : Nat) :
    Binary64 :=
  Binary64.pyMin (Binary64.roundRatio p.targetWidth originalWidth)
    (Binary64.roundRatio p.targetHeight originalHeight)

/-- The letterbox geometry as `preprocess` computes it in binary64:
`new = int(side * scale)` truncates the rounded product, and the
`Letterbox` records the value of the scale. -/
def FramePreprocessor.codeLetterbox (p : FramePreprocessor) (originalHeight originalWidth : Nat) :
    Except PreprocessError Letterbox :=
  if originalWidth = 0 ∨ originalHeight = 0 then .error .zeroDivision
  else
    let scale := p.codeScale originalHeight originalWidth
    if hw : (scale.mulNat originalWidth).trunc = 0 ∨ (scale.mulNat originalHeight).trunc = 0 then
      .error .emptyResize
    else
      .ok { scale := scale.val
            newWidth := (scale.mulNat originalWidth).trunc
            newHeight := (scale.mulNat originalHeight).trunc
            padX := ((p.targetWidth : Int) - (scale.mulNat originalWidth).trunc) / 2
            padY := ((p.targetHeight : Int) - (scale.mulNat originalHeight).trunc) / 2
            scale_pos := Binary64.val_pos_of_trunc_mulNat_ne_zero (not_or.mp hw).1 }

/-- An NCHW tensor of shape `(1, 3, H, W)`, by index. -/
abbrev Tensor := Nat → Nat → Nat → Nat → ℚ

/-- `preprocess(frame)`: the letterboxed frame on a canvas of gray `114`,
converted to RGB and scaled to `[0, 1]`, with the scale and padding.
`resize frame w h` gives the channel values `cv2.resize` produces. -/
def FramePreprocessor.preprocess (p : FramePreprocessor)
    (resize : Frame → Nat → Nat → Nat → Nat → Fin 3 → Nat) (frame : Frame) :
    Except PreprocessError (Tensor × ℚ × (Int × Int)) :=
  match p.letterbox frame.height frame.width with
  | .error e => .error e
  | .ok lb =>
    let resized := resize frame lb.newWidth lb.newHeight
    let padded (y x : Nat) (c : Fin 3) : Nat :=
      if lb.padY ≤ y ∧ y < lb.padY + lb.newHeight ∧ lb.padX ≤ x ∧ x < lb.padX + lb.newWidth then
        resized (y - lb.padY.toNat) (x - lb.padX.toNat) c
      else 114
    let nchw : Tensor := fun n c y x =>
      if h : n = 0 ∧ c < 3 ∧ y < p.targetHeight ∧ x < p.targetWidth then
        (padded y x (Fin.rev ⟨c, h.2.1⟩) : ℚ) / 255
      else 0
    .ok (nchw, lb.scale, (lb.padX, lb.padY))

/-! ## Decoding -/

/-- One row of the model output: box centre and size in normalized
input coordinates, then one score per class (there is at least one). -/
structure Detection where
  xCenter : ℚ
  yCenter : ℚ
  width : ℚ
  height : ℚ
  classScores : List ℚ
  scores_ne_nil : classScores ≠ []

/-- The scan of `np.argmax` from index `i`, holding the best so far. -/
def argmaxFrom (best : ℚ) (bestIdx i : Nat) : List ℚ → Nat
  | [] => bestIdx
  | x :: xs => if best < x then argmaxFrom x i (i + 1) xs else argmaxFrom best bestIdx (i + 1) xs

/-- `np.argmax`: the first index of the largest score. -/
def argmax : List ℚ → Nat
  | [] => 0
  | x :: xs => argmaxFrom x 0 1 xs

/-- The COCO class names `_get_coco_class_names` returns. -/
def cocoClassNames : List String :=
  ["person", "bicycle", "car", "motorcycle", "airplane", "bus", "train", "truck",
   "boat", "traffic light", "fire hydrant", "stop sign", "parking meter", "bench",
   "bird", "cat", "dog", "horse", "sheep", "cow", "elephant", "bear", "zebra",
   "giraffe", "backpack", "umbrella", "handbag", "tie", "suitcase", "frisbee",
   "skis", "snowboard", "sports ball", "kite", "baseball bat", "baseball glove",
   "skateboard", "surfboard", "tennis racket", "bottle", "wine glass", "cup", "fork",
   "knife", "spoon", "bowl", "banana", "apple", "sandwich", "orange", "broccoli",
   "carrot", "hot dog", "pizza", "donut", "cake", "chair", "couch", "potted plant",
   "bed", "dining table", "toilet", "tv", "laptop", "mouse", "remote", "keyboard",
   "cell phone", "microwave", "oven", "toaster", "sink", "refrigerator", "book",
   "clock", "vase", "scissors", "teddy bear", "hair drier", "toothbrush"]

/-- `PostProcessor(confidence_threshold, nms_threshold, class_names)`. -/
structure PostProcessor where
  confidenceThreshold : ℚ := 1 / 2
  nmsThreshold : ℚ := 2 / 5
  classNames : List String := cocoClassNames

/-- `class_names[class_id]`, or `class_{id}` past the end. -/
def PostProcessor.className (pp : PostProcessor) (classId : Nat) : String :=
  if classId < pp.classNames.length then pp.classNames.getD classId ""
  else "class_" ++ toString classId

/-- `max(0, min(v, bound))`. -/
def clip (v bound : ℚ) : ℚ := max 0 (min v bound)

/-- One iteration of the decode loop of `process_output`, `none` for a
row it skips. `scale` is the positive scale `preprocess` recorded. -/
def PostProcessor.decodeDetection (pp : PostProcessor) (scale : ℚ) (_hscale : 0 < scale)
    (padding : ℚ × ℚ) (originalShape : Nat × Nat) (d : Detection) : Option BoundingBox :=
  let classId := argmax d.classScores
  let confidence := d.classScores.getD classId 0
  if confidence < pp.confidenceThreshold then none
  else
    let x1 := clip (((d.xCenter - d.width / 2) * 640 - padding.1) / scale) originalShape.2
    let y1 := clip (((d.yCenter - d.height / 2) * 640 - padding.2) / scale) originalShape.1
    let x2 := clip (((d.xCenter + d.width / 2) * 640 - padding.1) / scale) originalShape.2
    let y2 := clip (((d.yCenter + d.height / 2) * 640 - padding.2) / scale) originalShape.1
    if x2 ≤ x1 ∨ y2 ≤ y1 then none
    else some ⟨x1, y1, x2, y2, confidence, classId, pp.className classId⟩

/-- The decode loop of `process_output`, before NMS. -/
def PostProcessor.decodeLoop (pp : PostProcessor) (scale : ℚ) (hscale : 0 < scale)
    (padding : ℚ × ℚ) (originalShape : Nat × Nat) (detections : List Detection) :
    List BoundingBox :=
  detections.filterMap (pp.decodeDetection scale hscale padding originalShape)

/-- `InferenceEngine(model_loader, confidence_threshold, nms_threshold,
target_size)`: its preprocessor and post-processor. -/
structure InferenceEngine where
  confidenceThreshold : ℚ := 1 / 2
  nmsThreshold : ℚ := 2 / 5
  targetSize : Nat × Nat := (640, 640)

def InferenceEngine.preprocessor (e : InferenceEngine) : FramePreprocessor :=
  ⟨e.targetSize.1, e.targetSize.2⟩

def InferenceEngine.postprocessor (e : InferenceEngine) : PostProcessor :=
  { confidenceThreshold := e.confidenceThreshold, nmsThreshold := e.nmsThreshold }

end ViewGuard

namespace ViewGuard

/-! ## `np.argmax` -/

theorem le_argmaxFrom (b : ℚ) (bi i : Nat) (pre xs : List ℚ) (hi : pre.length = i)
    (hbi : pre.getD bi 0 = b) (hle : ∀ y ∈ pre, y ≤ b) (hbi_lt : bi < i) :
    argmaxFrom b bi i xs < i + xs.length ∧
      ∀ y ∈ pre ++ xs, y ≤ (pre ++ xs).getD (argmaxFrom b bi i xs) 0 := by
  induction xs generalizing pre b bi i with
  | nil =>
    subst hbi
    exact ⟨by simpa [argmaxFrom] using hbi_lt, by simpa [argmaxFrom] using hle⟩
  | cons x xs ih =>
    have happ : pre ++ x :: xs = (pre ++ [x]) ++ xs := by simp
    simp only [argmaxFrom, happ]
    split_ifs with hbx
    · have := ih x i (i + 1) (pre ++ [x]) (by simp [hi]) (by simp [List.getD_eq_getElem?_getD, hi])
        (fun y hy => by
          rcases List.mem_append.mp hy with hy | hy
          · exact (hle y hy).trans hbx.le
          · exact (List.mem_singleton.mp hy).le) (by omega)
      simpa [Nat.add_assoc, Nat.add_comm 1] using this
    · have := ih b bi (i + 1) (pre ++ [x]) (by simp [hi])
        (by simp [List.getD_eq_getElem?_getD, List.getElem?_append_left (hi ▸ hbi_lt), ← hbi])
        (fun y hy => by
          rcases List.mem_append.mp hy with hy | hy
          · exact hle y hy
          · exact (List.mem_singleton.mp hy).trans_le (not_lt.mp hbx)) (by omega)
      simpa [Nat.add_assoc, Nat.add_comm 1] using this

/-- The score `argmax` picks is the largest. -/
theorem le_getD_argmax {l : List ℚ} {x : ℚ} (hx : x ∈ l) : x ≤ l.getD (argmax l) 0 := by
  cases l with
  | nil => cases hx
  | cons a rest =>
    exact (le_argmaxFrom a 0 1 [a] rest rfl rfl (by simp) (by omega)).2 x (by simpa using hx)

/-! ## Decoding undoes the letterbox at 640 -/

/-- The output row that places pixel box `(x1, y1, x2, y2)` at its
letterboxed position in an `S × S` input, normalized by `S`. -/
def encodeBox (S : Nat) (lb : Letterbox) (x1 y1 x2 y2 : ℚ) (scores : List ℚ)
    (hs : scores ≠ []) : Detection :=
  ⟨((x1 + x2) / 2 * lb.scale + lb.padX) / S, ((y1 + y2) / 2 * lb.scale + lb.padY) / S,
    (x2 - x1) * lb.scale / S, (y2 - y1) * lb.scale / S, scores, hs⟩

theorem center_sub_half (a b s p S : ℚ) :
    ((a + b) / 2 * s + p) / S - (b - a) * s / S / 2 = (a * s + p) / S := by ring

theorem center_add_half (a b s p S : ℚ) :
    ((a + b) / 2 * s + p) / S + (b - a) * s / S / 2 = (b * s + p) / S := by ring

/-- Through an `S × S` input, a corner comes back as
`((a * scale + pad) * 640 / S - pad) / scale`, which is `a` at `S = 640`. -/
theorem unletterbox_640 (a s p : ℚ) (hs : 0 < s) :
    ((a * s + p) / ((640 : Nat) : ℚ) * 640 - p) / s = a := by
  field_simp

theorem clip_of_mem {v bound : ℚ} (h0 : 0 ≤ v) (hb : v ≤ bound) : clip v bound = v := by
  simp [clip, h0, hb]

/-- **Letterbox invertibility for the deployed `640 × 640` input**: a
pixel box inside the frame, encoded at its letterboxed position with a
class score at the threshold or above, decodes to exactly that box. -/
theorem decodeDetection_letterbox_640 (pp : PostProcessor) (lb : Letterbox) (w h : Nat)
    (x1 y1 x2 y2 : ℚ) (hx : 0 ≤ x1 ∧ x1 < x2 ∧ x2 ≤ w) (hy : 0 ≤ y1 ∧ y1 < y2 ∧ y2 ≤ h)
    (scores : List ℚ) (hs : scores ≠ []) (htop : ∃ c ∈ scores, pp.confidenceThreshold ≤ c) :
    (pp.decodeDetection lb.scale lb.scale_pos (lb.padX, lb.padY) (h, w)
      (encodeBox 640 lb x1 y1 x2 y2 scores hs)).map (fun b => (b.x1, b.y1, b.x2, b.y2)) =
      some (x1, y1, x2, y2) := by
  obtain ⟨c, hc, hth⟩ := htop
  have hconf : ¬ scores.getD (argmax scores) 0 < pp.confidenceThreshold :=
    not_lt.mpr (hth.trans (le_getD_argmax hc))
  simp only [PostProcessor.decodeDetection, encodeBox, hconf, if_false, center_sub_half,
    center_add_half, unletterbox_640 _ _ _ lb.scale_pos,
    clip_of_mem hx.1 (hx.2.1.le.trans hx.2.2), clip_of_mem (hx.1.trans hx.2.1.le) hx.2.2,
    clip_of_mem hy.1 (hy.2.1.le.trans hy.2.2), clip_of_mem (hy.1.trans hy.2.1.le) hy.2.2,
    not_le.mpr hx.2.1, not_le.mpr hy.2.1, or_self, Option.map_some']

/-- The letterbox of a frame that is already `640 × 640`. -/
def identityLetterbox : Letterbox := ⟨1, 640, 640, 0, 0, one_pos⟩

theorem decodeDetection_letterbox_640_on_square :
    (({} : PostProcessor).decodeDetection identityLetterbox.scale identityLetterbox.scale_pos
      (identityLetterbox.padX, identityLetterbox.padY) (640, 640)
      (encodeBox 640 identityLetterbox 0 0 100 100 [1] (List.cons_ne_nil 1 []))).map
        (fun b => (b.x1, b.y1, b.x2, b.y2)) = some (0, 0, 100, 100) :=
  decodeDetection_letterbox_640 {} identityLetterbox 640 640 0 0 100 100
    ⟨le_rfl, by norm_num, by norm_num⟩ ⟨le_rfl, by norm_num, by norm_num⟩ [1] _ ⟨1, by simp, by norm_num⟩

/-! ## Other square targets -/

/-- A frame the size of its square target: scale `1`, no padding. -/
theorem letterbox_same_size (S : Nat) (hS : 0 < S) :
    ∃ lb, ({ targetWidth := S, targetHeight := S } : FramePreprocessor).letterbox S S = .ok lb ∧
      lb.scale = 1 ∧ lb.padX = 0 ∧ lb.padY = 0 := by
  have hS' : (S : ℚ) ≠ 0 := by positivity
  have hne : S ≠ 0 := Nat.pos_iff_ne_zero.mp hS
  unfold FramePreprocessor.letterbox
  simp only [hne, or_self, if_false, div_self hS', min_self, mul_one, Nat.floor_natCast]
  rw [dif_neg (by simp [hne])]
  exact ⟨_, rfl, rfl, by simp, by simp⟩

/-- An engine with a `320 × 320` target, a `320 × 320` frame and the box
`(0, 0, 100, 100)` placed where the preprocessor put it: the decode step
scales by `640` and returns `(0, 0, 200, 200)`. -/
theorem decode_misplaces_box_at_320 :
    ∃ lb, ({ targetSize := (320, 320) } : InferenceEngine).preprocessor.letterbox 320 320 = .ok lb ∧
      ((({ targetSize := (320, 320) } : InferenceEngine).postprocessor.decodeDetection lb.scale
        lb.scale_pos (lb.padX, lb.padY) (320, 320)
        (encodeBox 320 lb 0 0 100 100 [1] (List.cons_ne_nil 1 []))).map
          fun b => (b.x1, b.y1, b.x2, b.y2)) = some (0, 0, 200, 200) := by
  obtain ⟨lb, hlb, hs, hx, hy⟩ := letterbox_same_size 320 (by norm_num)
  refine ⟨lb, hlb, ?_⟩
  simp only [PostProcessor.decodeDetection, encodeBox, hs, hx, hy, InferenceEngine.postprocessor,
    argmax, argmaxFrom]
  norm_num [clip]

/-! ## What `preprocess` rejects -/

/-- What a returning `preprocess` computed: both sides non-zero, the
scale `min(W / w, H / h)`, both resized sides non-zero, and the centring
offsets. -/
theorem letterbox_ok {p : FramePreprocessor} {h w : Nat} {lb : Letterbox}
    (hlb : p.letterbox h w = .ok lb) :
    w ≠ 0 ∧ h ≠ 0 ∧ lb.scale = min ((p.targetWidth : ℚ) / w) ((p.targetHeight : ℚ) / h) ∧
      lb.newWidth = ⌊(w : ℚ) * lb.scale⌋₊ ∧ lb.newHeight = ⌊(h : ℚ) * lb.scale⌋₊ ∧
      lb.newWidth ≠ 0 ∧ lb.newHeight ≠ 0 ∧
      lb.padX = ((p.targetWidth : Int) - lb.newWidth) / 2 ∧
      lb.padY = ((p.targetHeight : Int) - lb.newHeight) / 2 := by
  unfold FramePreprocessor.letterbox at hlb
  by_cases h0 : w = 0 ∨ h = 0
  · rw [if_pos h0] at hlb
    cases hlb
  · rw [if_neg h0] at hlb
    dsimp only at hlb
    by_cases hz : ⌊(w : ℚ) * min ((p.targetWidth : ℚ) / w) ((p.targetHeight : ℚ) / h)⌋₊ = 0 ∨
        ⌊(h : ℚ) * min ((p.targetWidth : ℚ) / w) ((p.targetHeight : ℚ) / h)⌋₊ = 0
    · rw [dif_pos hz] at hlb
      cases hlb
    · rw [dif_neg hz] at hlb
      cases hlb
      exact ⟨(not_or.mp h0).1, (not_or.mp h0).2, rfl, rfl, rfl, (not_or.mp hz).1, (not_or.mp hz).2,
        rfl, rfl⟩

/-- A frame side times the scale is at most the matching target side. -/
theorem side_mul_scale_le {w h W H : Nat} (hw : w ≠ 0) (hh : h ≠ 0) :
    (w : ℚ) * min ((W : ℚ) / w) ((H : ℚ) / h) ≤ W ∧
      (h : ℚ) * min ((W : ℚ) / w) ((H : ℚ) / h) ≤ H := by
  have hw' : (0 : ℚ) < w := by positivity
  have hh' : (0 : ℚ) < h := by positivity
  constructor
  · calc (w : ℚ) * min ((W : ℚ) / w) ((H : ℚ) / h) ≤ w * ((W : ℚ) / w) :=
          mul_le_mul_of_nonneg_left (min_le_left _ _) hw'.le
      _ = W := by field_simp
  · calc (h : ℚ) * min ((W : ℚ) / w) ((H : ℚ) / h) ≤ h * ((H : ℚ) / h) :=
          mul_le_mul_of_nonneg_left (min_le_right _ _) hh'.le
      _ = H := by field_simp

/-- **Where the resized frame goes**: whenever `preprocess` returns, both
resized sides are at least `1` and the resized frame lies inside the
canvas at the offsets it computed. -/
theorem letterbox_fits (p : FramePreprocessor) {h w : Nat} {lb : Letterbox}
    (hlb : p.letterbox h w = .ok lb) :
    1 ≤ lb.newWidth ∧ 1 ≤ lb.newHeight ∧ 0 ≤ lb.padX ∧ lb.padX + lb.newWidth ≤ p.targetWidth ∧
      0 ≤ lb.padY ∧ lb.padY + lb.newHeight ≤ p.targetHeight := by
  obtain ⟨hw, hh, hs, hnw, hnh, hw1, hh1, hpx, hpy⟩ := letterbox_ok hlb
  obtain ⟨hW, hH⟩ := @side_mul_scale_le w h p.targetWidth p.targetHeight hw hh
  rw [← hs] at hW hH
  have hWle : lb.newWidth ≤ p.targetWidth := hnw ▸ Nat.floor_le_of_le hW
  have hHle : lb.newHeight ≤ p.targetHeight := hnh ▸ Nat.floor_le_of_le hH
  rw [hpx, hpy]
  omega

theorem letterbox_fits_on_square :
    ∃ lb, ({} : FramePreprocessor).letterbox 640 640 = .ok lb ∧
      (1 ≤ lb.newWidth ∧ 1 ≤ lb.newHeight ∧ 0 ≤ lb.padX ∧ lb.padX + lb.newWidth ≤ 640 ∧
        0 ≤ lb.padY ∧ lb.padY + lb.newHeight ≤ 640) :=
  let ⟨lb, hlb, _⟩ := letterbox_same_size 640 (by norm_num)
  ⟨lb, hlb, letterbox_fits {} hlb⟩

/-- For non-empty frames and targets, a resized side truncates to `0`
exactly when the frame is thinner, relative to its other side, than the
target allows. -/
theorem floor_sides_eq_zero_iff {w h W H : Nat} (hw : w ≠ 0) (hh : h ≠ 0) (hW : 1 ≤ W) (hH : 1 ≤ H) :
    (⌊(w : ℚ) * min ((W : ℚ) / w) ((H : ℚ) / h)⌋₊ = 0 ↔ H * w < h) ∧
      (⌊(h : ℚ) * min ((W : ℚ) / w) ((H : ℚ) / h)⌋₊ = 0 ↔ W * h < w) := by
  have hw' : (0 : ℚ) < w := by positivity
  have hh' : (0 : ℚ) < h := by positivity
  have hW' : ¬ (W : ℚ) < 1 := not_lt.mpr (by exact_mod_cast hW)
  have hH' : ¬ (H : ℚ) < 1 := not_lt.mpr (by exact_mod_cast hH)
  rw [Nat.floor_eq_zero, Nat.floor_eq_zero, mul_min_of_nonneg _ _ hw'.le,
    mul_min_of_nonneg _ _ hh'.le, min_lt_iff, min_lt_iff, mul_div_cancel₀ _ hw'.ne',
    mul_div_cancel₀ _ hh'.ne']
  constructor
  · rw [or_iff_right hW', mul_div_assoc', div_lt_one hh', mul_comm]
    exact_mod_cast Iff.rfl
  · rw [or_iff_left hH', mul_div_assoc', div_lt_one hw', mul_comm]
    exact_mod_cast Iff.rfl

/-- What the exact geometry rejects besides empty frames: for a target
with both sides at least `1`, a frame with both sides non-zero is
rejected exactly when `H * w < h` or `W * h < w`. -/
theorem letterbox_emptyResize_iff (p : FramePreprocessor) (hW : 1 ≤ p.targetWidth)
    (hH : 1 ≤ p.targetHeight) (h w : Nat) :
    p.letterbox h w = .error .emptyResize ↔
      w ≠ 0 ∧ h ≠ 0 ∧ (p.targetHeight * w < h ∨ p.targetWidth * h < w) := by
  unfold FramePreprocessor.letterbox
  by_cases h0 : w = 0 ∨ h = 0
  · rw [if_pos h0]
    simp only [Except.error.injEq, reduceCtorEq, false_iff]
    tauto
  · rw [if_neg h0]
    obtain ⟨hw, hh⟩ := not_or.mp h0
    obtain ⟨hzw, hzh⟩ := floor_sides_eq_zero_iff hw hh hW hH
    dsimp only
    split
    · rename_i hz
      exact iff_of_true rfl ⟨hw, hh, by rwa [hzw, hzh] at hz⟩
    · rename_i hz
      exact iff_of_false (by simp) fun ⟨_, _, h'⟩ => hz (by rwa [hzw, hzh])

/-- `preprocess` raises exactly what its geometry raises. -/
theorem preprocess_of_letterbox_error {p : FramePreprocessor}
    {resize : Frame → Nat → Nat → Nat → Nat → Fin 3 → Nat} {frame : Frame} {e : PreprocessError} (h : p.letterbox frame.height frame.width = .error e) :
    p.preprocess resize frame = .error e := by
  simp only [FramePreprocessor.preprocess, h]

/-- A frame one pixel wide and `1000` high at the default `640 × 640`
target: `scale = 0.64`, `new_width = int(0.64) = 0`, and `cv2.resize`
rejects the empty size, whatever the pixels. -/
theorem preprocess_rejects_thin_frame (resize : Frame → Nat → Nat → Nat → Nat → Fin 3 → Nat)
    (pixel : Nat → Nat → Fin 3 → Nat) :
    ({} : FramePreprocessor).preprocess resize ⟨1000, 1, pixel⟩ = .error .emptyResize := by
  have hz := (@floor_sides_eq_zero_iff 1 1000 640 640 one_ne_zero (by norm_num) (by norm_num)
    (by norm_num)).1.mpr (by norm_num)
  have hl : ({} : FramePreprocessor).letterbox 1000 1 = .error .emptyResize := by
    unfold FramePreprocessor.letterbox
    rw [if_neg (by norm_num)]
    dsimp only
    simp only [hz, true_or, dite_true]
  exact preprocess_of_letterbox_error hl

/-! ## The letterbox in binary64 -/

/-- The exact scale times a frame side: `min(W * h, H * w)` over the
other side. -/
theorem side_mul_scale_eq {w h W H : Nat} (hw : w ≠ 0) (hh : h ≠ 0) :
    (w : ℚ) * min ((W : ℚ) / w) ((H : ℚ) / h) = (min (W * h) (H * w) : ℕ) / h ∧
      (h : ℚ) * min ((W : ℚ) / w) ((H : ℚ) / h) = (min (W * h) (H * w) : ℕ) / w := by
  have hw' : (w : ℚ) ≠ 0 := by exact_mod_cast hw
  have hh' : (h : ℚ) ≠ 0 := by exact_mod_cast hh
  rw [mul_min_of_nonneg _ _ (Nat.cast_nonneg w), mul_min_of_nonneg _ _ (Nat.cast_nonneg h), Nat.cast_min,
    ← min_div_div_right (Nat.cast_nonneg h), ← min_div_div_right (Nat.cast_nonneg w)]
  push_cast
  constructor <;> congr 1 <;> field_simp <;> ring

/-- A non-negative value within a relative `3 · 2⁻⁵³` of `N / D`, for
`N < 2⁵¹`, truncates to `N / D`, or to one less when `D` divides `N`. -/
theorem floor_of_near {N D : Nat} (hD : 0 < D) (hN : N < 2 ^ 51) {v : ℚ} (hv0 : 0 ≤ v)
    (hv : |v - N / D| ≤ 3 * (N / D) / 2 ^ 53) :
    ⌊v⌋₊ = N / D ∨ (⌊v⌋₊ + 1 = N / D ∧ N % D = 0) := by
  have hD' : (0 : ℚ) < D := by exact_mod_cast hD
  have hdm : (N : ℚ) = D * (N / D : ℕ) + (N % D : ℕ) := by exact_mod_cast (Nat.div_add_mod N D).symm
  have hq : (N : ℚ) / D = (N / D : ℕ) + (N % D : ℕ) / D := by
    rw [hdm, add_div, mul_div_cancel_left₀ _ hD'.ne']
  have hr : ((N % D : ℕ) : ℚ) + 1 ≤ D := by exact_mod_cast Nat.mod_lt N hD
  -- the error is below one step `1 / D`
  have hsmall : 3 * ((N : ℚ) / D) / 2 ^ 53 < 1 / D := by
    have h3 : (3 * N : ℚ) < 2 ^ 53 := by
      exact_mod_cast (calc 3 * N < 3 * 2 ^ 51 := by omega
        _ ≤ 2 ^ 53 := by norm_num)
    rw [mul_div_assoc', div_div, div_lt_div_iff₀ (by positivity) hD']
    calc 3 * (N : ℚ) * D < 2 ^ 53 * D := mul_lt_mul_of_pos_right h3 hD'
      _ = 1 * (D * 2 ^ 53) := by ring
  rw [abs_sub_le_iff] at hv
  have hup : v < (N / D : ℕ) + 1 := by
    have : ((N % D : ℕ) : ℚ) / D + 1 / D ≤ 1 := by rw [div_add_div_same, div_le_one hD']; exact hr
    linarith
  have hfl : ⌊v⌋₊ ≤ N / D := Nat.lt_succ_iff.mp ((Nat.floor_lt hv0).mpr (by exact_mod_cast hup))
  rcases Nat.eq_zero_or_pos (N % D) with hr0 | hr0
  · -- `D` divides `N`: the value is above `N / D - 1`
    rw [hr0, Nat.cast_zero, zero_div, add_zero] at hq
    have hD1 : (1 : ℚ) / D ≤ 1 := (div_le_one hD').mpr (by exact_mod_cast hD)
    have hlo : ((N / D : ℕ) : ℚ) < ⌊v⌋₊ + 2 := by linarith [Nat.lt_floor_add_one v]
    have : N / D < ⌊v⌋₊ + 2 := by exact_mod_cast hlo
    omega
  · -- `D` does not divide `N`: the value is above `N / D`
    have : (1 : ℚ) / D ≤ (N % D : ℕ) / D := div_le_div_of_nonneg_right (by exact_mod_cast hr0) hD'.le
    exact .inl (le_antisymm hfl (Nat.le_floor (by linarith)))

/-- One resized side: `int(n * scale)` for a scale near `s`, where the
exact product `n * s` is `N / D`. -/
theorem trunc_mulNat_of_near {x : Binary64} {s : ℚ} (hs : 0 < s) (hx : |x.val - s| ≤ s / 2 ^ 53)
    {n N D : Nat} (hn : 0 < n) (hD : 0 < D) (hN : N < 2 ^ 51) (hns : (n : ℚ) * s = N / D) :
    (x.mulNat n).trunc = N / D ∨ ((x.mulNat n).trunc + 1 = N / D ∧ N % D = 0) := by
  rw [Binary64.trunc_eq_floor]
  have h := Binary64.mulNat_error_of_near hs hx hn
  rw [hns] at h
  exact floor_of_near hD hN (Binary64.val_nonneg _) h

theorem two_le_div_of_mod_eq_zero {N D : Nat} (hr : N % D = 0) (hlt : D < N) : 2 ≤ N / D := by
  have hdm := Nat.div_add_mod N D
  by_contra hq
  have := Nat.mul_le_mul_left D (by omega : N / D ≤ 1)
  omega

/-- The sides the code computes, with `N = min(W * h, H * w)`: the width
is `N / h` and the height `N / w`, each possibly one less where the
division is exact. -/
theorem codeSides_div (p : FramePreprocessor) (hW : 0 < p.targetWidth) (hH : 0 < p.targetHeight)
    {h w : Nat} (hw : w ≠ 0) (hh : h ≠ 0) (hsize : p.targetWidth * h < 2 ^ 51) :
    (((p.codeScale h w).mulNat w).trunc = min (p.targetWidth * h) (p.targetHeight * w) / h ∨
        ((p.codeScale h w).mulNat w).trunc + 1 = min (p.targetWidth * h) (p.targetHeight * w) / h ∧ min (p.targetWidth * h) (p.targetHeight * w) % h = 0) ∧
      (((p.codeScale h w).mulNat h).trunc = min (p.targetWidth * h) (p.targetHeight * w) / w ∨
        ((p.codeScale h w).mulNat h).trunc + 1 = min (p.targetWidth * h) (p.targetHeight * w) / w ∧ min (p.targetWidth * h) (p.targetHeight * w) % w = 0) := by
  have hs : 0 < min ((p.targetWidth : ℚ) / w) ((p.targetHeight : ℚ) / h) := lt_min (by positivity) (by positivity)
  have herr := Binary64.pyMin_error (Binary64.roundRatio_error hW (Nat.pos_of_ne_zero hw))
    (Binary64.roundRatio_error hH (Nat.pos_of_ne_zero hh))
  obtain ⟨hsw, hsh⟩ := side_mul_scale_eq (W := p.targetWidth) (H := p.targetHeight) hw hh
  have hN : min (p.targetWidth * h) (p.targetHeight * w) < 2 ^ 51 := (min_le_left _ _).trans_lt hsize
  exact ⟨trunc_mulNat_of_near hs herr (Nat.pos_of_ne_zero hw) (Nat.pos_of_ne_zero hh) hN hsw,
    trunc_mulNat_of_near hs herr (Nat.pos_of_ne_zero hh) (Nat.pos_of_ne_zero hw) hN hsh⟩

/-- **The code's letterbox against the exact one.** For a target with
non-zero sides and a frame with `W * h < 2⁵¹`, the code's scale lies
within a relative `2⁻⁵³` of `min(W / w, H / h)`, and each resized side
is the exact `⌊side * scale⌋`, or one less, and then `side * scale` is
an integer. -/
theorem codeSides_refine (p : FramePreprocessor) (hW : 0 < p.targetWidth) (hH : 0 < p.targetHeight)
    {h w : Nat} (hw : w ≠ 0) (hh : h ≠ 0) (hsize : p.targetWidth * h < 2 ^ 51) :
    |(p.codeScale h w).val - min ((p.targetWidth : ℚ) / w) ((p.targetHeight : ℚ) / h)| ≤ min ((p.targetWidth : ℚ) / w) ((p.targetHeight : ℚ) / h) / 2 ^ 53 ∧
      (((p.codeScale h w).mulNat w).trunc = ⌊(w : ℚ) * min ((p.targetWidth : ℚ) / w) ((p.targetHeight : ℚ) / h)⌋₊ ∨
        ((p.codeScale h w).mulNat w).trunc + 1 = ⌊(w : ℚ) * min ((p.targetWidth : ℚ) / w) ((p.targetHeight : ℚ) / h)⌋₊ ∧
          (w : ℚ) * min ((p.targetWidth : ℚ) / w) ((p.targetHeight : ℚ) / h) = ⌊(w : ℚ) * min ((p.targetWidth : ℚ) / w) ((p.targetHeight : ℚ) / h)⌋₊) ∧
      (((p.codeScale h w).mulNat h).trunc = ⌊(h : ℚ) * min ((p.targetWidth : ℚ) / w) ((p.targetHeight : ℚ) / h)⌋₊ ∨
        ((p.codeScale h w).mulNat h).trunc + 1 = ⌊(h : ℚ) * min ((p.targetWidth : ℚ) / w) ((p.targetHeight : ℚ) / h)⌋₊ ∧
          (h : ℚ) * min ((p.targetWidth : ℚ) / w) ((p.targetHeight : ℚ) / h) = ⌊(h : ℚ) * min ((p.targetWidth : ℚ) / w) ((p.targetHeight : ℚ) / h)⌋₊) := by
  obtain ⟨hsw, hsh⟩ := side_mul_scale_eq (W := p.targetWidth) (H := p.targetHeight) hw hh
  obtain ⟨hcw, hch⟩ := codeSides_div p hW hH hw hh hsize
  refine ⟨Binary64.pyMin_error (Binary64.roundRatio_error hW (Nat.pos_of_ne_zero hw))
    (Binary64.roundRatio_error hH (Nat.pos_of_ne_zero hh)), ?_, ?_⟩
  · rw [hsw, Nat.floor_div_eq_div]
    exact hcw.imp_right fun ⟨e, r⟩ => ⟨e, (Nat.cast_div (Nat.dvd_of_mod_eq_zero r) (by exact_mod_cast hh)).symm⟩
  · rw [hsh, Nat.floor_div_eq_div]
    exact hch.imp_right fun ⟨e, r⟩ => ⟨e, (Nat.cast_div (Nat.dvd_of_mod_eq_zero r) (by exact_mod_cast hw)).symm⟩

/-- A `77 × 77` frame at the default target: the exact width is `640`,
the code's `639`, as `77 * (640 / 77)` rounds to `639.9999999999999`. -/
theorem codeSides_refine_on_square_frame :
    ((({} : FramePreprocessor).codeScale 77 77).mulNat 77).trunc + 1 = 640 ∧
      (0 < 640 ∧ 0 < 640 ∧ 77 ≠ 0 ∧ 77 ≠ 0 ∧ 640 * 77 < 2 ^ 51) ∧
      (|(({} : FramePreprocessor).codeScale 77 77).val - min ((640 : ℕ) / (77 : ℕ) : ℚ) ((640 : ℕ) / (77 : ℕ))| ≤
          min ((640 : ℕ) / (77 : ℕ) : ℚ) ((640 : ℕ) / (77 : ℕ)) / 2 ^ 53 ∧
        (((({} : FramePreprocessor).codeScale 77 77).mulNat 77).trunc =
            ⌊((77 : ℕ) : ℚ) * min ((640 : ℕ) / (77 : ℕ) : ℚ) ((640 : ℕ) / (77 : ℕ))⌋₊ ∨
          ((({} : FramePreprocessor).codeScale 77 77).mulNat 77).trunc + 1 =
              ⌊((77 : ℕ) : ℚ) * min ((640 : ℕ) / (77 : ℕ) : ℚ) ((640 : ℕ) / (77 : ℕ))⌋₊ ∧
            ((77 : ℕ) : ℚ) * min ((640 : ℕ) / (77 : ℕ) : ℚ) ((640 : ℕ) / (77 : ℕ)) =
              ⌊((77 : ℕ) : ℚ) * min ((640 : ℕ) / (77 : ℕ) : ℚ) ((640 : ℕ) / (77 : ℕ))⌋₊) ∧
        (((({} : FramePreprocessor).codeScale 77 77).mulNat 77).trunc =
            ⌊((77 : ℕ) : ℚ) * min ((640 : ℕ) / (77 : ℕ) : ℚ) ((640 : ℕ) / (77 : ℕ))⌋₊ ∨
          ((({} : FramePreprocessor).codeScale 77 77).mulNat 77).trunc + 1 =
              ⌊((77 : ℕ) : ℚ) * min ((640 : ℕ) / (77 : ℕ) : ℚ) ((640 : ℕ) / (77 : ℕ))⌋₊ ∧
            ((77 : ℕ) : ℚ) * min ((640 : ℕ) / (77 : ℕ) : ℚ) ((640 : ℕ) / (77 : ℕ)) =
              ⌊((77 : ℕ) : ℚ) * min ((640 : ℕ) / (77 : ℕ) : ℚ) ((640 : ℕ) / (77 : ℕ))⌋₊)) :=
  ⟨by decide, by norm_num,
    codeSides_refine {} (by decide) (by decide) (h := 77) (w := 77) (by decide) (by decide) (by norm_num)⟩

/-- What the code's geometry raises: `emptyResize` exactly when the frame
is non-empty and a truncated side is `0`. -/
theorem codeLetterbox_eq_emptyResize_iff (p : FramePreprocessor) (h w : Nat) :
    p.codeLetterbox h w = .error .emptyResize ↔
      w ≠ 0 ∧ h ≠ 0 ∧ (((p.codeScale h w).mulNat w).trunc = 0 ∨ ((p.codeScale h w).mulNat h).trunc = 0) := by
  unfold FramePreprocessor.codeLetterbox
  by_cases h0 : w = 0 ∨ h = 0
  · rw [if_pos h0]
    simp only [Except.error.injEq, reduceCtorEq, false_iff]
    tauto
  · rw [if_neg h0]
    obtain ⟨hw, hh⟩ := not_or.mp h0
    dsimp only
    split
    · rename_i hz
      exact iff_of_true rfl ⟨hw, hh, hz⟩
    · rename_i hz
      exact iff_of_false (by simp) fun ⟨_, _, h'⟩ => hz h'

/-- Where both truncated sides are non-zero the code's geometry returns
them. -/
theorem codeLetterbox_ok {p : FramePreprocessor} {h w : Nat} (hw : w ≠ 0) (hh : h ≠ 0)
    (hW : ((p.codeScale h w).mulNat w).trunc ≠ 0) (hH : ((p.codeScale h w).mulNat h).trunc ≠ 0) :
    ∃ lb, p.codeLetterbox h w = .ok lb ∧ lb.newWidth = ((p.codeScale h w).mulNat w).trunc ∧
      lb.newHeight = ((p.codeScale h w).mulNat h).trunc := by
  unfold FramePreprocessor.codeLetterbox
  rw [if_neg (not_or.mpr ⟨hw, hh⟩)]
  dsimp only
  rw [dif_neg (not_or.mpr ⟨hW, hH⟩)]
  exact ⟨_, rfl, rfl, rfl⟩

/-- **What the code's `preprocess` rejects besides empty frames.** For a
target with both sides at least `2` and a frame with non-zero sides and
`W * h < 2⁵¹`: a frame with `H * w < h` or `W * h < w` is rejected, and
a rejected frame has `H * w ≤ h` or `W * h ≤ w`. -/
theorem codeLetterbox_emptyResize (p : FramePreprocessor) (hW : 2 ≤ p.targetWidth) (hH : 2 ≤ p.targetHeight)
    {h w : Nat} (hw : w ≠ 0) (hh : h ≠ 0) (hsize : p.targetWidth * h < 2 ^ 51) :
    (p.targetHeight * w < h ∨ p.targetWidth * h < w → p.codeLetterbox h w = .error .emptyResize) ∧
      (p.codeLetterbox h w = .error .emptyResize → p.targetHeight * w ≤ h ∨ p.targetWidth * h ≤ w) := by
  rw [codeLetterbox_eq_emptyResize_iff]
  obtain ⟨hcw, hch⟩ := codeSides_div p (by omega) (by omega) hw hh hsize
  constructor
  · rintro (hc | hc)
    · have : min (p.targetWidth * h) (p.targetHeight * w) / h = 0 := Nat.div_eq_of_lt ((min_le_right _ _).trans_lt hc)
      exact ⟨hw, hh, .inl (by rcases hcw with e | ⟨e, -⟩ <;> omega)⟩
    · have : min (p.targetWidth * h) (p.targetHeight * w) / w = 0 := Nat.div_eq_of_lt ((min_le_left _ _).trans_lt hc)
      exact ⟨hw, hh, .inr (by rcases hch with e | ⟨e, -⟩ <;> omega)⟩
  · rintro ⟨-, -, hz⟩
    by_contra hc
    push_neg at hc
    -- both exact sides exceed `1`, so neither truncated side is `0`
    have h1 : h < min (p.targetWidth * h) (p.targetHeight * w) := lt_min (by have := Nat.mul_le_mul_right h hW; omega) hc.1
    have h2 : w < min (p.targetWidth * h) (p.targetHeight * w) := lt_min hc.2 (by have := Nat.mul_le_mul_right w hH; omega)
    have d1 := Nat.div_pos h1.le (Nat.pos_of_ne_zero hh)
    have d2 := Nat.div_pos h2.le (Nat.pos_of_ne_zero hw)
    rcases hcw with e1 | ⟨e1, r1⟩
    · rcases hch with e2 | ⟨e2, r2⟩
      · omega
      · have := two_le_div_of_mod_eq_zero r2 h2
        omega
    · have := two_le_div_of_mod_eq_zero r1 h1
      rcases hch with e2 | ⟨e2, r2⟩
      · omega
      · have := two_le_div_of_mod_eq_zero r2 h2
        omega

theorem codeLetterbox_emptyResize_on_thin_frame :
    (2 ≤ 640 ∧ 2 ≤ 640 ∧ 1 ≠ 0 ∧ 1000 ≠ 0 ∧ 640 * 1000 < 2 ^ 51) ∧
      ((640 * 1 < 1000 ∨ 640 * 1000 < 1 →
          ({} : FramePreprocessor).codeLetterbox 1000 1 = .error .emptyResize) ∧
        (({} : FramePreprocessor).codeLetterbox 1000 1 = .error .emptyResize →
          640 * 1 ≤ 1000 ∨ 640 * 1000 ≤ 1)) :=
  ⟨by norm_num, codeLetterbox_emptyResize {} (by decide) (by decide) (h := 1000) (w := 1) (by decide)
    (by decide) (by norm_num)⟩

/-- On the boundary both outcomes occur. A `49 × 31360` frame fits the
`640 × 640` target exactly in height (`640 * 49 = 31360`): the exact
geometry accepts it, but `49 * (640 / 31360)` rounds to
`0.9999999999999999`, `int()` makes the width `0` and the code rejects
it. A `1 × 640` frame on the same boundary passes with width `1`. -/
theorem codeLetterbox_boundary :
    640 * 49 = 31360 ∧ ({} : FramePreprocessor).codeLetterbox 31360 49 = .error .emptyResize ∧
      ({} : FramePreprocessor).letterbox 31360 49 ≠ .error .emptyResize ∧
      640 * 1 = 640 ∧ ∃ lb, ({} : FramePreprocessor).codeLetterbox 640 1 = .ok lb ∧ lb.newWidth = 1 := by
  refine ⟨rfl, (codeLetterbox_eq_emptyResize_iff {} 31360 49).mpr ⟨by decide, by decide, .inl (by decide)⟩,
    (letterbox_emptyResize_iff {} (by decide) (by decide) 31360 49).not.mpr (by decide), rfl, ?_⟩
  obtain ⟨lb, hlb, hw, -⟩ := codeLetterbox_ok (p := {}) (h := 640) (w := 1) (by decide) (by decide)
    (by decide) (by decide)
  exact ⟨lb, hlb, hw.trans (by decide)⟩

/-! ## What preprocessing hands over and decoding keeps -/

/-- What a returning `preprocess` hands over: the scale and the offsets
of the frame's letterbox. -/
theorem preprocess_ok {p : FramePreprocessor} {resize : Frame → Nat → Nat → Nat → Nat → Fin 3 → Nat}
    {frame : Frame} {t : Tensor} {scale : ℚ} {pad : Int × Int}
    (h : p.preprocess resize frame = .ok (t, scale, pad)) :
    ∃ lb, p.letterbox frame.height frame.width = .ok lb ∧ scale = lb.scale ∧ pad = (lb.padX, lb.padY) := by
  unfold FramePreprocessor.preprocess at h
  cases hl : p.letterbox frame.height frame.width with
  | error e => rw [hl] at h; cases h
  | ok lb =>
    rw [hl] at h
    cases h
    exact ⟨lb, rfl, rfl, rfl⟩

/-- The scale `process_output` divides by is positive. -/
theorem preprocess_scale_pos {p : FramePreprocessor}
    {resize : Frame → Nat → Nat → Nat → Nat → Fin 3 → Nat} {frame : Frame} {t : Tensor} {scale : ℚ}
    {pad : Int × Int} (h : p.preprocess resize frame = .ok (t, scale, pad)) : 0 < scale := by
  obtain ⟨lb, -, rfl, -⟩ := preprocess_ok h
  exact lb.scale_pos

/-- The boxes a post-processor emits: at its threshold or above, named
by their class. -/
def PostProcessor.Emits (pp : PostProcessor) (b : BoundingBox) : Prop :=
  pp.confidenceThreshold ≤ b.confidence ∧ b.className = pp.className b.classId

theorem clip_mem (v : ℚ) (bound : Nat) : 0 ≤ clip v bound ∧ clip v bound ≤ bound :=
  ⟨le_max_left _ _, max_le (Nat.cast_nonneg _) (min_le_right _ _)⟩

/-- Every row the decode loop keeps becomes a box inside the frame, at
the threshold or above. -/
theorem PostProcessor.decodeDetection_sound {pp : PostProcessor} {scale : ℚ} {hs : 0 < scale}
    {padding : ℚ × ℚ} {shape : Nat × Nat} {d : Detection} {b : BoundingBox}
    (hd : pp.decodeDetection scale hs padding shape d = some b) :
    b.InFrame shape.1 shape.2 ∧ pp.Emits b := by
  unfold PostProcessor.decodeDetection at hd
  dsimp only at hd
  split_ifs at hd with hc hbad
  cases hd
  obtain ⟨hx1, -⟩ := clip_mem (((d.xCenter - d.width / 2) * 640 - padding.1) / scale) shape.2
  obtain ⟨-, hx2⟩ := clip_mem (((d.xCenter + d.width / 2) * 640 - padding.1) / scale) shape.2
  obtain ⟨hy1, -⟩ := clip_mem (((d.yCenter - d.height / 2) * 640 - padding.2) / scale) shape.1
  obtain ⟨-, hy2⟩ := clip_mem (((d.yCenter + d.height / 2) * 640 - padding.2) / scale) shape.1
  obtain ⟨hx, hy⟩ := not_or.mp hbad
  exact ⟨⟨hx1, not_le.mp hx, hx2, hy1, not_le.mp hy, hy2⟩, not_lt.mp hc, rfl⟩

theorem PostProcessor.decodeLoop_sound {pp : PostProcessor} {scale : ℚ} {hs : 0 < scale}
    {padding : ℚ × ℚ} {shape : Nat × Nat} {rows : List Detection} {b : BoundingBox}
    (hb : b ∈ pp.decodeLoop scale hs padding shape rows) : b.InFrame shape.1 shape.2 ∧ pp.Emits b := by
  obtain ⟨d, -, hd⟩ := List.mem_filterMap.mp hb
  exact PostProcessor.decodeDetection_sound hd

end ViewGuard
