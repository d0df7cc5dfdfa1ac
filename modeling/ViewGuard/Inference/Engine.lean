import ViewGuard.Inference.Nms
import ViewGuard.Inference.Statistics
import ViewGuard.Loader.Load

/-!
# Inference — the engine

`InferenceEngine.infer` and `infer_batch` of `ai_service/inference.py`:
`infer` reads the loader's compiled model and model info, letterboxes the
frame, runs the compiled model on the tensor, decodes its rows and applies
NMS in `process_output`, and only then adds its time to the statistics.
`infer_batch` calls `infer` frame by frame.

The compiled model, `cv2.resize` and `cv2.dnn.NMSBoxes` are opaque
(`InferWorld`). OpenCV's presence is `InferWorld.cv2`: `preprocess` tests
it first, so a missing OpenCV raises there, and neither the second test
in `process_output` nor `_simple_nms` is reached from `infer`.

Main results:

* **`InferenceEngine.infer_sound`**: whatever the model outputs and
  whatever `NMSBoxes` selects, every box `infer` returns lies inside the
  frame with its corners in order, at the engine's confidence threshold
  or above, named by its class; a returning call counts once.
* **`infer_not_loaded_iff`**: after any sequence of `load_model` and
  `reload_model` calls on a fresh loader, `infer` raises one of its two
  "Model not loaded" errors exactly when none of the calls returned.
* **`InferenceEngine.inferBatch_eq`**: a batch answers as its frames do
  one by one, stopping at the first that raises, and the statistics count
  exactly the frames before it.
-/

namespace ViewGuard

open Statistics (Stats)

/-- What `infer` raises: the `RuntimeError`s of `infer`, `preprocess`
and `process_output`, and what the letterbox step raises. -/
inductive InferenceError
  | runtimeError (msg : String)
  | preprocess (e : PreprocessError)
  deriving DecidableEq, Repr

/-- What `infer` reads besides the loader and the frame: `cv2.resize`,
`cv2.dnn.NMSBoxes` when OpenCV imports, and the compiled model as a
function from the input tensor to the rows of its first output. -/
structure InferWorld (Compiled : Type) where
  resize : Frame → Nat → Nat → Nat → Nat → Fin 3 → Nat
  cv2 : Option (List (ℚ × ℚ × ℚ × ℚ) → List ℚ → ℚ → ℚ → List Nat)
  run : Compiled → Tensor → List Detection

variable {Compiled : Type}

/-! ## The calls -/

/-- From the frame to the boxes: `preprocess` (whose first test is
`CV2_AVAILABLE`), the compiled model, `process_output`. -/
def InferenceEngine.detect (e : InferenceEngine) (w : InferWorld Compiled) (compiled : Compiled)
    (frame : Frame) : Except InferenceError (List BoundingBox) :=
  match w.cv2 with
  | none => .error (.runtimeError "OpenCV not available for preprocessing")
  | some _ =>
    match hpre : e.preprocessor.preprocess w.resize frame with
    | .error err => .error (.preprocess err)
    | .ok (tensor, scale, padX, padY) =>
      match e.postprocessor.processOutput w.cv2 scale (preprocess_scale_pos hpre)
          ((padX : ℚ), (padY : ℚ)) (frame.height, frame.width) (w.run compiled tensor) with
      | .error msg => .error (.runtimeError msg)
      | .ok boxes => .ok boxes

/-- What `infer(frame)` returns or raises, `elapsedMs` being the time it
measures. -/
def InferenceEngine.result (e : InferenceEngine) (w : InferWorld Compiled) (s : LoaderState Compiled)
    (elapsedMs : ℚ) (frame : Frame) : Except InferenceError DetectionResult :=
  match s.compiledModel with
  | none => .error (.runtimeError "Model not loaded. Call model_loader.load_model() first.")
  | some compiled =>
    match s.currentModel with
    | none => .error (.runtimeError "Model not loaded")
    | some _ =>
      match e.detect w compiled frame with
      | .error err => .error err
      | .ok boxes => .ok ⟨boxes, elapsedMs, (frame.height, frame.width), e.targetSize⟩

/-- `infer(frame)`: the result, and the two `+=` once nothing more can
raise. -/
def InferenceEngine.infer (e : InferenceEngine) (w : InferWorld Compiled) (s : LoaderState Compiled)
    (elapsedMs : ℚ) (stats : Stats) (frame : Frame) : Except InferenceError DetectionResult × Stats :=
  match e.result w s elapsedMs frame with
  | .ok r => (.ok r, stats.record elapsedMs)
  | .error err => (.error err, stats)

/-- `infer_batch(frames)`, each frame with the time its `infer`
measures: the first frame that raises ends the loop. -/
def InferenceEngine.inferBatch (e : InferenceEngine) (w : InferWorld Compiled)
    (s : LoaderState Compiled) : Stats → List (Frame × ℚ) →
      Except InferenceError (List DetectionResult) × Stats
  | stats, [] => (.ok [], stats)
  | stats, (frame, elapsedMs) :: rest =>
    match e.infer w s elapsedMs stats frame with
    | (.error err, stats) => (.error err, stats)
    | (.ok r, stats) =>
      match e.inferBatch w s stats rest with
      | (.error err, stats) => (.error err, stats)
      | (.ok rs, stats) => (.ok (r :: rs), stats)

/-! ## One call -/

variable (e : InferenceEngine) (w : InferWorld Compiled)

theorem InferenceEngine.infer_eq (s : LoaderState Compiled) (t : ℚ) (stats : Stats) (frame : Frame) :
    e.infer w s t stats frame =
      (e.result w s t frame, if (e.result w s t frame).isOk then stats.record t else stats) := by
  unfold InferenceEngine.infer
  split <;> rename_i h <;> rw [h] <;> rfl

/-- Everything `detect` can raise: OpenCV missing, or the letterbox
step. The test in `process_output` never fires, as `preprocess` has
already passed it. -/
theorem InferenceEngine.detect_error {compiled : Compiled} {frame : Frame} {err : InferenceError}
    (h : e.detect w compiled frame = .error err) :
    err = .runtimeError "OpenCV not available for preprocessing" ∨ ∃ pe, err = .preprocess pe := by
  unfold InferenceEngine.detect at h
  split at h
  · cases h
    exact .inl rfl
  · rename_i nms hcv2
    split at h
    · cases h
      exact .inr ⟨_, rfl⟩
    · split at h
      · rename_i hout
        simp only [PostProcessor.processOutput, hcv2] at hout
        cases hout
      · cases h

/-- Every box `detect` returns is inside the frame and emitted by the
engine's post-processor. -/
theorem InferenceEngine.detect_sound {compiled : Compiled} {frame : Frame} {boxes : List BoundingBox}
    (h : e.detect w compiled frame = .ok boxes) :
    ∀ b ∈ boxes, b.InFrame frame.height frame.width ∧ e.postprocessor.Emits b := by
  unfold InferenceEngine.detect at h
  split at h
  · cases h
  · split at h
    · cases h
    · split at h
      · cases h
      · rename_i hout
        cases h
        exact PostProcessor.processOutput_sound hout

/-- What a returning `infer` hands back: the frame's shape, the input
shape, the measured time, and boxes from `detect`. -/
theorem InferenceEngine.result_ok {s : LoaderState Compiled} {t : ℚ} {frame : Frame}
    {r : DetectionResult} (h : e.result w s t frame = .ok r) :
    ∃ compiled info, s.compiledModel = some compiled ∧ s.currentModel = some info ∧
      e.detect w compiled frame = .ok r.boundingBoxes ∧ r.inferenceTimeMs = t ∧
      r.frameShape = (frame.height, frame.width) ∧ r.modelInputShape = e.targetSize := by
  unfold InferenceEngine.result at h
  split at h
  · cases h
  · rename_i compiled hc
    split at h
    · cases h
    · rename_i info hi
      split at h
      · cases h
      · rename_i boxes hd
        cases h
        exact ⟨compiled, info, hc, hi, hd, rfl, rfl, rfl⟩

/-- **What `infer` returns.** For every loader state, frame, model output
and `NMSBoxes` selection: a returning `infer` reports the frame's shape,
the input shape and its measured time, every box it returns lies inside
the frame with its corners in order, at the engine's confidence threshold
or above and named by its class, and the call is counted once. -/
theorem InferenceEngine.infer_sound (s : LoaderState Compiled) (t : ℚ) (stats : Stats)
    (frame : Frame) {r : DetectionResult} (h : (e.infer w s t stats frame).1 = .ok r) :
    r.frameShape = (frame.height, frame.width) ∧ r.modelInputShape = e.targetSize ∧
      r.inferenceTimeMs = t ∧ (e.infer w s t stats frame).2 = stats.record t ∧
      ∀ b ∈ r.boundingBoxes, b.InFrame frame.height frame.width ∧
        e.confidenceThreshold ≤ b.confidence ∧ b.className = e.postprocessor.className b.classId := by
  rw [InferenceEngine.infer_eq] at h ⊢
  dsimp only at h ⊢
  obtain ⟨compiled, info, -, -, hd, ht, hf, hm⟩ := e.result_ok w h
  exact ⟨hf, hm, ht, by simp [h, Except.isOk, Except.toBool], e.detect_sound w hd⟩

/-- A `640 × 640` black frame. -/
def blankFrame : Frame := ⟨640, 640, fun _ _ _ => 0⟩

/-- OpenCV present, `NMSBoxes` selecting nothing, and a model that finds
nothing. -/
def emptyWorld : InferWorld Unit :=
  { resize := fun _ _ _ _ _ _ => 0, cv2 := some fun _ _ _ _ => [], run := fun _ _ => [] }

/-- A loader that has loaded `yolov8n`. -/
def loadedState : LoaderState Unit :=
  { currentModel := some ⟨"yolov8n", "1", "openvino", "yolov8n.xml", none, none, none, none, none⟩,
    compiledModel := some () }

theorem InferenceEngine.detect_blankFrame :
    ({} : InferenceEngine).detect emptyWorld () blankFrame = .ok [] := by
  obtain ⟨lb, hlb, -⟩ := letterbox_same_size 640 (by norm_num)
  unfold InferenceEngine.detect
  split
  · rename_i h
    cases h
  · split
    · rename_i err h
      simp only [InferenceEngine.preprocessor, FramePreprocessor.preprocess] at h
      rw [show blankFrame.height = 640 from rfl, show blankFrame.width = 640 from rfl, hlb] at h
      cases h
    · rfl

theorem infer_sound_on_blank_frame :
    (({} : InferenceEngine).infer emptyWorld loadedState 5 {} blankFrame).1 =
        .ok ⟨[], 5, (640, 640), (640, 640)⟩ ∧
      ((640, 640) = (blankFrame.height, blankFrame.width) ∧
        (640, 640) = ({} : InferenceEngine).targetSize ∧ (5 : ℚ) = 5 ∧
        (({} : InferenceEngine).infer emptyWorld loadedState 5 {} blankFrame).2 =
          ({} : Stats).record 5 ∧
        ∀ b ∈ ([] : List BoundingBox), b.InFrame blankFrame.height blankFrame.width ∧
          ({} : InferenceEngine).confidenceThreshold ≤ b.confidence ∧
          b.className = ({} : InferenceEngine).postprocessor.className b.classId) := by
  have hok : (({} : InferenceEngine).infer emptyWorld loadedState 5 {} blankFrame).1 =
      .ok ⟨[], 5, (640, 640), (640, 640)⟩ := by
    simp only [InferenceEngine.infer_eq, InferenceEngine.result, loadedState,
      InferenceEngine.detect_blankFrame]
    rfl
  exact ⟨hok, InferenceEngine.infer_sound {} emptyWorld loadedState 5 {} blankFrame hok⟩

/-! ## `infer` after the loader's calls -/

/-- `infer` raises one of its "Model not loaded" errors exactly when the
loader lacks a compiled model or a model info: `detect` raises neither. -/
theorem InferenceEngine.result_not_loaded_iff (s : LoaderState Compiled) (t : ℚ) (frame : Frame) :
    (e.result w s t frame = .error (.runtimeError "Model not loaded. Call model_loader.load_model() first.") ∨
      e.result w s t frame = .error (.runtimeError "Model not loaded")) ↔
      ¬ (s.compiledModel.isSome ∧ s.currentModel.isSome) := by
  unfold InferenceEngine.result
  cases hc : s.compiledModel with
  | none => simp
  | some compiled =>
    cases hi : s.currentModel with
    | none => simp
    | some info =>
      simp only [Option.isSome_some, and_self, not_true_eq_false, iff_false]
      split
      · rename_i err hd
        rcases e.detect_error w hd with rfl | ⟨pe, rfl⟩ <;> simp
      · simp

/-- **No model until a load returns.** After any sequence of
`load_model` and `reload_model` calls on a fresh loader, whatever each
call's files and engine do, `infer` raises one of its two "Model not
loaded" errors exactly when none of the calls returned a model. -/
theorem InferenceEngine.infer_not_loaded_iff {Model : Type} (L : Loader Model Compiled) (runtime : Bool)
    (calls : List (Call × CallEnv)) (t : ℚ) (stats : Stats) (frame : Frame) :
    ((e.infer w (L.stateAfter (.init runtime) calls) t stats frame).1 =
        .error (.runtimeError "Model not loaded. Call model_loader.load_model() first.") ∨
      (e.infer w (L.stateAfter (.init runtime) calls) t stats frame).1 =
        .error (.runtimeError "Model not loaded")) ↔
      ∀ o ∈ L.run (.init runtime) calls, o.result.toOption = none := by
  rw [InferenceEngine.infer_eq]
  dsimp only
  rw [InferenceEngine.result_not_loaded_iff]
  obtain ⟨hiff, hinv⟩ := L.stateAfter_currentModel (.init runtime) calls (by simp [LoaderState.init])
  simp only [LoaderState.init, Option.isSome_none, Bool.false_eq_true, false_or] at hiff
  constructor
  · intro hnot o ho
    by_contra hsome
    have hcur := hiff.mpr ⟨o, ho, Option.ne_none_iff_isSome.mp hsome⟩
    exact hnot ⟨hinv hcur, hcur⟩
  · rintro hnone ⟨-, hcur⟩
    obtain ⟨o, ho, hsome⟩ := hiff.mp hcur
    simp [hnone o ho] at hsome

/-! ## `infer_batch` -/

/-- **`infer_batch`.** A batch returns what its frames return one by one,
the first frame that raises raising for the whole batch, and counts
exactly the frames before that one, adding their times. -/
theorem InferenceEngine.inferBatch_eq (s : LoaderState Compiled) (stats : Stats)
    (frames : List (Frame × ℚ)) :
    (e.inferBatch w s stats frames).1 = frames.mapM (fun f => e.result w s f.2 f.1) ∧
      (e.inferBatch w s stats frames).2 =
        ⟨stats.count + (frames.takeWhile fun f => (e.result w s f.2 f.1).isOk).length,
          stats.total + ((frames.takeWhile fun f => (e.result w s f.2 f.1).isOk).map Prod.snd).sum⟩ := by
  induction frames generalizing stats with
  | nil => exact ⟨rfl, by simp [InferenceEngine.inferBatch]⟩
  | cons f rest ih =>
    obtain ⟨frame, t⟩ := f
    simp only [InferenceEngine.inferBatch, InferenceEngine.infer_eq, List.mapM_cons, List.takeWhile_cons]
    cases hr : e.result w s t frame with
    | error err =>
      have herr : (Except.error err : Except InferenceError DetectionResult).isOk = false := rfl
      exact ⟨rfl, by simp [herr]⟩
    | ok r =>
      have hok : (Except.ok r : Except InferenceError DetectionResult).isOk = true := rfl
      obtain ⟨h1, h2⟩ := ih (stats.record t)
      simp only [hok, if_true]
      generalize e.inferBatch w s (stats.record t) rest = b at h1 h2 ⊢
      obtain ⟨res, st⟩ := b
      dsimp only at h1 h2
      subst h2
      cases res <;> rw [← h1] <;>
        exact ⟨rfl, by simp [Statistics.Stats.record, add_assoc, Nat.add_comm 1]⟩

end ViewGuard
