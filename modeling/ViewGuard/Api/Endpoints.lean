import ViewGuard.Detection.Filter
import Mathlib.Tactic.NormNum

/-!
# Api — the inference endpoints over the shared filter

`setup_inference_endpoints` of `ai_service/api.py`: `/inference`,
`/inference/batch` and `/inference/file`, each a transition over the one
`DetectionLogic` the service shares between requests. Decoding and
`inference_engine.infer` are opaque and given per request as a `World`;
OpenCV is assumed importable.

The faithful layer is the three handlers and `run`, which threads the
filter through a sequence of requests. Over it, `Request.answer` says what
a request's response is under a fixed configuration, and `configAfter`
what configuration a sequence of requests leaves. **`handle_eq_answer`**
is the step lemma (a handler answers under its own overrides applied to
the configuration it found, and leaves them applied once its input has
decoded); **`run_answers`** lifts it to every sequence of requests.
-/

namespace ViewGuard.Api

/-- An exception out of `inference_engine.infer`, by the `except` clause
that catches it. -/
inductive InferError
  | valueError (msg : String)
  | runtimeError (msg : String)
  | other (msg : String)

/-- `HTTPException(status_code, detail)`. -/
structure HttpError where
  statusCode : Nat
  detail : String
  deriving DecidableEq

/-- The handlers' `except` clauses: `ValueError` is a 400, `RuntimeError`
a 500, anything else a 500 under the endpoint's own prefix. -/
def InferError.toHttp (failed : String) : InferError → HttpError
  | .valueError msg => ⟨400, msg⟩
  | .runtimeError msg => ⟨500, msg⟩
  | .other msg => ⟨500, failed ++ ": " ++ msg⟩

/-- What one request sees of the world: `base64.b64decode`, `cv2.imdecode`
(which returns an image or `None`, or raises, as on an empty buffer),
`inference_engine.infer`, and the clock of the batch endpoint. -/
structure World (Img : Type) where
  b64decode : String → Except String (List UInt8)
  imdecode : List UInt8 → Except String (Option Img)
  infer : Img → Except InferError DetectionResult
  elapsedMs : ℚ := 0

variable {Img : Type}

/-- `decode_image(image_data)`: every failure becomes a `ValueError`
under the prefix of the outer `except`, what `imdecode` raises and the
`None` it returns included. -/
def decodeImage (w : World Img) (imageData : String) : Except String Img :=
  match w.b64decode imageData with
  | .error e => .error ("Failed to decode image: " ++ e)
  | .ok bytes =>
    match w.imdecode bytes with
    | .error e => .error ("Failed to decode image: " ++ e)
    | .ok none => .error ("Failed to decode image: " ++ "Failed to decode image")
    | .ok (some image) => .ok image

/-- `InferenceResponse`; a `BoundingBoxResponse` copies the seven fields
of its `BoundingBox`, so the boxes are kept as they are. -/
structure InferenceResponse where
  boundingBoxes : List BoundingBox
  inferenceTimeMs : ℚ
  frameShape : List Nat
  modelInputShape : List Nat
  detectionCount : Nat

/-- The response each handler builds from a filtered result. -/
def InferenceResponse.ofResult (r : DetectionResult) : InferenceResponse :=
  { boundingBoxes := r.boundingBoxes
    inferenceTimeMs := r.inferenceTimeMs
    frameShape := [r.frameShape.1, r.frameShape.2]
    modelInputShape := [r.modelInputShape.1, r.modelInputShape.2]
    detectionCount := r.boundingBoxes.length }

/-- `BatchInferenceResponse`. -/
structure BatchInferenceResponse where
  results : List InferenceResponse
  totalInferenceTimeMs : ℚ
  averageInferenceTimeMs : ℚ

/-! ## Requests -/

/-- The override fields both request models carry. Pydantic's
`ge=0.0, le=1.0` rejects any other threshold before a handler runs, so
an out-of-range threshold cannot be built. -/
structure Overrides where
  confidenceThreshold : Option ℚ := none
  enabledClasses : Option (List String) := none
  threshold_valid : ∀ t ∈ confidenceThreshold, 0 ≤ t ∧ t ≤ 1 := by simp

/-- `InferenceRequest`. -/
structure InferenceRequest extends Overrides where
  image : String

/-- `BatchInferenceRequest`. -/
structure BatchInferenceRequest extends Overrides where
  images : List String

/-- The two `if ... is not None` blocks every override-taking handler runs
after decoding. -/
def applyOverrides (dl : DetectionLogic) (o : Overrides) : Except String DetectionLogic := do
  let dl ← match o.confidenceThreshold with
    | some threshold => dl.setConfidenceThreshold threshold
    | none => pure dl
  match o.enabledClasses with
  | some classes => pure (dl.setEnabledClasses (some classes))
  | none => pure dl

/-! ## The handlers -/

section Handlers

variable (w : World Img) (dl : DetectionLogic)

/-- The tail of `/inference` and `/inference/file`: infer, filter under
the configuration as it now is, respond. -/
def respond (frame : Img) : Except HttpError InferenceResponse :=
  match w.infer frame with
  | .error e => .error (e.toHttp "Inference failed")
  | .ok result => .ok (.ofResult (dl.filterDetections result))

/-- The tail of `/inference/batch`: `infer_batch` stops at the first
frame whose inference raises. -/
def respondBatch (frames : List Img) : Except HttpError BatchInferenceResponse :=
  match frames.mapM w.infer with
  | .error e => .error (e.toHttp "Batch inference failed")
  | .ok results => .ok
      { results := results.map fun r => .ofResult (dl.filterDetections r)
        totalInferenceTimeMs := w.elapsedMs
        averageInferenceTimeMs := if frames.isEmpty then 0 else w.elapsedMs / frames.length }

/-- `inference_endpoint(request)`, with the configuration it leaves. -/
def inferenceEndpoint (req : InferenceRequest) :
    Except HttpError InferenceResponse × DetectionLogic :=
  match decodeImage w req.image with
  | .error e => (.error ⟨400, e⟩, dl)
  | .ok frame =>
    match applyOverrides dl req.toOverrides with
    | .error e => (.error ⟨400, e⟩, dl)
    | .ok dl' => (respond w dl' frame, dl')

/-- `batch_inference_endpoint(request)`: every image is decoded before
the overrides are applied. -/
def batchInferenceEndpoint (req : BatchInferenceRequest) :
    Except HttpError BatchInferenceResponse × DetectionLogic :=
  match req.images.mapM (decodeImage w) with
  | .error e => (.error ⟨400, e⟩, dl)
  | .ok frames =>
    match applyOverrides dl req.toOverrides with
    | .error e => (.error ⟨400, e⟩, dl)
    | .ok dl' => (respondBatch w dl' frames, dl')

/-- `inference_file_endpoint(file)`: no overrides. What `imdecode` raises
is no `ValueError`, so the last `except` answers it. -/
def inferenceFileEndpoint (content : List UInt8) :
    Except HttpError InferenceResponse × DetectionLogic :=
  match w.imdecode content with
  | .error e => (.error ⟨500, "Inference failed: " ++ e⟩, dl)
  | .ok none => (.error ⟨400, "Failed to decode uploaded image"⟩, dl)
  | .ok (some frame) => (respond w dl frame, dl)

end Handlers

/-- A request to one of the three endpoints. -/
inductive Request
  | inference (req : InferenceRequest)
  | batch (req : BatchInferenceRequest)
  | file (content : List UInt8)

/-- A response body or the `HTTPException` raised instead. -/
inductive Response
  | single (r : Except HttpError InferenceResponse)
  | batch (r : Except HttpError BatchInferenceResponse)

/-- Dispatch one request to its endpoint. -/
def handle (w : World Img) (dl : DetectionLogic) : Request → Response × DetectionLogic
  | .inference req => let r := inferenceEndpoint w dl req; (.single r.1, r.2)
  | .batch req => let r := batchInferenceEndpoint w dl req; (.batch r.1, r.2)
  | .file content => let r := inferenceFileEndpoint w dl content; (.single r.1, r.2)

/-- Serve requests one after another on the shared `DetectionLogic`: the
responses, and the configuration left at the end. -/
def run (dl : DetectionLogic) : List (Request × World Img) → List Response × DetectionLogic
  | [] => ([], dl)
  | c :: rest =>
    let step := handle c.2 dl c.1
    let after := run step.2 rest
    (step.1 :: after.1, after.2)

/-! ## What a request is answered under -/

/-- The overrides a request carries; `/inference/file` carries none. -/
def Request.overrides : Request → Overrides
  | .inference req => req.toOverrides
  | .batch req => req.toOverrides
  | .file _ => {}

/-- The configuration with the given overrides in force. -/
def Overrides.apply (o : Overrides) (dl : DetectionLogic) : DetectionLogic :=
  { filter := { dl.filter with
      minConfidence := o.confidenceThreshold.getD dl.filter.minConfidence
      enabledClasses := match o.enabledClasses with
        | some classes => some classes.toFinset
        | none => dl.filter.enabledClasses } }

/-- Whether a request's input gets past decoding. -/
def Request.decodes (w : World Img) : Request → Bool
  | .inference req => (decodeImage w req.image).isOk
  | .batch req => (req.images.mapM (decodeImage w)).isOk
  | .file content =>
    match w.imdecode content with
    | .ok (some _) => true
    | _ => false

/-- The response to a request answered under the configuration `dl`,
with no configuration step: decode, infer, filter. -/
def Request.answer (w : World Img) (dl : DetectionLogic) : Request → Response
  | .inference req => .single <|
    match decodeImage w req.image with
    | .error e => .error ⟨400, e⟩
    | .ok frame => respond w dl frame
  | .batch req => .batch <|
    match req.images.mapM (decodeImage w) with
    | .error e => .error ⟨400, e⟩
    | .ok frames => respondBatch w dl frames
  | .file content => .single <|
    match w.imdecode content with
    | .error e => .error ⟨500, "Inference failed: " ++ e⟩
    | .ok none => .error ⟨400, "Failed to decode uploaded image"⟩
    | .ok (some frame) => respond w dl frame

/-- The configuration a request leaves: its overrides, once its input has
decoded, whatever inference then does. -/
def Request.leaves (w : World Img) (dl : DetectionLogic) (req : Request) : DetectionLogic :=
  if req.decodes w then req.overrides.apply dl else dl

/-- The configuration a sequence of requests leaves. -/
def configAfter (dl : DetectionLogic) (calls : List (Request × World Img)) : DetectionLogic :=
  calls.foldl (fun dl c => c.1.leaves c.2 dl) dl

/-! ## Step and run lemmas -/

/-- Pydantic's range check is what keeps `set_confidence_threshold` from
raising inside a handler. -/
theorem applyOverrides_eq (dl : DetectionLogic) (o : Overrides) :
    applyOverrides dl o = .ok (o.apply dl) := by
  obtain ⟨threshold, classes, hvalid⟩ := o
  cases threshold with
  | none => cases classes <;> rfl
  | some t =>
    obtain ⟨h0, h1⟩ := hvalid t rfl
    cases classes <;>
      simp [applyOverrides, DetectionLogic.setConfidenceThreshold_ok h0 h1,
        DetectionLogic.setEnabledClasses, Overrides.apply, bind, Except.bind, pure, Except.pure]

@[simp]
theorem Overrides.apply_empty (dl : DetectionLogic) : ({} : Overrides).apply dl = dl := rfl

/-- **Step lemma.** Each handler answers under its own overrides applied
to the configuration it found, and leaves them in force exactly when its
input decoded. -/
theorem handle_eq_answer (w : World Img) (dl : DetectionLogic) (req : Request) :
    handle w dl req = (req.answer w (req.overrides.apply dl), req.leaves w dl) := by
  cases req with
  | inference req =>
    simp only [handle, inferenceEndpoint, Request.answer, Request.leaves, Request.decodes,
      Request.overrides, applyOverrides_eq]
    split <;> simp_all [Except.isOk, Except.toBool]
  | batch req =>
    simp only [handle, batchInferenceEndpoint, Request.answer, Request.leaves, Request.decodes,
      Request.overrides, applyOverrides_eq]
    split <;> simp_all [Except.isOk, Except.toBool]
  | file content =>
    simp only [handle, inferenceFileEndpoint, Request.answer, Request.leaves, Request.overrides,
      Overrides.apply_empty, ite_self]
    split <;> rfl

theorem run_config (dl : DetectionLogic) (calls : List (Request × World Img)) :
    (run dl calls).2 = configAfter dl calls := by
  induction calls generalizing dl with
  | nil => rfl
  | cons c rest ih => simp only [run, handle_eq_answer, ih]; rfl

theorem run_response (dl : DetectionLogic) (calls : List (Request × World Img)) (k : Nat) :
    (run dl calls).1[k]? =
      calls[k]?.map (fun c => c.1.answer c.2 (c.1.overrides.apply (configAfter dl (calls.take k)))) := by
  induction calls generalizing dl k with
  | nil => rfl
  | cons c rest ih =>
    simp only [run, handle_eq_answer]
    cases k with
    | zero => simp [configAfter]
    | succ k => simpa [configAfter] using ih (c.1.leaves c.2 dl) k

/-- **Run lemma.** Over any sequence of requests, the `k`-th response is
the `k`-th request answered under its own overrides applied to what the
requests before it left, and the run ends in `configAfter`. -/
theorem run_answers (dl : DetectionLogic) (calls : List (Request × World Img)) (k : Nat) :
    (run dl calls).1[k]? =
        calls[k]?.map (fun c => c.1.answer c.2 (c.1.overrides.apply (configAfter dl (calls.take k))))
      ∧ (run dl calls).2 = configAfter dl calls :=
  ⟨run_response dl calls k, run_config dl calls⟩

/-! ## An earlier request's override reaches a later one -/

/-- A person at confidence `7/10`: kept by the default threshold. -/
def personBox : BoundingBox :=
  { x1 := 0, y1 := 0, x2 := 10, y2 := 10, confidence := 7 / 10, classId := 0, className := "person" }

def personResult : DetectionResult :=
  { boundingBoxes := [personBox], inferenceTimeMs := 0, frameShape := (10, 10),
    modelInputShape := (640, 640) }

/-- Every image decodes and inference finds `personResult`. -/
def personWorld : World Unit :=
  { b64decode := fun _ => .ok [], imdecode := fun _ => .ok (some ()), infer := fun _ => .ok personResult }

/-- Every image decodes and inference raises, as with no model loaded. -/
def unloadedWorld : World Unit :=
  { b64decode := fun _ => .ok [], imdecode := fun _ => .ok (some ()),
    infer := fun _ => .error (.runtimeError "Model not loaded") }

def strictRequest : InferenceRequest :=
  { image := "", confidenceThreshold := some (9 / 10), threshold_valid := by norm_num }

def plainRequest : InferenceRequest := { image := "" }

theorem earlier_override_reaches_later_request :
    (run {} [(.inference strictRequest, personWorld), (.inference plainRequest, personWorld)]).1[1]? =
        some (.single (.ok
          { boundingBoxes := [], inferenceTimeMs := 0, frameShape := [10, 10],
            modelInputShape := [640, 640], detectionCount := 0 })) ∧
      (run {} [(.inference plainRequest, personWorld), (.inference plainRequest, personWorld)]).1[1]? =
        some (.single (.ok (.ofResult personResult))) ∧
      (run {} [(.inference strictRequest, unloadedWorld)]).2.filter.minConfidence = 9 / 10 := by
  refine ⟨?_, ?_, ?_⟩ <;>
    norm_num [run, handle_eq_answer, Request.answer, Request.leaves, Request.decodes, Request.overrides,
      Except.isOk, Except.toBool,
      decodeImage, respond, Overrides.apply, strictRequest, plainRequest, personWorld, unloadedWorld,
      DetectionLogic.filterDetections, DetectionFilter.keeps, DetectionFilter.classEnabled,
      BoundingBox.area, personResult, personBox,
      InferenceResponse.ofResult]

/-! ## An image `cv2.imdecode` cannot take -/

/-- Whether a request sets both the threshold and the classes. -/
def Overrides.full (o : Overrides) : Bool := o.confidenceThreshold.isSome && o.enabledClasses.isSome

/-- No request changes the area bounds. -/
theorem Request.leaves_area (w : World Img) (dl : DetectionLogic) (req : Request) :
    (req.leaves w dl).filter.minArea = dl.filter.minArea ∧
      (req.leaves w dl).filter.maxArea = dl.filter.maxArea := by
  unfold Request.leaves
  split_ifs <;> exact ⟨rfl, rfl⟩

theorem configAfter_area (dl : DetectionLogic) (calls : List (Request × World Img)) :
    (configAfter dl calls).filter.minArea = dl.filter.minArea ∧
      (configAfter dl calls).filter.maxArea = dl.filter.maxArea := by
  induction calls generalizing dl with
  | nil => exact ⟨rfl, rfl⟩
  | cons c rest ih =>
    obtain ⟨hmin, hmax⟩ := ih (c.1.leaves c.2 dl)
    obtain ⟨hmin', hmax'⟩ := c.1.leaves_area c.2 dl
    exact ⟨hmin.trans hmin', hmax.trans hmax'⟩

theorem Overrides.apply_full {o : Overrides} (h : o.full) {dl dl' : DetectionLogic}
    (hmin : dl.filter.minArea = dl'.filter.minArea) (hmax : dl.filter.maxArea = dl'.filter.maxArea) :
    o.apply dl = o.apply dl' := by
  obtain ⟨threshold, classes, _⟩ := o
  obtain ⟨t, rfl⟩ := Option.isSome_iff_exists.mp (Bool.and_eq_true_iff.mp h).1
  obtain ⟨cs, rfl⟩ := Option.isSome_iff_exists.mp (Bool.and_eq_true_iff.mp h).2
  simp [Overrides.apply, hmin, hmax]

/-- A request that sets both overrides is answered as the first request
of a fresh service would be, whatever came before it. -/
theorem full_override_isolated (dl : DetectionLogic) (calls : List (Request × World Img)) (k : Nat)
    (c : Request × World Img) (hc : calls[k]? = some c) (hfull : c.1.overrides.full) :
    (run dl calls).1[k]? = some (c.1.answer c.2 (c.1.overrides.apply dl)) := by
  obtain ⟨hmin, hmax⟩ := configAfter_area dl (calls.take k)
  rw [run_response, hc, Option.map_some', Overrides.apply_full hfull hmin hmax]

def fullRequest : InferenceRequest :=
  { image := "", confidenceThreshold := some (1 / 2), enabledClasses := some ["person"],
    threshold_valid := by norm_num }

theorem full_override_isolated_after_strict :
    [(Request.inference strictRequest, personWorld), (.inference fullRequest, personWorld)][1]? =
        some (.inference fullRequest, personWorld) ∧
      (Request.inference fullRequest).overrides.full ∧
      (run {} [(.inference strictRequest, personWorld), (.inference fullRequest, personWorld)]).1[1]? =
        some ((Request.inference fullRequest).answer personWorld
          ((Request.inference fullRequest).overrides.apply {})) :=
  ⟨rfl, rfl, full_override_isolated {} _ 1 (.inference fullRequest, personWorld) rfl rfl⟩

end ViewGuard.Api
