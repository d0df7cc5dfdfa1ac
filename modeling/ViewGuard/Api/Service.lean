import ViewGuard.Api.Endpoints
import ViewGuard.Inference.Engine

/-!
# Api — the endpoints on the engine

`lifespan` hands `setup_inference_endpoints` the service's one
`InferenceEngine`, so `inference_engine.infer` in every handler is
`InferenceEngine.infer`. `World.ByEngine` says that of a request's world:
each result its `infer` returns is what the engine returns on that frame,
on whatever loader state and clock the request meets.

Main result: **`run_responses_sound`**: over any sequence of requests,
every box of every successful response lies inside the frame the
response reports, and is at or above both the engine's confidence
threshold and the threshold the request is answered under. A request's
`confidence_threshold` below the engine's therefore never brings back a
box the engine dropped.
-/

namespace ViewGuard.Api

variable {Compiled : Type} (e : InferenceEngine) (iw : InferWorld Compiled)

/-- `inference_engine.infer` as a request sees it: every result it
returns is the engine's on that frame, on some loader state and measured
time. -/
def World.ByEngine (w : World Frame) : Prop :=
  ∀ frame r, w.infer frame = .ok r → ∃ s t, e.result iw s t frame = .ok r

/-- A response whose boxes lie inside the `[height, width]` it reports, at
`threshold` or above, and are as many as it says. -/
def InferenceResponse.Sound (resp : InferenceResponse) (threshold : ℚ) : Prop :=
  ∃ h w, resp.frameShape = [h, w] ∧ resp.detectionCount = resp.boundingBoxes.length ∧
    ∀ b ∈ resp.boundingBoxes, b.InFrame h w ∧ threshold ≤ b.confidence

/-- Every response body a request gets is sound; an `HTTPException`
carries no boxes. -/
def Response.Sound : Response → ℚ → Prop
  | .single (.ok resp), threshold => resp.Sound threshold
  | .batch (.ok resp), threshold => ∀ r ∈ resp.results, r.Sound threshold
  | _, _ => True

/-! ## One request -/

/-- Each result of a returning `mapM` comes from one of its inputs. -/
theorem mem_of_mapM_ok {α β ε : Type} {f : α → Except ε β} {l : List α} {rs : List β}
    (h : l.mapM f = .ok rs) : ∀ r ∈ rs, ∃ a ∈ l, f a = .ok r := by
  induction l generalizing rs with
  | nil =>
    cases h
    intro r hr
    cases hr
  | cons a l ih =>
    rw [List.mapM_cons] at h
    cases hfa : f a with
    | error _ => rw [hfa] at h; cases h
    | ok b =>
      cases hl : l.mapM f with
      | error _ => rw [hfa, hl] at h; cases h
      | ok bs =>
        rw [hfa, hl] at h
        cases h
        intro r hr
        rcases List.mem_cons.mp hr with rfl | hr
        · exact ⟨a, List.mem_cons_self a l, hfa⟩
        · obtain ⟨a', ha', hfa'⟩ := ih hl r hr
          exact ⟨a', List.mem_cons_of_mem a ha', hfa'⟩

/-- A filtered engine result responds soundly under the engine's
threshold and the filter's. -/
theorem ofResult_sound {s : LoaderState Compiled} {t : ℚ} {frame : Frame} {r : DetectionResult}
    (hr : e.result iw s t frame = .ok r) (dl : DetectionLogic) :
    (InferenceResponse.ofResult (dl.filterDetections r)).Sound
      (max e.confidenceThreshold dl.filter.minConfidence) := by
  obtain ⟨compiled, -, -, -, hd, -, hf, -⟩ := e.result_ok iw hr
  refine ⟨frame.height, frame.width, by simp [InferenceResponse.ofResult,
    DetectionLogic.filterDetections, hf], rfl, fun b hb => ?_⟩
  obtain ⟨hb, hkeep⟩ := List.mem_filter.mp hb
  rw [DetectionFilter.keeps_eq, decide_eq_true_eq] at hkeep
  obtain ⟨hin, hconf, -⟩ := e.detect_sound iw hd b hb
  exact ⟨hin, max_le hconf hkeep.1⟩

variable {e iw}

theorem respond_sound {w : World Frame} (hw : w.ByEngine e iw) (dl : DetectionLogic) (frame : Frame) :
    ∀ resp, respond w dl frame = .ok resp → resp.Sound (max e.confidenceThreshold dl.filter.minConfidence) := by
  intro resp h
  unfold respond at h
  split at h
  · cases h
  · rename_i r hr
    cases h
    obtain ⟨s, t, hres⟩ := hw frame r hr
    exact ofResult_sound e iw hres dl

theorem respondBatch_sound {w : World Frame} (hw : w.ByEngine e iw) (dl : DetectionLogic)
    (frames : List Frame) :
    ∀ resp, respondBatch w dl frames = .ok resp →
      ∀ r ∈ resp.results, r.Sound (max e.confidenceThreshold dl.filter.minConfidence) := by
  intro resp h
  unfold respondBatch at h
  split at h
  · cases h
  · rename_i results hres
    cases h
    intro r hr
    obtain ⟨res, hmem, rfl⟩ := List.mem_map.mp hr
    obtain ⟨frame, -, hframe⟩ := mem_of_mapM_ok hres res hmem
    obtain ⟨s, t, hengine⟩ := hw frame res hframe
    exact ofResult_sound e iw hengine dl

/-- **Step lemma.** A request answered under a configuration gets a sound
response under the engine's threshold and that configuration's. -/
theorem Request.answer_sound {w : World Frame} (hw : w.ByEngine e iw) (dl : DetectionLogic)
    (req : Request) : (req.answer w dl).Sound (max e.confidenceThreshold dl.filter.minConfidence) := by
  cases req with
  | inference req =>
    simp only [Request.answer]
    split
    · trivial
    · rename_i frame _
      cases h : respond w dl frame with
      | error _ => trivial
      | ok resp => exact respond_sound hw dl frame resp h
  | batch req =>
    simp only [Request.answer]
    split
    · trivial
    · rename_i frames _
      cases h : respondBatch w dl frames with
      | error _ => trivial
      | ok resp => exact respondBatch_sound hw dl frames resp h
  | file content =>
    simp only [Request.answer]
    split
    · trivial
    · trivial
    · rename_i frame _
      cases h : respond w dl frame with
      | error _ => trivial
      | ok resp => exact respond_sound hw dl frame resp h

/-- **Every box the service returns.** Over any sequence of requests whose
inference is the engine's, the `k`-th response's boxes all lie inside the
frame it reports and are at or above both the engine's confidence
threshold and the threshold in force for the `k`-th request: its own
override, or what the requests before it left. -/
theorem run_responses_sound (dl : DetectionLogic) (calls : List (Request × World Frame))
    (hw : ∀ c ∈ calls, c.2.ByEngine e iw) (k : Nat) (c : Request × World Frame)
    (hc : calls[k]? = some c) :
    ∃ resp, (run dl calls).1[k]? = some resp ∧
      resp.Sound (max e.confidenceThreshold
        (c.1.overrides.apply (configAfter dl (calls.take k))).filter.minConfidence) := by
  refine ⟨_, by rw [run_response, hc]; rfl, ?_⟩
  exact Request.answer_sound (hw c (List.getElem?_mem hc)) _ c.1

/-- Every image decodes to `blankFrame`, and inference is the engine's on
`loadedState`, measured at `5` ms. -/
def blankWorld : World Frame :=
  { b64decode := fun _ => .ok [], imdecode := fun _ => .ok (some blankFrame),
    infer := fun frame => (({} : InferenceEngine).result emptyWorld loadedState 5 frame).mapError
      fun _ => .runtimeError "" }

theorem blankWorld_byEngine : blankWorld.ByEngine {} emptyWorld := by
  intro frame r h
  refine ⟨loadedState, 5, ?_⟩
  simp only [blankWorld] at h
  cases hr : ({} : InferenceEngine).result emptyWorld loadedState 5 frame <;>
    rw [hr] at h <;> cases h
  rfl

theorem run_responses_sound_on_blank_upload :
    (∀ c ∈ [(Request.file [], blankWorld)], c.2.ByEngine {} emptyWorld) ∧
      [(Request.file [], blankWorld)][0]? = some (Request.file [], blankWorld) ∧
      ∃ resp, (run {} [(Request.file [], blankWorld)]).1[0]? = some resp ∧
        resp.Sound (max ({} : InferenceEngine).confidenceThreshold
          ((Request.file [], blankWorld).1.overrides.apply
            (configAfter {} ([(Request.file [], blankWorld)].take 0))).filter.minConfidence) := by
  have hw : ∀ c ∈ [(Request.file [], blankWorld)], c.2.ByEngine {} emptyWorld := by
    simp only [List.mem_singleton]
    rintro c rfl
    exact blankWorld_byEngine
  exact ⟨hw, rfl, run_responses_sound {} [(Request.file [], blankWorld)] hw 0 (Request.file [], blankWorld) rfl⟩

end ViewGuard.Api
