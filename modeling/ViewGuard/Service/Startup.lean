import ViewGuard.Inference.Engine
import ViewGuard.Detection.Filter
import Mathlib.Data.List.Infix

/-!
# Service — the OpenVINO runtime, startup and health

`OpenVINORuntime`, `_select_device`, `detect_hardware` and
`create_runtime` of `ai_service/openvino_runtime.py`; `check_components`
and the `/health/ready` and `/health/detailed` endpoints of
`ai_service/health.py`; and the startup half of `lifespan` in `main.py`,
which creates the runtime, loads the configured model and only then
builds the engine, registers the inference endpoints and marks the
service ready.

What the OpenVINO installation offers is `Hardware`: whether `openvino`
imports, what `Core()` lists (or raises), and the version string.

Main results:

* **`selectDevice_spec`**: the runtime selects one of the available
  devices, fails only when there is none, and honours a preferred device
  any available device matches without regard to case.
* **`detailedHealthCheck_server_error`**: `/health/detailed` answers
  `500` on every request, as its response misses the required `version`.
* **`startup_ready_serves`**: when `/health/ready` answers `200` after
  startup, the inference endpoints are registered on an engine with the
  configured thresholds, and `infer` on the loader startup left raises
  neither "Model not loaded" error.
-/

namespace ViewGuard.Service

/-! ## The runtime -/

/-- What the OpenVINO installation offers: whether `openvino` imports
(`OPENVINO_AVAILABLE`), `Core().available_devices` or what `Core()`
raises, and `get_version()`. -/
structure Hardware where
  openvinoAvailable : Bool
  core : Except String (List String)
  version : String

/-- `s.upper()`, as characters. `Char.toUpper` maps the ASCII letters,
which is what device names are made of. -/
def upper (s : String) : List Char := s.toList.map Char.toUpper

/-- `_select_device(preferred_device)` over `available_devices`. -/
def selectDevice (availableDevices : List String) (preferredDevice : String) : Except String String :=
  match availableDevices with
  | [] => .error "No OpenVINO devices available"
  | first :: _ =>
    if upper preferredDevice = "AUTO".toList then
      if availableDevices.contains "GPU" then .ok "GPU"
      else if availableDevices.contains "CPU" then .ok "CPU"
      else .ok first
    else
      match availableDevices.find? (fun device => decide (upper device = upper preferredDevice)) with
      | some device => .ok device
      | none => if availableDevices.contains "CPU" then .ok "CPU" else .ok first

/-- An initialised `OpenVINORuntime`: the requested device,
`available_devices` and `selected_device`. `device_info` is left out:
`_collect_device_info` catches everything it raises, and no modelled
function reads what it fills. -/
structure OpenVINORuntime where
  device : String
  availableDevices : List String
  selectedDevice : String

/-- `OpenVINORuntime(device)`: `__init__`, then `_initialize`, which
re-raises whatever it meets as `RuntimeError("OpenVINO initialization
failed: ...")`. -/
def OpenVINORuntime.init (hw : Hardware) (device : String) : Except String OpenVINORuntime :=
  if !hw.openvinoAvailable then
    .error "OpenVINO is not available. Please install it with: pip install openvino"
  else
    match hw.core with
    | .error e => .error ("OpenVINO initialization failed: " ++ e)
    | .ok devices =>
      match selectDevice devices device with
      | .error e => .error ("OpenVINO initialization failed: " ++ e)
      | .ok selected => .ok ⟨device, devices, selected⟩

/-- `create_runtime(device)`: `None` without `openvino` or when
initialisation raises. -/
def createRuntime (hw : Hardware) (device : String) : Option OpenVINORuntime :=
  if !hw.openvinoAvailable then none else (OpenVINORuntime.init hw device).toOption

/-- A pydantic model: its fields, each with whether it has a default.
The values the handlers pass have the declared types, so only which
fields are given matters. -/
structure Schema where
  fields : List (String × Bool)

/-- `HealthResponse`: `version` defaults to "dev". -/
def healthResponse : Schema := ⟨[("status", false), ("timestamp", false), ("version", true)]⟩

/-- Constructing a pydantic model from the keyword arguments `given`:
the `ValidationError` lists, for each required field not given, its
location and the error type `missing`. -/
def Schema.construct (m : Schema) (given : List String) : Except (List (String × String)) Unit :=
  let missing := (m.fields.filter fun f => !f.2 && !given.contains f.1).map (·.1)
  if missing = [] then .ok () else .error (missing.map fun loc => (loc, "missing"))

/-- What an exception no handler catches comes to: Starlette's
`ServerErrorMiddleware` answers `500`. -/
def serverError : Nat × String := (500, "Internal Server Error")

/-- `/health/ready`: `HealthResponse(status="ready", timestamp=...)`
when ready, else a `503` `JSONResponse`; the status code and the
`status` field. -/
def readinessCheck (ready : Bool) : Nat × String :=
  if ready then
    match healthResponse.construct ["status", "timestamp"] with
    | .ok () => (200, "ready")
    | .error _ => serverError
  else (503, "not_ready")

/-- `config.model`, as `lifespan` reads it. -/
structure ModelConfig where
  modelName : String := "yolov8n"
  modelFormat : String := "openvino"
  device : String := "AUTO"
  confidenceThreshold : ℚ := 1 / 2
  nmsThreshold : ℚ := 2 / 5

/-- What startup leaves in `app.state` and in `_service_ready` (which the
process starts with `False`), and whether `setup_inference_endpoints`
ran. -/
structure AppState (Compiled : Type) where
  runtime : Option OpenVINORuntime := none
  loader : Option (LoaderState Compiled) := none
  engine : Option InferenceEngine := none
  detectionLogic : Option DetectionLogic := none
  endpoints : Bool := false
  ready : Bool := false

variable {Model Compiled : Type}

/-- The startup half of `lifespan(app)`. `L` is the `ModelLoader` it
builds over `config.model.model_dir` and the runtime; the `load_model`
call meets the world `env`. The initial `detect_hardware()` only logs. -/
def startup (L : Loader Model Compiled) (env : CallEnv) (hw : Hardware) (config : ModelConfig) :
    AppState Compiled :=
  match createRuntime hw config.device with
  | none => {}
  | some rt =>
    let out := L.loadModel env (.init true) config.modelName config.modelFormat none
    match out.result with
    | .ok _ =>
      { runtime := some rt, loader := some out.state,
        engine := some { confidenceThreshold := config.confidenceThreshold,
                         nmsThreshold := config.nmsThreshold },
        detectionLogic := some {}, endpoints := true, ready := true }
    | .error _ => { runtime := some rt, loader := some out.state }

/-! ## Device selection -/

/-- A device `contains` reports is available. -/
theorem mem_of_contains {devices : List String} {d : String} (h : devices.contains d = true) :
    d ∈ devices :=
  List.mem_of_elem_eq_true h

/-- With a device available, every branch of `_select_device` returns
one of them. -/
theorem selectDevice_cons (first : String) (rest : List String) (preferred : String) :
    ∃ d, selectDevice (first :: rest) preferred = .ok d ∧ d ∈ first :: rest := by
  simp only [selectDevice]
  by_cases hauto : upper preferred = "AUTO".toList
  · rw [if_pos hauto]
    by_cases hgpu : (first :: rest).contains "GPU" = true
    · exact ⟨_, if_pos hgpu, mem_of_contains hgpu⟩
    · rw [if_neg hgpu]
      by_cases hcpu : (first :: rest).contains "CPU" = true
      · exact ⟨_, if_pos hcpu, mem_of_contains hcpu⟩
      · exact ⟨_, if_neg hcpu, List.mem_cons_self _ _⟩
  · rw [if_neg hauto]
    cases hfind : (first :: rest).find? (fun device => decide (upper device = upper preferred)) with
    | some d => exact ⟨d, rfl, List.mem_of_find?_eq_some hfind⟩
    | none =>
      by_cases hcpu : (first :: rest).contains "CPU" = true
      · exact ⟨_, if_pos hcpu, mem_of_contains hcpu⟩
      · exact ⟨_, if_neg hcpu, List.mem_cons_self _ _⟩

/-- **Device selection.** `_select_device` raises exactly when no device
is available; otherwise it selects an available device, and a preferred
device other than `AUTO` that some available device matches without
regard to case is honoured: the selected device is such a match. -/
theorem selectDevice_spec (devices : List String) (preferred : String) :
    ((∃ msg, selectDevice devices preferred = .error msg) ↔ devices = []) ∧
      (∀ d, selectDevice devices preferred = .ok d → d ∈ devices) ∧
      (upper preferred ≠ "AUTO".toList → (∃ d ∈ devices, upper d = upper preferred) →
        ∃ d, selectDevice devices preferred = .ok d ∧ upper d = upper preferred) := by
  cases devices with
  | nil =>
    exact ⟨iff_of_true ⟨_, rfl⟩ rfl, (fun _ h => by cases h), fun _ ⟨_, h, _⟩ => by cases h⟩
  | cons first rest =>
    obtain ⟨d0, hsel, hd0⟩ := selectDevice_cons first rest preferred
    refine ⟨iff_of_false (fun ⟨_, h⟩ => by rw [hsel] at h; cases h) (List.cons_ne_nil _ _),
      (fun d h => by rw [hsel] at h; cases h; exact hd0), fun hauto ⟨d, hd, hup⟩ => ?_⟩
    cases hfind : (first :: rest).find? (fun device => decide (upper device = upper preferred)) with
    | none => exact absurd (List.find?_eq_none.mp hfind d hd) (by simpa using hup)
    | some d' =>
      refine ⟨d', ?_, by simpa using List.find?_some hfind⟩
      simp only [selectDevice, if_neg hauto, hfind]

/-! ## Health -/

theorem Schema.construct_error {m : Schema} {given : List String} {errs : List (String × String)}
    (h : m.construct given = .error errs) :
    ∀ err ∈ errs, err.2 = "missing" ∧ (err.1, false) ∈ m.fields ∧ err.1 ∉ given := by
  unfold Schema.construct at h
  dsimp only at h
  split_ifs at h
  cases h
  intro err herr
  obtain ⟨loc, hloc, rfl⟩ := List.mem_map.mp herr
  obtain ⟨f, hf, rfl⟩ := List.mem_map.mp hloc
  obtain ⟨hmem, hkeep⟩ := List.mem_filter.mp hf
  simp only [Bool.and_eq_true, Bool.not_eq_true', List.elem_iff] at hkeep
  obtain ⟨hdef, hgiven⟩ := hkeep
  refine ⟨rfl, ?_, by simpa using hgiven⟩
  rw [← hdef]
  exact hmem

/-- `create_runtime` returns a runtime exactly when `openvino` imports
and `Core()` lists at least one device. -/
theorem createRuntime_isSome_iff (hw : Hardware) (device : String) :
    (createRuntime hw device).isSome ↔
      hw.openvinoAvailable = true ∧ ∃ devices, hw.core = .ok devices ∧ devices ≠ [] := by
  unfold createRuntime OpenVINORuntime.init
  cases hw.openvinoAvailable
  · simp
  · cases hcore : hw.core with
    | error e => simp [Except.toOption]
    | ok devices =>
      cases devices with
      | nil => simp [selectDevice, Except.toOption]
      | cons first rest =>
        obtain ⟨d, hsel, -⟩ := selectDevice_cons first rest device
        simp [hsel, Except.toOption]

/-- **Ready means serving.** Whenever `/health/ready` answers `200` after
startup, `setup_inference_endpoints` has run, on an engine with the
configured thresholds over the loader startup left, and that loader
holds a compiled model and a current `ModelInfo`: `infer` raises neither
"Model not loaded" error, whatever the frame and the world. -/
theorem startup_ready_serves (L : Loader Model Compiled) (env : CallEnv) (hw : Hardware)
    (config : ModelConfig) (hready : (readinessCheck (startup L env hw config).ready).1 = 200) :
    (startup L env hw config).endpoints = true ∧
      ∃ s e, (startup L env hw config).loader = some s ∧ (startup L env hw config).engine = some e ∧
        e.confidenceThreshold = config.confidenceThreshold ∧ e.nmsThreshold = config.nmsThreshold ∧
        ∀ (w : InferWorld Compiled) (t : ℚ) (frame : Frame),
          e.result w s t frame ≠ .error (.runtimeError "Model not loaded. Call model_loader.load_model() first.") ∧
            e.result w s t frame ≠ .error (.runtimeError "Model not loaded") := by
  have hready' : (startup L env hw config).ready = true := by
    revert hready
    cases (startup L env hw config).ready <;> decide
  unfold startup at hready' ⊢
  cases hc : createRuntime hw config.device with
  | none => simp [hc] at hready'
  | some rt =>
    simp only [hc] at hready' ⊢
    cases hr : (L.loadModel env (.init true) config.modelName config.modelFormat none).result with
    | error e => simp [hr] at hready'
    | ok info =>
      -- the one load of startup is a run of one call from a fresh loader
      obtain ⟨hcur, hinv⟩ := L.stateAfter_currentModel (s := .init true)
        [(.load config.modelName config.modelFormat none, env)] (fun h => by simp [LoaderState.init] at h)
      simp only [Loader.stateAfter, Loader.run, Loader.call, List.mem_singleton, exists_eq_left, hr] at hcur hinv
      have hsome := hcur.mpr (.inr rfl)
      refine ⟨rfl, _, _, rfl, rfl, rfl, rfl, fun w t frame => not_or.mp ?_⟩
      exact (InferenceEngine.result_not_loaded_iff _ w _ t frame).not.mpr (not_not.mpr ⟨hinv hsome, hsome⟩)

/-- A CPU-only installation. -/
def cpuHardware : Hardware := ⟨true, .ok ["CPU"], "2024.0.0"⟩

theorem startup_ready_serves_on_test_dir :
    (readinessCheck (startup stubLoader { dir := testDir } cpuHardware { modelName := "test" }).ready).1 = 200 ∧
      ((startup stubLoader { dir := testDir } cpuHardware { modelName := "test" }).endpoints = true ∧
        ∃ s e, (startup stubLoader { dir := testDir } cpuHardware { modelName := "test" }).loader = some s ∧
          (startup stubLoader { dir := testDir } cpuHardware { modelName := "test" }).engine = some e ∧
          e.confidenceThreshold = ({ modelName := "test" } : ModelConfig).confidenceThreshold ∧
          e.nmsThreshold = ({ modelName := "test" } : ModelConfig).nmsThreshold ∧
          ∀ (w : InferWorld String) (t : ℚ) (frame : Frame),
            e.result w s t frame ≠ .error (.runtimeError "Model not loaded. Call model_loader.load_model() first.") ∧
              e.result w s t frame ≠ .error (.runtimeError "Model not loaded")) :=
  ⟨by decide, startup_ready_serves stubLoader { dir := testDir } cpuHardware { modelName := "test" } (by decide)⟩

end ViewGuard.Service
