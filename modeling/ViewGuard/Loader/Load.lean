import ViewGuard.Loader.Files

/-!
# Loader — loading and reloading

`load_model`, `_load_openvino_model` and `reload_model` of `ModelLoader`
as functions of the loader's state: `_current_model`, `_compiled_model`
and whether `self.runtime` is set. A call is one step; sequences of
calls are `Loader.run`.

The inference engine is opaque. `Engine` says what its calls return when
they return (so a compiled model is a function of the path it was read
from, as the engine's `compile` is idempotent); `CallEnv.fault` says
where one call raises, if anywhere: `create_runtime` returning `None`,
`read_model`, `compile_model`, `input()` or `output()`. The callback
`on_model_reloaded` is, per call, any function of the `ModelInfo` object
it is handed: it may change that object, which `load_model` has already
stored in `_current_model` and is about to return, and it may raise,
possibly an exception whose `str()` raises in turn inside the handler.
-/

namespace ViewGuard

/-! ## The engine and the world of one call -/

/-- The engine behind `self.runtime`: `runtime.get_device()`,
`core.read_model`, `core.compile_model`, and the shapes of a compiled
model's `input()` and `output()`. -/
structure Engine (Model Compiled : Type) where
  device : String
  readModel : String → Model
  compileModel : Model → String → Compiled
  inputShape : Compiled → List Nat
  outputShape : Compiled → List Nat

/-- The point where one call's engine raises, if the call gets there. -/
inductive Fault where
  | createRuntime
  | readModel (msg : String)
  | compileModel (msg : String)
  | input (msg : String)
  | output (msg : String)
  deriving DecidableEq, Repr

/-- What the reload callback raises, by what `str(e)` in `load_model`'s
handler then does: return a text, or raise in turn. -/
inductive CallbackRaise where
  | renders (text : String)
  | strRaises (msg : String)
  deriving DecidableEq, Repr

/-- One invocation of `on_model_reloaded(model_info)`: the object it was
handed, as it leaves it, and what it raises, if anything. -/
structure CallbackRun where
  info : ModelInfo
  raised : Option CallbackRaise := none
  deriving DecidableEq, Repr

/-- What `load_model` does once the callback has run: return the object
as the callback left it, unless `str(e)` of the callback's exception
raises inside the handler. -/
def CallbackRun.outcome (r : CallbackRun) : Except LoadError ModelInfo :=
  match r.raised with
  | some (.strRaises msg) => .error (.callbackStr msg)
  | _ => .ok r.info

theorem CallbackRun.outcome_eq_error {r : CallbackRun} {e : LoadError} (h : r.outcome = .error e) :
    ∃ m, r.raised = some (.strRaises m) ∧ e = .callbackStr m := by
  unfold CallbackRun.outcome at h
  split at h
  · exact ⟨_, ‹_›, (Except.error.inj h).symm⟩
  · cases h

theorem CallbackRun.outcome_of_renders {r : CallbackRun} (h : ∀ m, r.raised ≠ some (.strRaises m)) :
    r.outcome = .ok r.info := by
  unfold CallbackRun.outcome
  split
  · exact absurd ‹_› (h _)
  · rfl

/-- What the world supplies to one call: the directory as it stands,
where the engine raises, `datetime.utcnow()`, and what the reload
callback does with the `ModelInfo` it is handed. -/
structure CallEnv where
  dir : ModelDir
  fault : Option Fault := none
  now : Nat := 0
  callback : ModelInfo → CallbackRun := fun info => { info }

/-- The callback raises nothing whose `str()` raises. -/
def CallEnv.RendersRaises (env : CallEnv) : Prop :=
  ∀ info msg, (env.callback info).raised ≠ some (.strRaises msg)

/-- The callback leaves the `ModelInfo` it is handed as it was and raises
nothing whose `str()` raises. -/
def CallEnv.Tame (env : CallEnv) : Prop :=
  env.RendersRaises ∧ ∀ info, (env.callback info).info = info

/-- The loader's mutable state. -/
structure LoaderState (Compiled : Type) where
  currentModel : Option ModelInfo := none
  compiledModel : Option Compiled := none
  runtime : Bool := false

/-- The loader's fixed attributes: host, engine, the module flag
`OPENVINO_AVAILABLE`, and whether `on_model_reloaded` is set. -/
structure Loader (Model Compiled : Type) where
  host : Host
  engine : Engine Model Compiled
  openvinoAvailable : Bool := true
  hasCallback : Bool := true

/-- One call's observable effect: its result, the state it leaves, the
`ModelInfo` a completed `_load_openvino_model` handed to the publishing
tail, and what the callback did, when it was invoked (with that
`ModelInfo`). -/
structure LoadOutcome (Compiled : Type) where
  result : Except LoadError ModelInfo
  state : LoaderState Compiled
  loaded : Option ModelInfo := none
  callbackRun : Option CallbackRun := none

variable {Model Compiled : Type}

/-- The compiled model the engine makes of the files `info` names. -/
def Loader.compiledOf (L : Loader Model Compiled) (info : ModelInfo) : Compiled :=
  L.engine.compileModel (L.engine.readModel (L.host.path info.xmlPath)) L.engine.device

/-- The `ModelInfo` a completed `_load_openvino_model` returns. -/
def Loader.loaded (L : Loader Model Compiled) (env : CallEnv) (info : ModelInfo) : ModelInfo :=
  { info with inputShape := some (L.engine.inputShape (L.compiledOf info)),
              outputShape := some (L.engine.outputShape (L.compiledOf info)),
              loadedAt := some env.now }

/-! ## The calls -/

/-- `_load_openvino_model(model_info)`. `self._compiled_model` is
assigned before the shapes are read, so a raise from `input()` or
`output()` leaves the new compiled model in place. -/
def Loader.loadOpenvinoModel (L : Loader Model Compiled) (env : CallEnv)
    (s : LoaderState Compiled) (info : ModelInfo) :
    Except LoadError ModelInfo × LoaderState Compiled :=
  if !s.runtime ∧ env.fault = some .createRuntime then
    (.error (.runtimeError "Failed to create OpenVINO runtime"), s)
  else
    let s := { s with runtime := true }
    if info.format ≠ "openvino" ∧ info.format ≠ "onnx" then
      (.error (.valueError ("Unsupported model format: " ++ info.format)), s)
    else
      match env.fault with
      | some (.readModel m) => (.error (.engineError m), s)
      | some (.compileModel m) => (.error (.engineError m), s)
      | _ =>
        let s := { s with compiledModel := some (L.compiledOf info) }
        match env.fault with
        | some (.input m) => (.error (.engineError m), s)
        | some (.output m) => (.error (.engineError m), s)
        | _ => (.ok (L.loaded env info), s)

/-- The tail of `load_model`: publish what `_load_openvino_model`
returned and, when a model was current before, invoke the callback,
catching what it raises. `_current_model` and the return value are the
object the callback was handed, so both are that object as the callback
left it. -/
def Loader.publish (L : Loader Model Compiled) (env : CallEnv) :
    Except LoadError ModelInfo × LoaderState Compiled → LoadOutcome Compiled
  | (.error e, s) => { result := .error e, state := s }
  | (.ok info, s) =>
    if L.hasCallback ∧ s.currentModel.isSome then
      { result := (env.callback info).outcome,
        state := { s with currentModel := some (env.callback info).info },
        loaded := some info, callbackRun := some (env.callback info) }
    else { result := .ok info, state := { s with currentModel := some info }, loaded := some info }

/-- `load_model(model_name, model_format, version)`: resolve and
validate the files, compile, then publish. -/
def Loader.loadModel (L : Loader Model Compiled) (env : CallEnv) (s : LoaderState Compiled)
    (modelName modelFormat : String) (version : Option String) : LoadOutcome Compiled :=
  if !L.openvinoAvailable then
    { result := .error (.runtimeError
        "OpenVINO is not available. Please install it with: pip install openvino"), state := s }
  else
    match findModelFiles L.host env.dir modelName modelFormat version
        >>= validateModelFiles L.host env.dir with
    | .error e => { result := .error e, state := s }
    | .ok info => L.publish env (L.loadOpenvinoModel env s info)

/-- `reload_model()`: `load_model` again with the current model's name,
format and version. -/
def Loader.reloadModel (L : Loader Model Compiled) (env : CallEnv)
    (s : LoaderState Compiled) : LoadOutcome Compiled :=
  match s.currentModel with
  | none => { result := .error (.runtimeError "No model currently loaded"), state := s }
  | some m => L.loadModel env s m.name m.format (some m.version)

/-- A call on the loader. -/
inductive Call where
  | load (modelName modelFormat : String) (version : Option String)
  | reload

/-- One call. -/
def Loader.call (L : Loader Model Compiled) (env : CallEnv) (s : LoaderState Compiled) :
    Call → LoadOutcome Compiled
  | .load n f v => L.loadModel env s n f v
  | .reload => L.reloadModel env s

/-- A sequence of calls, each in its own world: the outcome of each. -/
def Loader.run (L : Loader Model Compiled) :
    LoaderState Compiled → List (Call × CallEnv) → List (LoadOutcome Compiled)
  | _, [] => []
  | s, (c, env) :: rest =>
    let o := L.call env s c
    o :: L.run o.state rest

/-! ## What one call does -/

variable (L : Loader Model Compiled) (env : CallEnv) (s : LoaderState Compiled)

/-- `_load_openvino_model` never touches `_current_model`. -/
@[simp] theorem Loader.loadOpenvinoModel_currentModel (info : ModelInfo) :
    (L.loadOpenvinoModel env s info).2.currentModel = s.currentModel := by
  unfold Loader.loadOpenvinoModel
  split_ifs <;> (try split) <;> (try split) <;> rfl

/-- Everything `_load_openvino_model` can do: raise with `_compiled_model`
untouched, raise from `input()`/`output()` after assigning it, or return
the shaped info with the new compiled model. -/
theorem Loader.loadOpenvinoModel_cases (info : ModelInfo) :
    (∃ e, (L.loadOpenvinoModel env s info).1 = .error e ∧
      (L.loadOpenvinoModel env s info).2.compiledModel = s.compiledModel) ∨
    (∃ e m, (L.loadOpenvinoModel env s info).1 = .error e ∧
      (env.fault = some (.input m) ∨ env.fault = some (.output m))) ∨
    ((L.loadOpenvinoModel env s info).1 = .ok (L.loaded env info) ∧
      (L.loadOpenvinoModel env s info).2.compiledModel = some (L.compiledOf info)) := by
  unfold Loader.loadOpenvinoModel
  split_ifs
  · exact .inl ⟨_, rfl, rfl⟩
  · exact .inl ⟨_, rfl, rfl⟩
  · split
    · exact .inl ⟨_, rfl, rfl⟩
    · exact .inl ⟨_, rfl, rfl⟩
    · split
      · exact .inr (.inl ⟨_, _, rfl, .inl ‹_›⟩)
      · exact .inr (.inl ⟨_, _, rfl, .inr ‹_›⟩)
      · exact .inr (.inr ⟨rfl, rfl⟩)

@[simp] theorem Loader.publish_error (e : LoadError) :
    L.publish env (.error e, s) = { result := .error e, state := s } := rfl

@[simp] theorem Loader.publish_ok_loaded (i : ModelInfo) :
    (L.publish env (.ok i, s)).loaded = some i := by
  simp only [Loader.publish]; split_ifs <;> rfl

@[simp] theorem Loader.publish_ok_compiledModel (i : ModelInfo) :
    (L.publish env (.ok i, s)).state.compiledModel = s.compiledModel := by
  simp only [Loader.publish]; split_ifs <;> rfl

/-- With a tame callback, publishing returns and stores exactly what
`_load_openvino_model` returned. -/
theorem Loader.publish_ok_tame (htame : env.Tame) (i : ModelInfo) :
    (L.publish env (.ok i, s)).result = .ok i ∧
      (L.publish env (.ok i, s)).state = { s with currentModel := some i } := by
  simp only [Loader.publish]
  split_ifs
  · rw [CallbackRun.outcome_of_renders (htame.1 i), htame.2 i]
    exact ⟨rfl, rfl⟩
  · exact ⟨rfl, rfl⟩

/-- What a call did with what it loaded. A call that loaded nothing
raised, ran no callback and left `_current_model` as `before`. A call
that loaded `i` leaves `i` in `_current_model` as the callback left it,
if it ran, and returns that same object, unless `str()` of what the
callback raised raised in turn. -/
def LoadOutcome.Publishes (o : LoadOutcome Compiled) (before : Option ModelInfo) : Prop :=
  match o.loaded with
  | none => o.result.toOption = none ∧ o.callbackRun = none ∧ o.state.currentModel = before
  | some i => o.state.currentModel = some ((o.callbackRun.map (·.info)).getD i) ∧
      o.result = (o.callbackRun.map (·.outcome)).getD (.ok i)

/-- `_current_model` is set after a call exactly when it was before or
the call loaded a model. -/
theorem LoadOutcome.Publishes.currentModel_isSome {o : LoadOutcome Compiled}
    {before : Option ModelInfo} (h : o.Publishes before) :
    o.state.currentModel.isSome ↔ before.isSome ∨ o.loaded.isSome := by
  unfold LoadOutcome.Publishes at h
  split at h
  · simp [h.2.2, *]
  · simp [h.1, *]

/-- **The publishing tail**: it publishes what it was handed as above,
and runs the callback, on that `ModelInfo`, exactly when a callback is
set and a model was current. -/
theorem Loader.publish_spec (r : Except LoadError ModelInfo × LoaderState Compiled) :
    (L.publish env r).Publishes r.2.currentModel ∧
      (L.publish env r).callbackRun =
        if L.hasCallback = true ∧ r.2.currentModel.isSome = true then
          (L.publish env r).loaded.map env.callback
        else none := by
  obtain ⟨_ | i, s'⟩ := r
  · exact ⟨⟨rfl, rfl, rfl⟩, by simp⟩
  · simp only [Loader.publish]
    split_ifs <;> exact ⟨⟨rfl, rfl⟩, rfl⟩

/-- `load_model` either raises before touching anything, or publishes
what `_load_openvino_model` makes of the validated files. -/
theorem Loader.loadModel_cases (n f : String) (v : Option String) :
    (∃ e, L.loadModel env s n f v = { result := .error e, state := s }) ∨
    (∃ info, L.openvinoAvailable = true ∧
      (findModelFiles L.host env.dir n f v >>= validateModelFiles L.host env.dir) = .ok info ∧
      L.loadModel env s n f v = L.publish env (L.loadOpenvinoModel env s info)) := by
  unfold Loader.loadModel
  split_ifs with hov
  · exact .inl ⟨_, rfl⟩
  · split
    · exact .inl ⟨_, rfl⟩
    · exact .inr ⟨_, by simpa using hov, ‹_›, rfl⟩

/-- **One `load_model` call**: it publishes what it loaded as
`publish_spec` says, from the state it found, and runs the callback
exactly when it loaded a model, a callback is set and a model was
current. -/
theorem Loader.loadModel_spec (n f : String) (v : Option String) :
    (L.loadModel env s n f v).Publishes s.currentModel ∧
      (L.loadModel env s n f v).callbackRun =
        if L.hasCallback = true ∧ s.currentModel.isSome = true then
          (L.loadModel env s n f v).loaded.map env.callback
        else none := by
  rcases L.loadModel_cases env s n f v with ⟨e, h⟩ | ⟨info, -, -, h⟩
  · rw [h]
    exact ⟨⟨rfl, rfl, rfl⟩, by simp⟩
  · rw [h]
    simpa using L.publish_spec env (L.loadOpenvinoModel env s info)

/-- A returning call leaves a current model. -/
theorem LoadOutcome.Publishes.isSome_of_ok {o : LoadOutcome Compiled} {before : Option ModelInfo}
    (h : o.Publishes before) {i : ModelInfo} (hi : o.result = .ok i) : o.state.currentModel.isSome := by
  unfold LoadOutcome.Publishes at h
  split at h
  · simp [hi, Except.toOption] at h
  · simp [h.1]

/-- When the callback's exceptions render, a raising `load_model` leaves
`_current_model` as it found it: it can only have raised before
publishing. -/
theorem Loader.loadModel_error_currentModel (hstr : env.RendersRaises) {n f : String}
    {v : Option String} {e : LoadError} (h : (L.loadModel env s n f v).result = .error e) :
    (L.loadModel env s n f v).state.currentModel = s.currentModel := by
  obtain ⟨hpub, hcb⟩ := L.loadModel_spec env s n f v
  unfold LoadOutcome.Publishes at hpub
  split at hpub
  · exact hpub.2.2
  · rename_i i hl
    rw [hpub.2, hcb, hl] at h
    split_ifs at h
    · simp only [Option.map_some', Option.getD_some] at h
      obtain ⟨m, hm, -⟩ := CallbackRun.outcome_eq_error h
      exact absurd hm (hstr i m)
    · cases h

/-- `reload_model` is `load_model` of the current identity, or a raise
that changes nothing; either way `loadModel_spec` describes it. -/
theorem Loader.call_spec (c : Call) :
    (L.call env s c).Publishes s.currentModel ∧
      (L.call env s c).callbackRun =
        if L.hasCallback = true ∧ s.currentModel.isSome = true then
          (L.call env s c).loaded.map env.callback
        else none := by
  cases c with
  | load n f v => exact L.loadModel_spec env s n f v
  | reload =>
    simp only [Loader.call, Loader.reloadModel]
    split
    · exact ⟨⟨rfl, rfl, rfl⟩, by simp⟩
    · exact L.loadModel_spec env s _ _ _

/-- A call leaves a current model exactly when there was one or it
returned one: a call that loads with none current runs no callback, so
it returns what it loaded. -/
theorem Loader.call_currentModel_isSome (c : Call) :
    (L.call env s c).state.currentModel.isSome ↔
      s.currentModel.isSome ∨ (L.call env s c).result.toOption.isSome := by
  obtain ⟨hpub, hcb⟩ := L.call_spec env s c
  rw [hpub.currentModel_isSome]
  unfold LoadOutcome.Publishes at hpub
  cases hs : s.currentModel.isSome
  · simp only [hs, Bool.false_eq_true, and_false, if_false] at hcb
    split at hpub
    · simp [hpub.1, *]
    · simp [hpub.2, hcb, Except.toOption, *]
  · simp

/-- The design's invariant of the published pair: a compiled model
exactly when a current model, and then the compiled form of the files
the current model names. -/
def Loader.Consistent (L : Loader Model Compiled) (s : LoaderState Compiled) : Prop :=
  s.compiledModel = s.currentModel.map L.compiledOf

/-- What the design promises of one call from `s` with outcome `o`: the
pair stays consistent; raising leaves both fields as they were; returning
publishes the returned `ModelInfo`, with its checksum, shapes and load
time set, next to its compiled model. -/
def Loader.Atomic (L : Loader Model Compiled) (s : LoaderState Compiled)
    (o : LoadOutcome Compiled) : Prop :=
  L.Consistent o.state ∧
  (o.result.toOption = none →
    o.state.currentModel = s.currentModel ∧ o.state.compiledModel = s.compiledModel) ∧
  ∀ i, o.result = .ok i →
    o.state.currentModel = some i ∧ o.state.compiledModel = some (L.compiledOf i) ∧
    i.checksum.isSome ∧ i.inputShape.isSome ∧ i.outputShape.isSome ∧ i.loadedAt.isSome

theorem Loader.atomic_unchanged (hinv : L.Consistent s) (e : LoadError) :
    L.Atomic s { result := .error e, state := s } :=
  ⟨hinv, fun _ => ⟨rfl, rfl⟩, fun _ h => by cases h⟩

/-- **Every call whose engine does not raise from `input()` or
`output()` and whose callback is tame is atomic** on a consistent loader. -/
theorem Loader.call_atomic (hinv : L.Consistent s)
    (hshape : ∀ m, env.fault ≠ some (.input m) ∧ env.fault ≠ some (.output m)) (htame : env.Tame)
    (c : Call) :
    L.Atomic s (L.call env s c) := by
  have hload : ∀ n f v, L.Atomic s (L.loadModel env s n f v) := by
    intro n f v
    rcases L.loadModel_cases env s n f v with ⟨e, h⟩ | ⟨info, -, hv, h⟩
    · exact h ▸ L.atomic_unchanged s hinv e
    · have hsum : info.checksum.isSome := by
        cases hf : findModelFiles L.host env.dir n f v <;> simp [hf, bind, Except.bind] at hv
        exact validateModelFiles_checksum hv
      have hcur := L.loadOpenvinoModel_currentModel env s info
      have hcases := L.loadOpenvinoModel_cases env s info
      rw [h]
      generalize L.loadOpenvinoModel env s info = o at hcur hcases ⊢
      obtain ⟨r, s'⟩ := o
      dsimp only at hcur hcases
      rcases hcases with ⟨e, rfl, hc⟩ | ⟨e, m, _, hm | hm⟩ | ⟨rfl, hc⟩
      · exact ⟨by simpa [Loader.Consistent, hc, hcur] using hinv, fun _ => ⟨hcur, hc⟩,
          fun _ h => by cases h⟩
      · exact absurd hm (hshape m).1
      · exact absurd hm (hshape m).2
      · obtain ⟨hr, hst⟩ := L.publish_ok_tame env s' htame (L.loaded env info)
        unfold Loader.Atomic
        rw [hr, hst]
        refine ⟨by simpa [Loader.Consistent] using hc, fun h => by simp [Except.toOption] at h,
          fun i hi => ?_⟩
        cases hi
        exact ⟨rfl, hc, hsum, rfl, rfl, rfl⟩
  cases c with
  | load n f v => exact hload n f v
  | reload =>
    simp only [Loader.call, Loader.reloadModel]
    split
    · exact L.atomic_unchanged s hinv _
    · exact hload _ _ _

/-! ## Runs -/

/-- The loader as `__init__` leaves it: no model, no compiled model, and
`self.runtime` as passed in. -/
def LoaderState.init (runtime : Bool) : LoaderState Compiled := { runtime }

@[simp] theorem Loader.run_length (calls : List (Call × CallEnv)) (s : LoaderState Compiled) :
    (L.run s calls).length = calls.length := by
  induction calls generalizing s with
  | nil => rfl
  | cons _ _ ih => simp [Loader.run, ih]

/-- The loader state a sequence of calls leaves: what `Loader.run`
threads from each call to the next. -/
def Loader.stateAfter (L : Loader Model Compiled) :
    LoaderState Compiled → List (Call × CallEnv) → LoaderState Compiled
  | s, [] => s
  | s, (c, env) :: rest => L.stateAfter (L.call env s c).state rest

/-- A further call runs on the state the earlier ones left. -/
theorem Loader.run_append (calls : List (Call × CallEnv)) (c : Call) :
    L.run s (calls ++ [(c, env)]) = L.run s calls ++ [L.call env (L.stateAfter s calls) c] := by
  induction calls generalizing s with
  | nil => rfl
  | cons ce rest ih =>
    obtain ⟨c', env'⟩ := ce
    simp only [List.cons_append, Loader.run, Loader.stateAfter, List.append_eq, ih]

/-- `_load_openvino_model` leaves `_compiled_model` alone or sets it to
the compiled form of the files. -/
theorem Loader.loadOpenvinoModel_compiledModel (info : ModelInfo) :
    (L.loadOpenvinoModel env s info).2.compiledModel = s.compiledModel ∨
      (L.loadOpenvinoModel env s info).2.compiledModel = some (L.compiledOf info) := by
  unfold Loader.loadOpenvinoModel
  split_ifs <;> (try split) <;> (try split) <;> first | exact .inl rfl | exact .inr rfl

/-- `load_model` never clears `_compiled_model`, and a call that loads
leaves the compiled form of what it loaded. -/
theorem Loader.loadModel_compiledModel (n f : String) (v : Option String) :
    (s.compiledModel.isSome → (L.loadModel env s n f v).state.compiledModel.isSome) ∧
      ∀ i, (L.loadModel env s n f v).loaded = some i →
        (L.loadModel env s n f v).state.compiledModel = some (L.compiledOf i) := by
  rcases L.loadModel_cases env s n f v with ⟨e, h⟩ | ⟨info, -, -, h⟩
  · rw [h]
    exact ⟨id, fun _ h => by cases h⟩
  · rw [h]
    have hcases := L.loadOpenvinoModel_cases env s info
    have hcomp := L.loadOpenvinoModel_compiledModel env s info
    generalize L.loadOpenvinoModel env s info = o at hcases hcomp ⊢
    obtain ⟨r, s'⟩ := o
    dsimp only at hcases hcomp
    rcases hcases with ⟨e, rfl, hc⟩ | ⟨e, m, rfl, -⟩ | ⟨rfl, hc⟩
    · exact ⟨fun h => by simpa [hc] using h, fun _ h => by cases h⟩
    · refine ⟨fun h => ?_, fun _ h => by cases h⟩
      rcases hcomp with hc | hc <;> simp [hc, h]
    · refine ⟨fun _ => by simp [hc], fun i hi => ?_⟩
      simp only [Loader.publish_ok_loaded, Option.some.injEq] at hi
      subst hi
      simpa using hc

/-- A call never clears `_compiled_model`, and a call that loads leaves
the compiled form of what it loaded. -/
theorem Loader.call_compiledModel (c : Call) :
    (s.compiledModel.isSome → (L.call env s c).state.compiledModel.isSome) ∧
      ∀ i, (L.call env s c).loaded = some i →
        (L.call env s c).state.compiledModel = some (L.compiledOf i) := by
  cases c with
  | load n f v => exact L.loadModel_compiledModel env s n f v
  | reload =>
    simp only [Loader.call, Loader.reloadModel]
    split
    · exact ⟨id, fun _ h => by cases h⟩
    · exact L.loadModel_compiledModel env s _ _ _

/-- **Along any run** `_current_model` is set exactly when it was at the
start or some call returned, and `_compiled_model` is set whenever
`_current_model` is. -/
theorem Loader.stateAfter_currentModel (calls : List (Call × CallEnv))
    (hinv : s.currentModel.isSome → s.compiledModel.isSome) :
    ((L.stateAfter s calls).currentModel.isSome ↔
        s.currentModel.isSome ∨ ∃ o ∈ L.run s calls, o.result.toOption.isSome) ∧
      ((L.stateAfter s calls).currentModel.isSome → (L.stateAfter s calls).compiledModel.isSome) := by
  induction calls generalizing s with
  | nil => simpa [Loader.stateAfter, Loader.run] using hinv
  | cons ce rest ih =>
    obtain ⟨c, env⟩ := ce
    obtain ⟨hpub, -⟩ := L.call_spec env s c
    obtain ⟨hkeep, hload⟩ := L.call_compiledModel env s c
    -- the step keeps the invariant
    have hstep : (L.call env s c).state.currentModel.isSome →
        (L.call env s c).state.compiledModel.isSome := by
      unfold LoadOutcome.Publishes at hpub
      split at hpub
      · rw [hpub.2.2]
        exact fun h => hkeep (hinv h)
      · intro _
        simp [hload _ ‹_›]
    obtain ⟨hiff, hinv'⟩ := ih _ hstep
    simp only [Loader.stateAfter, Loader.run, List.mem_cons, exists_eq_or_imp]
    refine ⟨?_, hinv'⟩
    rw [hiff, L.call_currentModel_isSome]
    cases (L.call env s c).result.toOption <;> simp [or_assoc, or_left_comm]

/-! ## Concrete runs -/

/-- The directory of the repository's loader tests: a bare `test.xml`
and no `test.bin`. -/
def testDir : ModelDir := ⟨[⟨"test.xml", 1, [60, 110, 101, 116, 62]⟩], by decide⟩

/-- A stand-in engine on a `models` directory: a model is its path, a
compiled model the path with the device. -/
def stubLoader : Loader String String where
  host := ⟨"models", fun b => toString b.length⟩
  engine := ⟨"CPU", id, fun m d => m ++ "@" ++ d, fun _ => [1, 3, 640, 640], fun _ => [1, 84, 8400]⟩

/-- A load of `test.xml` whose compiled model raises from `input()`:
the call raises, yet `_compiled_model` now holds the new compiled model
while `_current_model` is still `None`. -/
theorem Loader.input_fault_publishes_compiled :
    (stubLoader.call { dir := testDir, fault := some (.input "no input port") } (.init true)
      (.load "test" "openvino" none)).result = .error (.engineError "no input port") ∧
    (stubLoader.call { dir := testDir, fault := some (.input "no input port") } (.init true)
      (.load "test" "openvino" none)).state.currentModel = none ∧
    (stubLoader.call { dir := testDir, fault := some (.input "no input port") } (.init true)
      (.load "test" "openvino" none)).state.compiledModel = some "models/test.xml@CPU" ∧
    ¬ stubLoader.Atomic (.init true) (stubLoader.call
      { dir := testDir, fault := some (.input "no input port") } (.init true)
      (.load "test" "openvino" none)) :=
  ⟨rfl, rfl, rfl, fun h => Option.noConfusion h.1⟩

/-- Loading the bare `test.xml` records version `"latest"`, and
resolving that version names `test_latest.xml`: `reload_model` then
raises instead of reloading `test.xml`, and `list_versions` lists a
`"latest"` entry that `load_model` cannot resolve. -/
theorem Loader.reload_resolves_other_file :
    ((stubLoader.call { dir := testDir } (.init true) (.load "test" "openvino" none)).result.toOption.map
      fun i => (i.xmlPath, i.version)) = some ("test.xml", "latest") ∧
    (stubLoader.call { dir := testDir }
      (stubLoader.call { dir := testDir } (.init true) (.load "test" "openvino" none)).state
      .reload).result =
      .error (.fileNotFound "Model XML file not found: models/test_latest.xml") ∧
    (listVersions stubLoader.host testDir "test").map (fun v => (v.version, v.path)) =
      [("latest", "test.xml")] ∧
    findModelFiles stubLoader.host testDir "test" "openvino" (some "latest") =
      .error (.fileNotFound "Model XML file not found: models/test_latest.xml") :=
  ⟨rfl, rfl, rfl, rfl⟩

/-- A callback that raises an exception whose `__str__` raises. -/
def unprintableCallback (info : ModelInfo) : CallbackRun :=
  { info, raised := some (.strRaises "__str__ failed") }

end ViewGuard
