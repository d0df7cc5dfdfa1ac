import ViewGuard.Loader.Load

/-!
# Loader — the hot-reload watcher among threads

`start_hot_reload_monitoring`, `stop_hot_reload_monitoring`,
`_monitor_loop` and `reload_model` of `ModelLoader` as threads over the
loader's shared attributes: `_current_model` (with the rest of
`LoaderState`), `_monitoring`, `_monitor_thread`, and the files in
`model_dir`.

None of these methods takes `self._lock`; only `load_model` does, for its
whole body, so a `load_model` call is one atomic step (`Loader.loadModel`
of the files as they stand). Every other attribute access is its own
step: each read of `self._current_model`, the `while self._monitoring`
test, each write of `_monitoring` and `_monitor_thread`. A watcher's
`time.sleep` is one step out of `sleeping`. `join(timeout=2.0)` returns
when the joined thread has finished (a `tick`) or at its timeout,
whatever the thread is doing (a `timeout`). Files change by `write`.

The engine world of the `load_model` calls (faults, clock, callback) is
fixed for a run; the directory is the shared one at the step.
-/

namespace ViewGuard.Monitor

/-- A thread: the `n`-th caller of the loader's methods, or the `n`-th
thread `start_hot_reload_monitoring` made. -/
inductive Tid
  | caller (n : Nat)
  | watcher (n : Nat)
  deriving DecidableEq

/-- Moving a caller leaves every watcher where it was. -/
@[simp] theorem Tid.update_caller_watcher {α : Type} (f : Tid → α) (c w : Nat) (a : α) :
    Function.update f (.caller c) a (.watcher w) = f (.watcher w) :=
  Function.update_noteq (by simp) _ _

/-- Moving a watcher leaves every caller where it was. -/
@[simp] theorem Tid.update_watcher_caller {α : Type} (f : Tid → α) (w c : Nat) (a : α) :
    Function.update f (.watcher w) a (.caller c) = f (.caller c) :=
  Function.update_noteq (by simp) _ _

theorem Tid.update_caller_ne {α : Type} (f : Tid → α) {c c0 : Nat} (h : c ≠ c0) (a : α) :
    Function.update f (.caller c0) a (.caller c) = f (.caller c) :=
  Function.update_noteq (by simpa using h) _ _

theorem Tid.update_watcher_ne {α : Type} (f : Tid → α) {w w0 : Nat} (h : w ≠ w0) (a : α) :
    Function.update f (.watcher w0) a (.watcher w) = f (.watcher w) :=
  Function.update_noteq (by simpa using h) _ _

/-- Who runs a `reload_model`: a caller, or a watcher holding its
`last_checksum`. -/
inductive Origin
  | caller
  | watcher (last : Option String)
  deriving DecidableEq

/-- Where a thread stands, with the locals it holds. -/
inductive Pc
  | idle
  /-- `start_hot_reload_monitoring`: the two tests, `_monitoring = True`,
  the new `Thread` in `_monitor_thread`, `_monitor_thread.start()`. -/
  | startTest
  | startCurrent
  | startSet
  | startSpawn
  | startStart
  /-- `stop_hot_reload_monitoring`: the test, `_monitoring = False`, the
  two reads of `_monitor_thread`, and the `join`. -/
  | stopTest
  | stopClear
  | stopRead
  | stopJoinRead
  | stopJoin (w : Nat)
  /-- `load_model`, under the lock. -/
  | load (modelName modelFormat : String) (version : Option String)
  /-- `reload_model`: one read of `_current_model` for the test and one
  for each of `name`, `format`, `version`, then `load_model`. -/
  | reloadTest (o : Origin)
  | reloadName (o : Origin)
  | reloadFormat (o : Origin) (name : String)
  | reloadVersion (o : Origin) (name format : String)
  | reloadLoad (o : Origin) (name format version : String)
  /-- A `Thread` object not yet started. -/
  | created
  /-- `_monitor_loop`: `last_checksum` from the two reads of the
  conditional, then per iteration the loop test, the sleep, the `None`
  test, the `xml_path` read and hash, the `bin_path` test, the `bin_path`
  read and hash, the comparison, and after a reload the checksum read. -/
  | initTest
  | initRead
  | loopTest (last : Option String)
  | sleeping (last : Option String)
  | checkNone (last : Option String)
  | hashXml (last : Option String)
  | checkBin (last : Option String) (xml sum : String)
  | hashBin (last : Option String) (xml sum : String)
  | compare (last : Option String) (sum : String)
  | afterReload (last : Option String)
  deriving DecidableEq

/-- Where a `reload_model` that raised leaves its thread: a caller gets
the exception; a watcher's inner `except` logs it and loops. -/
def Origin.raised : Origin → Pc
  | .caller => .idle
  | .watcher last => .loopTest last

/-- Where a `reload_model` that returned leaves its thread: a watcher
then reads the new checksum. -/
def Origin.returned : Origin → Pc
  | .caller => .idle
  | .watcher last => .afterReload last

/-- A method a caller thread enters. -/
inductive Op
  | start
  | stop
  | load (modelName modelFormat : String) (version : Option String)
  | reload

/-- The first point of each method. -/
def Op.entry : Op → Pc
  | .start => .startTest
  | .stop => .stopTest
  | .load n f v => .load n f v
  | .reload => .reloadTest .caller

/-- What a run shows: a watcher starting a checksum check, the
`(xml_path, bin_path)` pair one iteration hashes, the triple a
`reload_model` passes to `load_model`, and a `stop` call returning. -/
inductive Event
  | checked (t : Tid)
  | hashed (t : Tid) (xml : String) (bin : Option String)
  | reloadCalled (t : Tid) (name format version : String)
  | stopReturned (t : Tid)
  deriving DecidableEq

/-- The shared state. -/
structure Sys (Compiled : Type) where
  loader : LoaderState Compiled
  dir : ModelDir
  monitoring : Bool := false
  monitorThread : Option Nat := none
  nextWatcher : Nat := 0
  pcs : Tid → Pc := fun _ => .idle

/-- A scheduling choice. -/
inductive Action
  | invoke (c : Nat) (op : Op)
  | tick (t : Tid)
  | timeout (c : Nat)
  | write (dir : ModelDir)

/-! ## Kinds of points -/

/-- A point of `_monitor_loop`, a watcher's `reload_model` included. -/
def Pc.live : Pc → Bool
  | .initTest | .initRead | .loopTest _ | .sleeping _ | .checkNone _ | .hashXml _
  | .checkBin .. | .hashBin .. | .compare .. | .afterReload _ => true
  | .reloadTest (.watcher _) | .reloadName (.watcher _) | .reloadFormat (.watcher _) _
  | .reloadVersion (.watcher _) .. | .reloadLoad (.watcher _) .. => true
  | _ => false

/-- A point of `start_hot_reload_monitoring` or `stop_hot_reload_monitoring`. -/
def Pc.startStop : Pc → Bool
  | .startTest | .startCurrent | .startSet | .startSpawn | .startStart
  | .stopTest | .stopClear | .stopRead | .stopJoinRead | .stopJoin _ => true
  | _ => false

/-- A point of a stop past its `_monitoring = False`. -/
def Pc.stopping : Pc → Bool
  | .stopRead | .stopJoinRead | .stopJoin _ => true
  | _ => false

/-- A point of a start past its `_monitoring` test. -/
def Pc.starting : Pc → Bool
  | .startCurrent | .startSet | .startSpawn | .startStart => true
  | _ => false

/-- A point of `_monitor_loop` that holds a `last_checksum`. -/
def Pc.holdsLast : Pc → Bool
  | .loopTest _ | .sleeping _ | .checkNone _ | .hashXml _ | .checkBin .. | .hashBin .. | .compare .. => true
  | .reloadTest (.watcher _) | .reloadName (.watcher _) | .reloadFormat (.watcher _) _
  | .reloadVersion (.watcher _) .. | .reloadLoad (.watcher _) .. | .afterReload _ => true
  | _ => false

/-- A point whose step runs `load_model`. -/
def Pc.publishing : Pc → Bool
  | .load .. | .reloadLoad .. => true
  | _ => false

variable {Model Compiled : Type} (L : Loader Model Compiled) (env : CallEnv)

/-- Thread `t` moves to `pc`. -/
def Sys.goto (sys : Sys Compiled) (t : Tid) (pc : Pc) (evs : List Event) :
    Sys Compiled × List Event :=
  ({ sys with pcs := Function.update sys.pcs t pc }, evs)

/-- `load_model` as it runs at this step: on the files as they stand. -/
def Sys.loadModel (sys : Sys Compiled) (n f : String) (v : Option String) : LoadOutcome Compiled :=
  L.loadModel { env with dir := sys.dir } sys.loader n f v

/-- A step of `start_hot_reload_monitoring` or
`stop_hot_reload_monitoring`: the only steps that touch `_monitoring`,
`_monitor_thread` or another thread's point. -/
def Sys.control (sys : Sys Compiled) (t : Tid) : Pc → Sys Compiled × List Event
  | .startTest => sys.goto t (if sys.monitoring then .idle else .startCurrent) []
  | .startCurrent => sys.goto t (if sys.loader.currentModel.isSome then .startSet else .idle) []
  | .startSet => { sys with monitoring := true }.goto t .startSpawn []
  | .startSpawn =>
    { sys with monitorThread := some sys.nextWatcher, nextWatcher := sys.nextWatcher + 1,
               pcs := Function.update sys.pcs (.watcher sys.nextWatcher) .created }.goto t .startStart []
  | .startStart =>
    match sys.monitorThread with
    | some w =>
      -- a second `start()` of one `Thread` raises `RuntimeError`
      if sys.pcs (.watcher w) = .created then
        { sys with pcs := Function.update sys.pcs (.watcher w) .initTest }.goto t .idle []
      else sys.goto t .idle []
    | none => sys.goto t .idle []
  | .stopTest =>
    if sys.monitoring then sys.goto t .stopClear [] else sys.goto t .idle [.stopReturned t]
  | .stopClear => { sys with monitoring := false }.goto t .stopRead []
  | .stopRead =>
    match sys.monitorThread with
    | some _ => sys.goto t .stopJoinRead []
    | none => sys.goto t .idle [.stopReturned t]
  | .stopJoinRead =>
    match sys.monitorThread with
    | some w => sys.goto t (.stopJoin w) []
    | none => sys.goto t .idle []
  | .stopJoin w =>
    if sys.pcs (.watcher w) = .idle then sys.goto t .idle [.stopReturned t] else (sys, [])
  | _ => (sys, [])

/-- A step of `load_model`, `reload_model` or `_monitor_loop`: the loader
state after it, the thread's next point, and what it shows. An idle or
unstarted thread does nothing. -/
def Sys.advance (sys : Sys Compiled) (t : Tid) : Pc → LoaderState Compiled × Pc × List Event
  | .load n f v => ((sys.loadModel L env n f v).state, .idle, [])
  | .reloadTest o => (sys.loader, if sys.loader.currentModel.isSome then .reloadName o else o.raised, [])
  | .reloadName o =>
    (sys.loader, match sys.loader.currentModel with
      | some m => .reloadFormat o m.name
      | none => o.raised, [])
  | .reloadFormat o n =>
    (sys.loader, match sys.loader.currentModel with
      | some m => .reloadVersion o n m.format
      | none => o.raised, [])
  | .reloadVersion o n f =>
    (sys.loader, match sys.loader.currentModel with
      | some m => .reloadLoad o n f m.version
      | none => o.raised, [])
  | .reloadLoad o n f v =>
    let out := sys.loadModel L env n f (some v)
    (out.state, match out.result with
      | .ok _ => o.returned
      | .error _ => o.raised, [.reloadCalled t n f v])
  | .initTest => (sys.loader, if sys.loader.currentModel.isSome then .initRead else .loopTest none, [])
  | .initRead =>
    -- outside the loop's `try`: a raise ends the thread
    (sys.loader, match sys.loader.currentModel with
      | some m => .loopTest m.checksum
      | none => .idle, [])
  | .loopTest last => (sys.loader, if sys.monitoring then .sleeping last else .idle, [])
  | .sleeping last => (sys.loader, .checkNone last, [])
  | .checkNone last => (sys.loader, if sys.loader.currentModel.isSome then .hashXml last else .idle, [])
  | .hashXml last =>
    match sys.loader.currentModel with
    | none => (sys.loader, .loopTest last, [])
    | some m =>
      match calculateChecksum L.host sys.dir m.xmlPath with
      | .ok sum => (sys.loader, .checkBin last m.xmlPath sum, [.checked t])
      | .error _ => (sys.loader, .loopTest last, [.checked t])
  | .checkBin last xml sum =>
    match sys.loader.currentModel with
    | none => (sys.loader, .loopTest last, [])
    | some m =>
      if m.binPath.isSome then (sys.loader, .hashBin last xml sum, [])
      else (sys.loader, .compare last sum, [.hashed t xml none])
  | .hashBin last xml sum =>
    -- `_calculate_checksum(None)` raises as well
    match sys.loader.currentModel.bind (·.binPath) with
    | none => (sys.loader, .loopTest last, [])
    | some bin =>
      match calculateChecksum L.host sys.dir bin with
      | .ok binSum => (sys.loader, .compare last (sum ++ ":" ++ binSum), [.hashed t xml (some bin)])
      | .error _ => (sys.loader, .loopTest last, [.hashed t xml (some bin)])
  | .compare last sum =>
    (sys.loader, if some sum ≠ last then .reloadTest (.watcher last) else .loopTest last, [])
  | .afterReload last =>
    (sys.loader, .loopTest ((sys.loader.currentModel.map (·.checksum)).getD last), [])
  | pc => (sys.loader, pc, [])

/-- The next step of thread `t`. -/
def Sys.tick (sys : Sys Compiled) (t : Tid) : Sys Compiled × List Event :=
  if (sys.pcs t).startStop then sys.control t (sys.pcs t)
  else
    let r := sys.advance L env t (sys.pcs t)
    ({ sys with loader := r.1, pcs := Function.update sys.pcs t r.2.1 }, r.2.2)

/-- One scheduling choice. A caller inside a method enters no other. -/
def Sys.exec (sys : Sys Compiled) : Action → Sys Compiled × List Event
  | .invoke c op => if sys.pcs (.caller c) = .idle then sys.goto (.caller c) op.entry [] else (sys, [])
  | .tick t => sys.tick L env t
  | .timeout c =>
    match sys.pcs (.caller c) with
    | .stopJoin _ => sys.goto (.caller c) .idle [.stopReturned (.caller c)]
    | _ => (sys, [])
  | .write dir => ({ sys with dir }, [])

/-- A schedule: the final state and the events, in order. -/
def Sys.run (sys : Sys Compiled) : List Action → Sys Compiled × List Event
  | [] => (sys, [])
  | a :: rest =>
    let r := sys.exec L env a
    let after := r.1.run rest
    (after.1, r.2 ++ after.2)

/-- Every choice of the schedule meets `P` at the state where it is made. -/
def Sys.Guarded (P : Sys Compiled → Action → Prop) : Sys Compiled → List Action → Prop
  | _, [] => True
  | sys, a :: rest => P sys a ∧ (sys.exec L env a).1.Guarded P rest

/-- An invariant that every guarded choice keeps holds after every
guarded schedule. -/
theorem Sys.run_invariant {Inv : Sys Compiled → Prop} {P : Sys Compiled → Action → Prop}
    (hstep : ∀ sys a, Inv sys → P sys a → Inv (sys.exec L env a).1) :
    ∀ (actions : List Action) (sys : Sys Compiled), Inv sys → sys.Guarded L env P actions →
      Inv (sys.run L env actions).1
  | [], _, h, _ => h
  | a :: rest, sys, h, ⟨ha, hrest⟩ => Sys.run_invariant hstep rest _ (hstep sys a h ha) hrest

/-- No thread running, `_monitoring` unset, no watcher made. -/
def Sys.fresh (loader : LoaderState Compiled) (dir : ModelDir) : Sys Compiled := { loader, dir }

/-! ## What one step can do -/

/-- Outside start and stop, a thread never enters them. -/
theorem Sys.advance_startStop (sys : Sys Compiled) (t : Tid) {pc : Pc} (h : pc.startStop = false) :
    (sys.advance L env t pc).2.1.startStop = false := by
  cases pc <;> (try rfl) <;> (try exact h) <;> simp only [Sys.advance] <;> (repeat' split) <;>
    first | rfl | (cases ‹Origin› <;> rfl)

/-- Outside start and stop, a thread enters `_monitor_loop` only from
inside it. -/
theorem Sys.advance_live (sys : Sys Compiled) (t : Tid) {pc : Pc} (h : (sys.advance L env t pc).2.1.live) :
    pc.live := by
  cases pc <;> (try rfl) <;> simp only [Sys.advance] at h <;> (repeat' split at h) <;>
    first | rfl | exact h | (cases ‹Origin› <;> first | rfl | exact h)

/-- Only `load_model` changes the loader state. -/
theorem Sys.advance_loader (sys : Sys Compiled) (t : Tid) {pc : Pc} (h : pc.publishing = false) :
    (sys.advance L env t pc).1 = sys.loader := by
  cases pc <;> simp only [Sys.advance] <;> (repeat' split) <;> first | rfl | cases h

/-- Start and stop never change the loader state. -/
theorem Sys.control_loader (sys : Sys Compiled) (t : Tid) (pc : Pc) :
    (sys.control t pc).1.loader = sys.loader := by
  -- only the steps that branch on the state need a split
  cases pc <;> try rfl
  all_goals simp only [Sys.control]; split <;> (try split) <;> rfl

/-- Start and stop move other threads only to points that hold nothing. -/
theorem Sys.control_pcs (sys : Sys Compiled) (t : Tid) (pc : Pc) (u : Tid) :
    (sys.control t pc).1.pcs u = sys.pcs u ∨ (sys.control t pc).1.pcs u = .idle ∨
      ((sys.control t pc).1.pcs u).holdsLast = false := by
  cases pc <;> simp only [Sys.control, Sys.goto] <;> (repeat' split) <;>
    (try simp only [Function.update_apply]) <;> (repeat' split) <;>
    first | exact .inl rfl | exact .inl trivial | exact .inr (.inl rfl) | exact .inr (.inr rfl)

/-- A start or stop step of another thread leaves caller `c` where it is. -/
theorem Sys.control_caller_frame (sys : Sys Compiled) {t : Tid} {c : Nat} (ht : t ≠ .caller c)
    (pc : Pc) : (sys.control t pc).1.pcs (.caller c) = sys.pcs (.caller c) := by
  cases pc <;> simp only [Sys.control, Sys.goto] <;> (repeat' split) <;>
    simp [Function.update_noteq (Ne.symm ht)]

/-- **Frame**: a scheduling choice that is not caller `c`'s leaves caller
`c` where it is. -/
theorem Sys.exec_caller_frame (sys : Sys Compiled) {c : Nat} :
    ∀ a : Action, (∀ op, a ≠ .invoke c op) → a ≠ .tick (.caller c) → a ≠ .timeout c →
      (sys.exec L env a).1.pcs (.caller c) = sys.pcs (.caller c)
  | .invoke c' op, h, _, _ => by
    have hc : c ≠ c' := fun e => h op (e ▸ rfl)
    simp only [Sys.exec]
    split_ifs <;> simp [Sys.goto, Tid.update_caller_ne _ hc]
  | .tick t, _, h, _ => by
    have ht : t ≠ .caller c := fun e => h (e ▸ rfl)
    simp only [Sys.exec, Sys.tick]
    split_ifs
    · exact sys.control_caller_frame ht _
    · simp [Function.update_noteq (Ne.symm ht)]
  | .timeout c', _, _, h => by
    have hc : c ≠ c' := fun e => h (e ▸ rfl)
    simp only [Sys.exec]
    split <;> simp [Sys.goto, Tid.update_caller_ne _ hc]
  | .write _, _, _, _ => rfl

/-- A schedule none of whose choices is caller `c`'s leaves it where it is. -/
theorem Sys.run_caller_frame {c : Nat} :
    ∀ (actions : List Action) (sys : Sys Compiled),
      (∀ a ∈ actions, (∀ op, a ≠ .invoke c op) ∧ a ≠ .tick (.caller c) ∧ a ≠ .timeout c) →
      (sys.run L env actions).1.pcs (.caller c) = sys.pcs (.caller c)
  | [], _, _ => rfl
  | a :: rest, sys, h => by
    obtain ⟨h1, h2, h3⟩ := h a (List.mem_cons_self _ _)
    simp only [Sys.run]
    rw [Sys.run_caller_frame rest _ fun b hb => h b (List.mem_cons_of_mem _ hb),
      sys.exec_caller_frame L env a h1 h2 h3]

theorem Sys.run_append (sys : Sys Compiled) (l₁ l₂ : List Action) :
    (sys.run L env (l₁ ++ l₂)).1 = ((sys.run L env l₁).1.run L env l₂).1 := by
  induction l₁ generalizing sys with
  | nil => rfl
  | cons a rest ih => exact ih _

theorem Sys.guarded_append {P : Sys Compiled → Action → Prop} (sys : Sys Compiled)
    (l₁ l₂ : List Action) :
    sys.Guarded L env P (l₁ ++ l₂) ↔ sys.Guarded L env P l₁ ∧ (sys.run L env l₁).1.Guarded L env P l₂ := by
  induction l₁ generalizing sys with
  | nil => simp [Sys.Guarded, Sys.run]
  | cons a rest ih => simp only [List.cons_append, Sys.Guarded, List.append_eq, ih, Sys.run, and_assoc]

end ViewGuard.Monitor
