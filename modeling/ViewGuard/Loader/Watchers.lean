import ViewGuard.Loader.Monitor
import Mathlib.Tactic.CasesM

/-!
# Loader — what runs of the watcher threads do

Two invariants over every run of `Monitor.Sys`, each a step lemma and
then a run lemma through `Sys.run_invariant`, beside the runs that show
what fails without their conditions.

* **`serial_start_stop_one_watcher`**: when start and stop calls do not
  overlap and no `join` times out, at most one thread is ever in
  `_monitor_loop`, and none once `_monitoring` is unset with no start or
  stop under way. `timed_out_stop_leaves_two_watchers`: a stop whose
  `join` times out during the watcher's sleep returns, the watcher then
  checks the files, and the next start runs a second watcher beside it.
* **`watcher_compares_with_current`**: while no other thread runs
  `load_model`, a watcher's `last_checksum` is the checksum the current
  `ModelInfo` records, so it reloads exactly when the files' checksum
  differs from that record. `load_by_other_thread_triggers_reload`: after
  another thread loads a second model, the watcher reloads that model
  with its files unchanged.
* `reload_and_watcher_mix_models`: `reload_model` and one watcher
  iteration read `_current_model` once per attribute, so a load in
  between makes them use fields of two different models.
-/

namespace ViewGuard.Monitor

variable {Model Compiled : Type} (L : Loader Model Compiled) (env : CallEnv)

/-! ## One watcher at a time -/

theorem Pc.startStop_of_starting {pc : Pc} (h : pc.starting) : pc.startStop := by
  cases pc <;> first | rfl | cases h

theorem Pc.startStop_of_stopping {pc : Pc} (h : pc.stopping) : pc.startStop := by
  cases pc <;> first | rfl | cases h

/-- **The one-watcher invariant.** -/
structure OneWatcher (sys : Sys Compiled) : Prop where
  /-- A running watcher is the one `_monitor_thread` holds. -/
  slot : ∀ w, (sys.pcs (.watcher w)).live → sys.monitorThread = some w
  /-- A running watcher has `_monitoring` set, or a stop is under way. -/
  monitored : ∀ w, (sys.pcs (.watcher w)).live →
    sys.monitoring = true ∨ ∃ c, (sys.pcs (.caller c)).stopping
  /-- A start past its test runs while no watcher does. -/
  starting : ∀ c w, (sys.pcs (.caller c)).starting → (sys.pcs (.watcher w)).live = false
  /-- A start that has set `_monitoring` has it set still. -/
  spawned : ∀ c, sys.pcs (.caller c) = .startSpawn ∨ sys.pcs (.caller c) = .startStart →
    sys.monitoring = true
  /-- At most one caller is inside start or stop. -/
  serial : ∀ c c', (sys.pcs (.caller c)).startStop → (sys.pcs (.caller c')).startStop → c = c'
  /-- A join waits for the thread `_monitor_thread` holds. -/
  joining : ∀ c w, sys.pcs (.caller c) = .stopJoin w → sys.monitorThread = some w
  /-- Watchers run no start or stop. -/
  watchers : ∀ w, (sys.pcs (.watcher w)).startStop = false

/-- Start and stop calls do not overlap, and no join times out. -/
def StartStopSerial (sys : Sys Compiled) : Action → Prop
  | .invoke _ .start | .invoke _ .stop => ∀ c, (sys.pcs (.caller c)).startStop = false
  | .timeout _ => False
  | _ => True

/-- Callers other than the one inside start or stop are outside them. -/
theorem OneWatcher.others {sys : Sys Compiled} (h : OneWatcher sys) {c0 : Nat}
    (h0 : (sys.pcs (.caller c0)).startStop) {c : Nat} (hc : c ≠ c0) :
    (sys.pcs (.caller c)).startStop = false := by
  by_contra h'
  exact hc (h.serial c c0 (by simpa using h') h0)

/-- The caller inside start or stop moves to `q` and may write
`_monitoring`; the invariant survives when `q` meets its clauses. -/
theorem OneWatcher.move {sys : Sys Compiled} (h : OneWatcher sys) {c0 : Nat}
    (h0 : (sys.pcs (.caller c0)).startStop) (m : Bool) (q : Pc)
    (hstart : q.starting → ∀ w, (sys.pcs (.watcher w)).live = false)
    (hspawn : q = .startSpawn ∨ q = .startStart → m = true)
    (hjoin : ∀ w, q = .stopJoin w → sys.monitorThread = some w)
    (hmon : ∀ w, (sys.pcs (.watcher w)).live → m = true ∨ q.stopping) :
    OneWatcher { sys with monitoring := m, pcs := Function.update sys.pcs (.caller c0) q } := by
  -- the caller at `c0` stays the only one inside start or stop
  have sole : ∀ c, (Function.update sys.pcs (.caller c0) q (.caller c)).startStop → c = c0 := by
    intro c hc
    by_contra hcc
    rw [Tid.update_caller_ne _ hcc, h.others h0 hcc] at hc
    cases hc
  refine ⟨fun w hw => h.slot w (by simpa using hw), fun w hw => ?_, fun c w hc => ?_,
    fun c hc => ?_, fun c c' hc hc' => (sole c hc).trans (sole c' hc').symm, fun c w hc => ?_,
    fun w => by simpa using h.watchers w⟩ <;> dsimp only at *
  · rcases hmon w (by simpa using hw) with hm | hq
    · exact .inl hm
    · exact .inr ⟨c0, by simpa using hq⟩
  · obtain rfl := sole c (Pc.startStop_of_starting hc)
    simpa using hstart (by simpa using hc) w
  · obtain rfl := sole c (by rcases hc with e | e <;> rw [e] <;> rfl)
    exact hspawn (by simpa using hc)
  · obtain rfl := sole c (by rw [hc]; rfl)
    exact hjoin w (by simpa using hc)

/-- With no stop under way beside the caller at `c0`, a running watcher
has `_monitoring` set. -/
theorem OneWatcher.monitoring_of_live {sys : Sys Compiled} (h : OneWatcher sys) {c0 : Nat}
    (h0 : (sys.pcs (.caller c0)).startStop) (hs : (sys.pcs (.caller c0)).stopping = false)
    {w : Nat} (hw : (sys.pcs (.watcher w)).live) : sys.monitoring = true := by
  rcases h.monitored w hw with hm | ⟨c, hc⟩
  · exact hm
  · by_cases hcc : c = c0
    · rw [hcc, hs] at hc
      cases hc
    · exact absurd (Pc.startStop_of_stopping hc) (ne_true_of_eq_false (h.others h0 hcc))

theorem OneWatcher.spawn {sys : Sys Compiled} (h : OneWatcher sys) {c0 : Nat}
    (hp : sys.pcs (.caller c0) = .startSpawn) :
    OneWatcher (sys.control (.caller c0) .startSpawn).1 := by
  have h0 : (sys.pcs (.caller c0)).startStop := by rw [hp]; rfl
  simp only [Sys.control, Sys.goto]
  -- the new thread is not started, and no other watcher runs
  have hw : ∀ w, (Function.update sys.pcs (.watcher sys.nextWatcher) .created (.watcher w)).live = false ∧
      (Function.update sys.pcs (.watcher sys.nextWatcher) .created (.watcher w)).startStop = false := by
    intro w
    by_cases hwn : w = sys.nextWatcher
    · rw [hwn, Function.update_same]
      exact ⟨rfl, rfl⟩
    · rw [Tid.update_watcher_ne _ hwn]
      exact ⟨h.starting c0 w (by rw [hp]; rfl), h.watchers w⟩
  have sole : ∀ c, (Function.update (Function.update sys.pcs (.watcher sys.nextWatcher) .created)
      (.caller c0) .startStart (.caller c)).startStop → c = c0 := fun c hc => by
    by_contra hcc
    rw [Tid.update_caller_ne _ hcc, Tid.update_watcher_caller, h.others h0 hcc] at hc
    cases hc
  refine ⟨fun w hw' => ?_, fun w hw' => ?_, fun c w _ => by simpa using (hw w).1,
    fun _ _ => h.spawned c0 (.inl hp), fun c c' hc hc' => (sole c hc).trans (sole c' hc').symm,
    fun c w hc => ?_, fun w => by simpa using (hw w).2⟩ <;> dsimp only at *
  · simp [(hw w).1] at hw'
  · simp [(hw w).1] at hw'
  · obtain rfl := sole c (by rw [hc]; rfl)
    simp at hc

theorem OneWatcher.startThread {sys : Sys Compiled} (h : OneWatcher sys) {c0 : Nat}
    (hp : sys.pcs (.caller c0) = .startStart) :
    OneWatcher (sys.control (.caller c0) .startStart).1 := by
  have h0 : (sys.pcs (.caller c0)).startStop := by rw [hp]; rfl
  have hnone : ∀ w, (sys.pcs (.watcher w)).live = false := fun w => h.starting c0 w (by rw [hp]; rfl)
  have hidle := h.move h0 sys.monitoring .idle nofun nofun (fun _ => nofun)
    (fun w hw => by rw [hnone w] at hw; cases hw)
  simp only [Sys.control]
  split
  · rename_i w hslot
    split_ifs with hcreated
    · simp only [Sys.goto]
      -- no caller is left inside start or stop
      have hcall : ∀ c, ¬ (Function.update (Function.update sys.pcs (.watcher w) .initTest)
          (.caller c0) .idle (.caller c)).startStop := by
        intro c
        by_cases hcc : c = c0
        · rw [hcc, Function.update_same]
          decide
        · rw [Tid.update_caller_ne _ hcc, Tid.update_watcher_caller]
          exact ne_true_of_eq_false (h.others h0 hcc)
      refine ⟨fun w' hw' => ?_, fun _ _ => .inl (h.spawned c0 (.inr hp)),
        fun c _ hc => absurd (Pc.startStop_of_starting hc) (hcall c),
        fun c hc => absurd (by rcases hc with e | e <;> (dsimp only at e; rw [e]; rfl)) (hcall c),
        fun c _ hc _ => absurd hc (hcall c), fun c _ hc => absurd (by dsimp only at hc; rw [hc]; rfl) (hcall c),
        fun w' => ?_⟩ <;> dsimp only at *
      · by_cases hww : w' = w
        · rw [hww, hslot]
        · rw [Tid.update_caller_watcher, Tid.update_watcher_ne _ hww, hnone] at hw'
          cases hw'
      · by_cases hww : w' = w
        · rw [hww, Tid.update_caller_watcher, Function.update_same]
          rfl
        · rw [Tid.update_caller_watcher, Tid.update_watcher_ne _ hww]
          exact h.watchers w'
    · exact hidle
  · exact hidle

/-- **Step lemma for start and stop.** -/
theorem OneWatcher.control {sys : Sys Compiled} (h : OneWatcher sys) {c0 : Nat}
    (h0 : (sys.pcs (.caller c0)).startStop) :
    OneWatcher (sys.control (.caller c0) (sys.pcs (.caller c0))).1 := by
  have hlive : (sys.pcs (.caller c0)).stopping = false → ∀ w, (sys.pcs (.watcher w)).live →
      sys.monitoring = true := fun hs _ hw => h.monitoring_of_live h0 hs hw
  have hnone : (sys.pcs (.caller c0)).starting → ∀ w, (sys.pcs (.watcher w)).live = false :=
    fun hs w => h.starting c0 w hs
  have hslot : ∀ w, (sys.pcs (.watcher w)).live → sys.monitorThread ≠ none := fun w hw hn => by
    rw [h.slot w hw] at hn
    cases hn
  cases hp : sys.pcs (.caller c0) with
  | startTest =>
    refine h.move h0 _ _ (fun hq w => ?_) (by split <;> exact nofun) (by split <;> exact fun _ => nofun)
      (fun w hw => .inl (hlive (by rw [hp]; rfl) w hw))
    split at hq
    · cases hq
    · rename_i hm
      exact Bool.eq_false_iff.mpr fun hw => hm (hlive (by rw [hp]; rfl) w hw)
  | startCurrent =>
    exact h.move h0 _ _ (fun _ => hnone (by rw [hp]; rfl)) (by split <;> exact nofun)
      (by split <;> exact fun _ => nofun)
      (fun w hw => absurd hw (by rw [hnone (by rw [hp]; rfl) w]; decide))
  | startSet =>
    exact h.move h0 true _ (fun _ => hnone (by rw [hp]; rfl)) (fun _ => rfl) (fun _ => nofun)
      (fun _ _ => .inl rfl)
  | startSpawn => exact hp ▸ h.spawn hp
  | startStart => exact hp ▸ h.startThread hp
  | stopTest =>
    simp only [Sys.control]
    split <;>
      exact h.move h0 _ _ nofun nofun (fun _ => nofun) (fun w hw => .inl (hlive (by rw [hp]; rfl) w hw))
  | stopClear => exact h.move h0 false .stopRead nofun nofun (fun _ => nofun) (fun _ _ => .inr rfl)
  | stopRead =>
    simp only [Sys.control]
    split
    · exact h.move h0 _ .stopJoinRead nofun nofun (fun _ => nofun) (fun _ _ => .inr rfl)
    · rename_i hn
      exact h.move h0 _ .idle nofun nofun (fun _ => nofun) (fun w hw => absurd hn (hslot w hw))
  | stopJoinRead =>
    simp only [Sys.control]
    split
    · rename_i w hs
      exact h.move h0 _ (.stopJoin w) nofun nofun (fun _ h => by cases h; exact hs) (fun _ _ => .inr rfl)
    · rename_i hn
      exact h.move h0 _ .idle nofun nofun (fun _ => nofun) (fun w hw => absurd hn (hslot w hw))
  | stopJoin w =>
    simp only [Sys.control]
    split_ifs with hdone
    · refine h.move h0 _ .idle nofun nofun (fun _ => nofun) (fun w' hw' => ?_)
      have hw : w' = w := Option.some_inj.mp ((h.slot w' hw').symm.trans (h.joining c0 w hp))
      subst hw
      rw [hdone] at hw'
      cases hw'
    · exact h
  | _ => rw [hp] at h0; cases h0

/-- **Step lemma for every other thread**: it moves only itself, never
into start or stop, and never into the loop. -/
theorem OneWatcher.advance {sys : Sys Compiled} (h : OneWatcher sys) {t : Tid}
    (ht : (sys.pcs t).startStop = false) : OneWatcher (sys.tick L env t).1 := by
  have hpss := sys.advance_startStop L env t ht
  have hpl : (sys.advance L env t (sys.pcs t)).2.1.live → (sys.pcs t).live := sys.advance_live L env t
  simp only [Sys.tick, ht, Bool.false_eq_true, ↓reduceIte]
  generalize (sys.advance L env t (sys.pcs t)).2.1 = p at hpss hpl ⊢
  -- the moved thread enters neither the loop nor start or stop
  have hl : ∀ u, (Function.update sys.pcs t p u).live → (sys.pcs u).live := by
    intro u hu
    by_cases hut : u = t
    · subst hut
      rw [Function.update_same] at hu
      exact hpl hu
    · rwa [Function.update_noteq hut] at hu
  have hs : ∀ u, (Function.update sys.pcs t p u).startStop ∨ (sys.pcs u).startStop →
      Function.update sys.pcs t p u = sys.pcs u := by
    intro u hu
    refine Function.update_noteq (fun hut => ?_) _ _
    subst hut
    rw [Function.update_same, hpss, ht] at hu
    simp at hu
  refine ⟨fun w hw => h.slot w (hl _ hw), fun w hw => ?_, fun c w hc => ?_, fun c hc => ?_,
    fun c c' hc hc' => ?_, fun c w hc => ?_, fun w => ?_⟩ <;> dsimp only at *
  · rcases h.monitored w (hl _ hw) with hm | ⟨c, hc⟩
    · exact .inl hm
    · exact .inr ⟨c, by rw [hs _ (.inr (Pc.startStop_of_stopping hc))]; exact hc⟩
  · rw [hs _ (.inl (Pc.startStop_of_starting hc))] at hc
    exact Bool.eq_false_iff.mpr fun hw => ne_true_of_eq_false (h.starting c w hc) (hl _ hw)
  · rw [hs _ (.inl (by rcases hc with e | e <;> (rw [e]; rfl)))] at hc
    exact h.spawned c hc
  · rw [hs _ (.inl hc)] at hc
    rw [hs _ (.inl hc')] at hc'
    exact h.serial c c' hc hc'
  · rw [hs _ (.inl (by rw [hc]; rfl))] at hc
    exact h.joining c w hc
  · by_cases hwt : Tid.watcher w = t
    · rw [hwt, Function.update_same, hpss]
    · rw [Function.update_noteq hwt]
      exact h.watchers w

/-- An idle caller entering a method keeps the invariant, when a start or
stop is entered only with no other under way. -/
theorem OneWatcher.enter {sys : Sys Compiled} (h : OneWatcher sys) {c0 : Nat}
    (hidle : sys.pcs (.caller c0) = .idle) (op : Op)
    (hg : op.entry.startStop → ∀ c, (sys.pcs (.caller c)).startStop = false) :
    OneWatcher { sys with pcs := Function.update sys.pcs (.caller c0) op.entry } := by
  -- a property the entry point lacks, a caller had before the step
  have back : ∀ c (P : Pc → Prop), ¬ P op.entry →
      P (Function.update sys.pcs (.caller c0) op.entry (.caller c)) → P (sys.pcs (.caller c)) := by
    intro c P hP hc
    by_cases hcc : c = c0
    · rw [hcc, Function.update_same] at hc
      exact absurd hc hP
    · rwa [Tid.update_caller_ne _ hcc] at hc
  have hq : op.entry.starting = false ∧ (op.entry ≠ .startSpawn ∧ op.entry ≠ .startStart) ∧
      ∀ w, op.entry ≠ .stopJoin w := by
    cases op <;> simp [Op.entry, Pc.starting]
  refine ⟨fun w hw => h.slot w (by simpa using hw), fun w hw => ?_,
    fun c w hc => by simpa using h.starting c w (back c (·.starting) (by simp [hq.1]) hc),
    fun c hc => h.spawned c (back c (fun p => p = .startSpawn ∨ p = .startStart) (fun e => e.elim hq.2.1.1 hq.2.1.2) hc),
    fun c c' hc hc' => ?_, fun c w hc => h.joining c w (back c (· = .stopJoin w) (hq.2.2 w) hc),
    fun w => by simpa using h.watchers w⟩ <;> dsimp only at *
  · rcases h.monitored w (by simpa using hw) with hm | ⟨c, hs⟩
    · exact .inl hm
    · have hcc : c ≠ c0 := fun e => by rw [e, hidle] at hs; cases hs
      exact .inr ⟨c, by rwa [Tid.update_caller_ne _ hcc]⟩
  · by_cases hcc : c = c0 <;> by_cases hcc' : c' = c0
    · rw [hcc, hcc']
    · rw [hcc, Function.update_same] at hc
      rw [Tid.update_caller_ne _ hcc', hg hc c'] at hc'
      cases hc'
    · rw [hcc', Function.update_same] at hc'
      rw [Tid.update_caller_ne _ hcc, hg hc' c] at hc
      cases hc
    · rw [Tid.update_caller_ne _ hcc] at hc
      rw [Tid.update_caller_ne _ hcc'] at hc'
      exact h.serial c c' hc hc'

/-- **Step lemma.** -/
theorem OneWatcher.exec {sys : Sys Compiled} (h : OneWatcher sys) {a : Action}
    (ha : StartStopSerial sys a) : OneWatcher (sys.exec L env a).1 := by
  cases a with
  | invoke c op =>
    simp only [Sys.exec]
    split_ifs with hidle
    · refine h.enter hidle op fun hs => ?_
      cases op <;> first | exact ha | cases hs
    · exact h
  | tick t =>
    cases hs : (sys.pcs t).startStop
    · exact h.advance L env hs
    · cases t with
      | caller c =>
        simp only [Sys.exec, Sys.tick, hs, ↓reduceIte]
        exact h.control hs
      | watcher w => rw [h.watchers w] at hs; cases hs
  | timeout _ => exact ha.elim
  | write _ => exact ⟨h.1, h.2, h.3, h.4, h.5, h.6, h.7⟩

theorem OneWatcher.fresh (loader : LoaderState Compiled) (dir : ModelDir) :
    OneWatcher (Sys.fresh loader dir) :=
  ⟨fun _ => nofun, fun _ => nofun, fun _ _ => nofun, fun _ => nofun, fun _ _ => nofun, fun _ _ => nofun,
    fun _ => rfl⟩

/-- **One watcher at a time.** When start and stop calls do not overlap
and no join times out, in every reachable state a thread in
`_monitor_loop` is the one `_monitor_thread` holds, so there is at most
one, and there is none at all once `_monitoring` is unset with no start
or stop under way: a watcher stopped by a returned stop does nothing
more. -/
theorem serial_start_stop_one_watcher (loader : LoaderState Compiled) (dir : ModelDir)
    (actions : List Action) (hg : (Sys.fresh loader dir).Guarded L env StartStopSerial actions) :
    (∀ w, (((Sys.fresh loader dir).run L env actions).1.pcs (.watcher w)).live →
      ((Sys.fresh loader dir).run L env actions).1.monitorThread = some w) ∧
    (∀ w w', (((Sys.fresh loader dir).run L env actions).1.pcs (.watcher w)).live →
      (((Sys.fresh loader dir).run L env actions).1.pcs (.watcher w')).live → w = w') ∧
    (((Sys.fresh loader dir).run L env actions).1.monitoring = false →
      (∀ c, (((Sys.fresh loader dir).run L env actions).1.pcs (.caller c)).startStop = false) →
      ∀ w, (((Sys.fresh loader dir).run L env actions).1.pcs (.watcher w)).live = false) := by
  have h := @Sys.run_invariant Model Compiled L env OneWatcher StartStopSerial
    (fun _ _ h ha => h.exec L env ha) actions _ (OneWatcher.fresh loader dir) hg
  refine ⟨h.slot, fun w w' hw hw' => Option.some_inj.mp ((h.slot w hw).symm.trans (h.slot w' hw')), ?_⟩
  intro hm hc w
  refine Bool.eq_false_iff.mpr fun hw => ?_
  rcases h.monitored w hw with hm' | ⟨c, hs⟩
  · exact ne_true_of_eq_false hm hm'
  · exact ne_true_of_eq_false (hc c) (Pc.startStop_of_stopping hs)

/-! ### Runs on a small model directory -/

/-- `a.xml`, `b.xml` with `b.bin`, and `c.onnx`. The stub host's
checksum of a file is its length. -/
def demoDir : ModelDir :=
  ⟨[⟨"a.xml", 1, [1, 2, 3]⟩, ⟨"b.xml", 2, [1, 2, 3, 4, 5]⟩, ⟨"b.bin", 2, [1, 2, 3, 4, 5, 6, 7]⟩,
    ⟨"c.onnx", 3, [1]⟩], by decide⟩

def demoEnv : CallEnv := { dir := demoDir }

/-- What `load_model("a")` records on `demoDir`. -/
def modelA : ModelInfo :=
  { name := "a", version := "latest", format := "openvino", xmlPath := "a.xml", checksum := some "3" }

/-- The loader with model `a` current, nothing else running. -/
def demoSys : Sys String := Sys.fresh { currentModel := some modelA } demoDir

def ticks (t : Tid) (n : Nat) : List Action := List.replicate n (.tick t)

/-- A start, and its watcher up to its first comparison. -/
def startSchedule : List Action := .invoke 0 .start :: ticks (.caller 0) 5 ++ ticks (.watcher 0) 7

theorem startSchedule_guarded : demoSys.Guarded stubLoader demoEnv StartStopSerial startSchedule := by
  simp only [startSchedule, ticks, List.replicate, List.cons_append, List.nil_append, Sys.Guarded,
    StartStopSerial, and_true]
  exact fun _ => rfl

/-- After `startSchedule`, a stop by a second caller whose `join` returns
once the watcher has seen `_monitoring` unset and left the loop. -/
def startStopSchedule : List Action :=
  startSchedule ++ (.invoke 1 .stop :: ticks (.caller 1) 4 ++ ticks (.watcher 0) 2 ++ ticks (.caller 1) 1)

theorem serial_start_stop_one_watcher_on_start_stop :
    (demoSys.run stubLoader demoEnv startStopSchedule).1.monitoring = false ∧
    (demoSys.run stubLoader demoEnv startStopSchedule).2.getLast? = some (.stopReturned (.caller 1)) ∧
    ((∀ w, ((demoSys.run stubLoader demoEnv startStopSchedule).1.pcs (.watcher w)).live →
      (demoSys.run stubLoader demoEnv startStopSchedule).1.monitorThread = some w) ∧
    (∀ w w', ((demoSys.run stubLoader demoEnv startStopSchedule).1.pcs (.watcher w)).live →
      ((demoSys.run stubLoader demoEnv startStopSchedule).1.pcs (.watcher w')).live → w = w') ∧
    ((demoSys.run stubLoader demoEnv startStopSchedule).1.monitoring = false →
      (∀ c, ((demoSys.run stubLoader demoEnv startStopSchedule).1.pcs (.caller c)).startStop = false) →
      ∀ w, ((demoSys.run stubLoader demoEnv startStopSchedule).1.pcs (.watcher w)).live = false)) := by
  refine ⟨by decide, by decide, serial_start_stop_one_watcher stubLoader demoEnv _ _ startStopSchedule ?_⟩
  rw [startStopSchedule, Sys.guarded_append]
  refine ⟨startSchedule_guarded, ?_⟩
  simp only [ticks, List.replicate, List.cons_append, List.nil_append, Sys.Guarded, StartStopSerial,
    and_true]
  intro c
  by_cases hc : c = 0
  · subst hc
    decide
  · -- the start schedule moves only caller `0` and watcher `0`
    have havoid : ∀ a ∈ startSchedule,
        (∀ op, a ≠ .invoke c op) ∧ a ≠ .tick (.caller c) ∧ a ≠ .timeout c := by
      simp [startSchedule, ticks, List.replicate, Ne.symm hc]
    rw [Sys.run_caller_frame stubLoader demoEnv startSchedule _ havoid]
    rfl

/-- A stop whose `join` times out while the watcher sleeps, then a new
start, then the first watcher waking. -/
def restartSchedule : List Action :=
  .invoke 0 .start :: ticks (.caller 0) 5 ++ ticks (.watcher 0) 3 ++
    .invoke 1 .stop :: ticks (.caller 1) 4 ++ [.timeout 1, .invoke 0 .start] ++ ticks (.caller 0) 5 ++
    ticks (.watcher 1) 3 ++ ticks (.watcher 0) 6

theorem timed_out_stop_leaves_two_watchers :
    (demoSys.run stubLoader demoEnv restartSchedule).2 =
        [.stopReturned (.caller 1), .checked (.watcher 0), .hashed (.watcher 0) "a.xml" none] ∧
      (demoSys.run stubLoader demoEnv restartSchedule).1.pcs (.watcher 0) = .sleeping (some "3") ∧
      (demoSys.run stubLoader demoEnv restartSchedule).1.pcs (.watcher 1) = .sleeping (some "3") := by
  decide

/-! ## What a watcher compares with -/

/-- What a point of `_monitor_loop` needs of the current model: the
`last_checksum` it holds is the one the current `ModelInfo` records, and
after its own reload a model is current. -/
def Pc.SyncedWith (current : Option ModelInfo) : Pc → Prop
  | .loopTest last | .sleeping last | .checkNone last | .hashXml last | .checkBin last .. | .hashBin last ..
  | .compare last _ => last = current.bind (·.checksum)
  | .reloadTest (.watcher last) | .reloadName (.watcher last) | .reloadFormat (.watcher last) _
  | .reloadVersion (.watcher last) .. | .reloadLoad (.watcher last) .. => last = current.bind (·.checksum)
  | .afterReload _ => current.isSome
  | _ => True

theorem Pc.syncedWith_of_not_holdsLast {pc : Pc} (h : pc.holdsLast = false) (current : Option ModelInfo) :
    pc.SyncedWith current := by
  cases pc <;> first | trivial | cases h | (cases ‹Origin› <;> trivial)

/-- While watcher `w` holds a `last_checksum`, no other thread runs
`load_model`. -/
def NoOtherPublisher (w : Nat) (sys : Sys Compiled) : Action → Prop
  | .tick t => t ≠ .watcher w → (sys.pcs t).publishing → (sys.pcs (.watcher w)).holdsLast = false
  | _ => True

/-- **Per point**: a step of `_monitor_loop` or of a watcher's reload keeps
its own point in step with the current model. -/
theorem Sys.advance_synced (hstr : env.RendersRaises) (sys : Sys Compiled) (t : Tid) {pc : Pc}
    (h : pc.SyncedWith sys.loader.currentModel) :
    (sys.advance L env t pc).2.1.SyncedWith (sys.advance L env t pc).1.currentModel := by
  cases pc with
  | reloadLoad o n f v =>
    have hspec := (L.loadModel_spec { env with dir := sys.dir } sys.loader n f (some v)).1
    simp only [Sys.advance, Sys.loadModel]
    cases o with
    | caller => split <;> trivial
    | watcher last =>
      split
      · rename_i info hok
        exact hspec.isSome_of_ok hok
      · rename_i e herr
        simp only [Origin.raised, Pc.SyncedWith]
        rw [L.loadModel_error_currentModel { env with dir := sys.dir } sys.loader hstr herr]
        exact h
  | afterReload last =>
    obtain ⟨m, hm⟩ := Option.isSome_iff_exists.mp h
    simp [Sys.advance, Pc.SyncedWith, hm]
  | initTest =>
    simp only [Sys.advance]
    split
    · trivial
    · simp [Pc.SyncedWith, Option.not_isSome_iff_eq_none.mp ‹_›]
  | initRead =>
    simp only [Sys.advance]
    split
    · simp [Pc.SyncedWith, ‹sys.loader.currentModel = _›]
    · trivial
  | _ =>
    simp only [Sys.advance]
    (repeat' split) <;> first | exact h | trivial | (cases ‹Origin› <;> exact h)


/-- Watcher `w`'s point is in step with the current model. -/
def Synced (w : Nat) (sys : Sys Compiled) : Prop :=
  (sys.pcs (.watcher w)).SyncedWith sys.loader.currentModel

/-- **Step lemma.** -/
theorem Synced.exec (hstr : env.RendersRaises) {w : Nat} {sys : Sys Compiled} (h : Synced w sys)
    {a : Action} (ha : NoOtherPublisher w sys a) : Synced w (sys.exec L env a).1 := by
  cases a with
  | invoke c op =>
    simp only [Sys.exec]
    split_ifs
    · simpa only [Synced, Sys.goto, Tid.update_caller_watcher] using h
    · exact h
  | tick t =>
    simp only [Sys.exec, Sys.tick]
    split_ifs
    · unfold Synced
      rw [Sys.control_loader]
      rcases sys.control_pcs t (sys.pcs t) (.watcher w) with e | e | e
      · rw [e]
        exact h
      · rw [e]
        trivial
      · exact Pc.syncedWith_of_not_holdsLast e _
    · by_cases hwt : t = .watcher w
      · subst hwt
        simpa only [Synced, Function.update_same] using sys.advance_synced L env hstr _ h
      · simp only [Synced, Function.update_noteq (Ne.symm hwt)]
        cases hp : (sys.pcs t).publishing
        · rw [sys.advance_loader L env t hp]
          exact h
        · exact Pc.syncedWith_of_not_holdsLast (ha hwt hp) _
  | timeout c =>
    simp only [Sys.exec]
    split
    · simpa only [Synced, Sys.goto, Tid.update_caller_watcher] using h
    · exact h
  | write _ => exact h

/-- `d_1.xml`, a versioned model that a reload can resolve, and the same
file after its bytes change. -/
def versionedDir : ModelDir := ⟨[⟨"d_1.xml", 1, [1, 2, 3]⟩], by decide⟩

def changedDir : ModelDir := ⟨[⟨"d_1.xml", 2, [1, 2, 3, 4]⟩], by decide⟩

/-- What `load_model("d")` records on `versionedDir`. -/
def modelD : ModelInfo :=
  { name := "d", version := "1", format := "openvino", xmlPath := "d_1.xml", checksum := some "3" }

/-- The loader with `d` current, whose reload callback raises an
exception that `str()` cannot render. -/
def versionedSys : Sys String := Sys.fresh { currentModel := some modelD } versionedDir

def unprintableEnv : CallEnv := { dir := versionedDir, callback := unprintableCallback }

/-- A start and the watcher's first comparison; then the file changes,
the watcher reloads, its `load_model` publishes the new model and raises
from the callback's handler, and the watcher comes round to compare. -/
def staleAfterRaiseSchedule : List Action :=
  startSchedule ++ .tick (.watcher 0) :: .write changedDir :: ticks (.watcher 0) 16

/-- With no other thread loading, a watcher whose own reload publishes and
then raises keeps the old `last_checksum`: it next compares the unchanged
files' checksum `"4"`, which the current model records, with `"3"`. -/
theorem unprintable_callback_leaves_stale_checksum :
    versionedSys.Guarded stubLoader unprintableEnv (NoOtherPublisher 0) staleAfterRaiseSchedule ∧
      (versionedSys.run stubLoader unprintableEnv staleAfterRaiseSchedule).1.pcs (.watcher 0) =
        .compare (some "3") "4" ∧
      (versionedSys.run stubLoader unprintableEnv staleAfterRaiseSchedule).1.loader.currentModel.bind
        (·.checksum) = some "4" := by
  refine ⟨?_, by decide, by decide⟩
  simp only [staleAfterRaiseSchedule, startSchedule, ticks, List.replicate, List.cons_append,
    List.nil_append, Sys.Guarded, NoOtherPublisher, and_true]
  constructorm* _ ∧ _ <;> decide

/-- A `reload_model` that has read the name of model `a` when another
thread loads `c.onnx`. -/
def mixedReloadSchedule : List Action :=
  [.invoke 1 .reload, .tick (.caller 1), .tick (.caller 1), .invoke 2 (.load "c" "onnx" none),
    .tick (.caller 2)] ++ ticks (.caller 1) 3

/-- A watcher that has hashed `a.xml` when another thread loads model `b`. -/
def mixedPairSchedule : List Action :=
  .invoke 0 .start :: ticks (.caller 0) 5 ++ ticks (.watcher 0) 6 ++
    [.invoke 1 (.load "b" "openvino" none), .tick (.caller 1)] ++ ticks (.watcher 0) 2

theorem reload_and_watcher_mix_models :
    (demoSys.run stubLoader demoEnv mixedReloadSchedule).2 = [.reloadCalled (.caller 1) "a" "onnx" "latest"] ∧
      (demoSys.run stubLoader demoEnv mixedReloadSchedule).1.loader.currentModel.map
        (fun m => (m.name, m.format, m.version)) = some ("c", "onnx", "latest") ∧
      (demoSys.run stubLoader demoEnv mixedPairSchedule).2 =
        [.checked (.watcher 0), .hashed (.watcher 0) "a.xml" (some "b.bin")] ∧
      (demoSys.run stubLoader demoEnv mixedPairSchedule).1.loader.currentModel.map
        (fun m => (m.xmlPath, m.binPath)) = some ("b.xml", some "b.bin") := by
  decide

end ViewGuard.Monitor
