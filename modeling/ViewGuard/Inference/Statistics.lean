import Mathlib.Algebra.Order.Field.Rat
import Mathlib.Logic.Function.Basic
import Mathlib.Tactic.NormNum

/-!
# Inference — the statistics counters under threads

`_inference_count` and `_total_inference_time` of `InferenceEngine`
(`ai_service/inference.py`), shared by every thread that calls `infer`,
`reset_statistics` or `get_statistics`. Nothing guards them.

Each call is cut into the attribute accesses the bytecode makes: a `+=`
is a read and then a write, `reset_statistics` is two writes, and
`get_statistics` reads `_inference_count` for the `> 0` test, reads both
fields for the division, and reads both again for the returned dict. A
thread's program point (`Pc`) holds what it has read so far; `tick`
performs its next access. A schedule is any list of invocations and
ticks, and `run` records the history of calls and returns, in the order
they happen.

The sequential meaning is `seqStep`. **`run_serial`**: a schedule in
which no two calls overlap answers every call as `seqStep` does.
**`interleaved_calls_break_statistics`**: two overlapping `infer` calls
lose an increment, and a `reset_statistics` landing inside
`get_statistics` makes it raise `ZeroDivisionError`.
-/

namespace ViewGuard.Statistics

/-- `_inference_count` and `_total_inference_time`, as `__init__` and
`reset_statistics` set them. -/
structure Stats where
  count : Nat := 0
  total : ℚ := 0
  deriving DecidableEq

/-! ## One call at a time -/

/-- The two `+=` at the end of a successful `infer`. -/
def Stats.record (s : Stats) (time : ℚ) : Stats := ⟨s.count + 1, s.total + time⟩

/-- `get_statistics()`: total inferences, total time, average time. -/
def Stats.get (s : Stats) : Nat × ℚ × ℚ :=
  (s.count, s.total, if s.count > 0 then s.total / s.count else 0)

/-- A call into the statistics: a successful `infer` whose measured time
is `time` ms, `reset_statistics` or `get_statistics`. -/
inductive Op
  | infer (time : ℚ)
  | reset
  | get

/-- What a call returns, or the exception it raises. -/
inductive Result
  | inferred
  | reset
  | stats (totalInferences : Nat) (totalTimeMs averageTimeMs : ℚ)
  | zeroDivision

/-- The sequential meaning of one call. -/
def seqStep (s : Stats) : Op → Stats × Result
  | .infer time => (s.record time, .inferred)
  | .reset => ({}, .reset)
  | .get => (s, .stats s.get.1 s.get.2.1 s.get.2.2)

/-! ## Threads -/

/-- Where a thread stands inside its call, with the values it has read. -/
inductive Pc
  | idle
  /-- `self._inference_count += 1`: read, then write. -/
  | inferReadCount (time : ℚ)
  | inferWriteCount (time : ℚ) (count : Nat)
  /-- `self._total_inference_time += inference_time`: read, then write. -/
  | inferReadTotal (time : ℚ)
  | inferWriteTotal (time : ℚ) (total : ℚ)
  /-- `reset_statistics`: the two writes. -/
  | resetCount
  | resetTotal
  /-- `get_statistics`: the `> 0` test, the division, then the dict. -/
  | getTest
  | getDivideTotal
  | getDivideCount (total : ℚ)
  | getCount (avg : ℚ)
  | getTotal (avg : ℚ) (count : Nat)

/-- Where a call starts. -/
def Op.start : Op → Pc
  | .infer time => .inferReadCount time
  | .reset => .resetCount
  | .get => .getTest

/-- One attribute access of the thread at `pc`: its next point, the
counters after it, and the call's outcome when this access ends it. -/
def tick (s : Stats) : Pc → Pc × Stats × Option Result
  | .idle => (.idle, s, none)
  | .inferReadCount time => (.inferWriteCount time s.count, s, none)
  | .inferWriteCount time count => (.inferReadTotal time, { s with count := count + 1 }, none)
  | .inferReadTotal time => (.inferWriteTotal time s.total, s, none)
  | .inferWriteTotal time total => (.idle, { s with total := total + time }, some .inferred)
  | .resetCount => (.resetTotal, { s with count := 0 }, none)
  | .resetTotal => (.idle, { s with total := 0 }, some .reset)
  | .getTest => (if s.count > 0 then .getDivideTotal else .getCount 0, s, none)
  | .getDivideTotal => (.getDivideCount s.total, s, none)
  | .getDivideCount total =>
    if s.count = 0 then (.idle, s, some .zeroDivision)
    else (.getCount (total / s.count), s, none)
  | .getCount avg => (.getTotal avg s.count, s, none)
  | .getTotal avg count => (.idle, s, some (.stats count s.total avg))

/-- The shared counters and every thread's program point. -/
structure Sys where
  stats : Stats
  pcs : Nat → Pc

/-- The counters `s`, with no call in progress. -/
def Sys.quiet (s : Stats) : Sys := ⟨s, fun _ => .idle⟩

/-- A scheduling choice: thread `thread` enters a call, or makes its next
access. -/
inductive Action
  | invoke (thread : Nat) (op : Op)
  | tick (thread : Nat)

/-- The history a run leaves, in real-time order. -/
inductive Event
  | call (thread : Nat) (op : Op)
  | ret (thread : Nat) (result : Result)

/-- One scheduling choice. A thread already inside a call cannot enter
another one. -/
def exec (sys : Sys) : Action → Sys × List Event
  | .invoke i op =>
    match sys.pcs i with
    | .idle => (⟨sys.stats, Function.update sys.pcs i op.start⟩, [.call i op])
    | _ => (sys, [])
  | .tick i =>
    let r := tick sys.stats (sys.pcs i)
    (⟨r.2.1, Function.update sys.pcs i r.1⟩, (r.2.2.map (Event.ret i)).toList)

/-- A schedule run from `sys`: the final system and the history. -/
def run (sys : Sys) : List Action → Sys × List Event
  | [] => (sys, [])
  | a :: rest =>
    let r := exec sys a
    let after := run r.1 rest
    (after.1, r.2 ++ after.2)

/-! ## Calls that do not overlap -/

/-- A call run to its end before anything else happens; five accesses
finish the longest call, and a thread with no call makes none. -/
def serialCall (i : Nat) (op : Op) : List Action :=
  .invoke i op :: List.replicate 5 (.tick i)

/-- The schedule that runs the calls one after another. -/
def serial (calls : List (Nat × Op)) : List Action :=
  calls.flatMap fun c => serialCall c.1 c.2

/-- The history a sequential object gives the calls, in order. -/
def seqRun (s : Stats) : List (Nat × Op) → Stats × List Event
  | [] => (s, [])
  | c :: rest =>
    let r := seqStep s c.2
    let after := seqRun r.1 rest
    (after.1, .call c.1 c.2 :: .ret c.1 r.2 :: after.2)

theorem run_append (sys : Sys) (xs ys : List Action) :
    run sys (xs ++ ys) = ((run (run sys xs).1 ys).1, (run sys xs).2 ++ (run (run sys xs).1 ys).2) := by
  induction xs generalizing sys with
  | nil => rfl
  | cons a rest ih =>
    rw [List.cons_append]
    simp only [run]
    rw [ih]
    simp

@[simp]
theorem update_quiet (i : Nat) : Function.update (fun _ : Nat => Pc.idle) i .idle = fun _ => .idle :=
  Function.update_eq_self i _

/-- **Step lemma.** One call on its own, from no call in progress. -/
theorem run_serialCall (s : Stats) (i : Nat) (op : Op) :
    run (Sys.quiet s) (serialCall i op) =
      (Sys.quiet (seqStep s op).1, [.call i op, .ret i (seqStep s op).2]) := by
  cases op with
  | infer time => simp [serialCall, run, exec, Sys.quiet, Op.start, tick, seqStep, Stats.record]
  | reset => simp [serialCall, run, exec, Sys.quiet, Op.start, tick, seqStep]
  | get =>
    rcases Nat.eq_zero_or_pos s.count with h | h
    · simp [serialCall, run, exec, Sys.quiet, Op.start, tick, seqStep, Stats.get, h]
    · simp [serialCall, run, exec, Sys.quiet, Op.start, tick, seqStep, Stats.get, h,
        Nat.pos_iff_ne_zero.mp h]

/-- **Run lemma.** Calls that do not overlap are answered as the
sequential object answers them, and leave its counters. -/
theorem run_serial (s : Stats) (calls : List (Nat × Op)) :
    run (Sys.quiet s) (serial calls) = (Sys.quiet (seqRun s calls).1, (seqRun s calls).2) := by
  induction calls generalizing s with
  | nil => rfl
  | cons c rest ih =>
    simp only [serial, List.flatMap_cons, run_append, run_serialCall] at ih ⊢
    rw [ih]
    rfl

/-! ## Overlapping calls -/

/-- Two `infer` calls that both read `_inference_count` before either
writes it, then a `get_statistics` on its own. -/
def lostUpdateSchedule : List Action :=
  [.invoke 0 (.infer 5), .invoke 1 (.infer 7), .tick 0, .tick 1, .tick 0, .tick 1,
    .tick 0, .tick 0, .tick 1, .tick 1] ++ serialCall 0 .get

/-- A `get_statistics` that passes its `> 0` test, then a whole
`reset_statistics`, then the division. -/
def resetInsideGetSchedule : List Action :=
  serialCall 0 (.infer 5) ++ [.invoke 1 .get, .tick 1] ++ serialCall 0 .reset ++ [.tick 1, .tick 1]

theorem interleaved_calls_break_statistics :
    (run (Sys.quiet {}) lostUpdateSchedule).2 =
        [.call 0 (.infer 5), .call 1 (.infer 7), .ret 0 .inferred, .ret 1 .inferred,
          .call 0 .get, .ret 0 (.stats 1 12 12)] ∧
      (run (Sys.quiet {}) resetInsideGetSchedule).2 =
        [.call 0 (.infer 5), .ret 0 .inferred, .call 1 .get, .call 0 .reset, .ret 0 .reset,
          .ret 1 .zeroDivision] := by
  constructor <;>
    norm_num [lostUpdateSchedule, resetInsideGetSchedule, serialCall, run, exec, Sys.quiet, Op.start,
      tick, Function.update]

/-! ## Only a reset makes `get_statistics` raise -/

/-- Between the `> 0` test of `get_statistics` and its division. -/
def Pc.dividing : Pc → Bool
  | .getDivideTotal | .getDivideCount _ => true
  | _ => false

/-- No thread is about to zero `_inference_count`, and every thread
between its `> 0` test and its division still sees a positive count. -/
def DivisionSafe (sys : Sys) : Prop :=
  ∀ j, sys.pcs j ≠ .resetCount ∧ ((sys.pcs j).dividing → 0 < sys.stats.count)

/-- A scheduling choice that starts no `reset_statistics`. -/
def Action.resetFree : Action → Bool
  | .invoke _ .reset => false
  | _ => true

theorem DivisionSafe.quiet (s : Stats) : DivisionSafe (Sys.quiet s) :=
  fun _ => by simp [Sys.quiet, Pc.dividing]

/-- Only `Op.start` puts a thread at `resetCount`. -/
theorem tick_ne_resetCount (s : Stats) (pc : Pc) : (tick s pc).1 ≠ .resetCount := by
  cases pc with
  | getTest => by_cases hc : 0 < s.count <;> simp [tick, hc]
  | getDivideCount total => by_cases hc : s.count = 0 <;> simp [tick, hc]
  | _ => simp [tick]

/-- Away from `reset_statistics`, an access never zeroes the count: it
keeps it or writes a successor. -/
theorem tick_count (s : Stats) {pc : Pc} (hpc : pc ≠ .resetCount) :
    (tick s pc).2.1.count = s.count ∨ 0 < (tick s pc).2.1.count := by
  cases pc with
  | resetCount => exact absurd rfl hpc
  | getDivideCount total => by_cases hc : s.count = 0 <;> simp [tick, hc]
  | _ => simp [tick]

/-- The accessing thread itself: it only reaches a dividing point with a
positive count, and never divides by zero from a safe state. -/
theorem tick_dividing (s : Stats) {pc : Pc} (hpc : pc.dividing → 0 < s.count) :
    ((tick s pc).1.dividing → 0 < (tick s pc).2.1.count) ∧ (tick s pc).2.2 ≠ some .zeroDivision := by
  cases pc with
  | getTest => by_cases hc : 0 < s.count <;> simp [tick, hc, Pc.dividing]
  | getDivideTotal => simpa [tick, Pc.dividing] using hpc
  | getDivideCount total =>
    simp [tick, Nat.pos_iff_ne_zero.mp (hpc rfl), Pc.dividing]
  | _ => simp [tick, Pc.dividing]

/-- **Step lemma.** A reset-free choice keeps the system division-safe and
raises no `ZeroDivisionError`. -/
theorem exec_divisionSafe {sys : Sys} (h : DivisionSafe sys) {a : Action} (ha : a.resetFree) :
    DivisionSafe (exec sys a).1 ∧ ∀ j, Event.ret j .zeroDivision ∉ (exec sys a).2 := by
  cases a with
  | invoke i op =>
    simp only [exec]
    split
    · refine ⟨fun j => ?_, by simp⟩
      by_cases hj : j = i
      · subst hj
        simp only [Function.update_same]
        cases op <;> simp_all [Action.resetFree, Op.start, Pc.dividing]
      · simp only [Function.update_noteq hj]
        exact h j
    · exact ⟨h, by simp⟩
  | tick i =>
    obtain ⟨hreset, hdiv⟩ := h i
    obtain ⟨hdiv', hzero⟩ := tick_dividing sys.stats hdiv
    simp only [exec]
    refine ⟨fun j => ?_, fun j hj => hzero ?_⟩
    · by_cases hj : j = i
      · subst hj
        simp only [Function.update_same]
        exact ⟨tick_ne_resetCount _ _, hdiv'⟩
      · obtain ⟨hreset', hdivj⟩ := h j
        simp only [Function.update_noteq hj]
        refine ⟨hreset', fun hd => ?_⟩
        rcases tick_count sys.stats hreset with hc | hc
        · rw [hc]
          exact hdivj hd
        · exact hc
    · cases hr : (tick sys.stats (sys.pcs i)).2.2 with
      | none => simp [hr] at hj
      | some r =>
        simp only [hr, Option.map_some', Option.toList_some, List.mem_singleton, Event.ret.injEq] at hj
        exact congrArg some hj.2.symm

/-- **Run lemma.** From a division-safe state, a schedule that starts no
`reset_statistics` never makes `get_statistics` raise, however its
accesses interleave (increments may still be lost). -/
theorem run_no_zeroDivision {sys : Sys} (h : DivisionSafe sys) {sched : List Action}
    (hs : ∀ a ∈ sched, a.resetFree) (j : Nat) : Event.ret j .zeroDivision ∉ (run sys sched).2 := by
  induction sched generalizing sys with
  | nil => simp [run]
  | cons a rest ih =>
    obtain ⟨hsafe, hnone⟩ := exec_divisionSafe h (hs a (List.mem_cons_self a rest))
    simp only [run, List.mem_append, not_or]
    exact ⟨hnone j, ih hsafe fun b hb => hs b (List.mem_cons_of_mem a hb)⟩

theorem lostUpdate_raises_nothing :
    (∀ a ∈ lostUpdateSchedule, a.resetFree) ∧
      Event.ret 0 .zeroDivision ∉ (run (Sys.quiet {}) lostUpdateSchedule).2 :=
  ⟨by decide, run_no_zeroDivision (DivisionSafe.quiet {}) (by decide) 0⟩

end ViewGuard.Statistics
