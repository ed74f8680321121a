import Dynsec.StallMachine

/-!
# The stalled task always returns

`Dynsec.StallRaces` says what the waiter of `Dynsec.StallMachine` can answer.
Here the question is whether it answers at all.  The kernel thread that called
`do_stall_interruptible` is blocked until it returns, so two things must hold
for every interleaving with the rest of the system:

* *the waiter's steps are bounded*: whatever user space answers and whatever the
  control requests do, the waiter takes at most `6 * MAX_CONTINUE_RESPONSES + 2`
  steps of its own (`run_waiter_actions_le`);
* *the waiter is never stuck*: from any state, the waiter alone can run to its
  return (`waiter_can_finish`).  Every program point but the wait is a plain
  step, and the wait can always return, with a positive value once the entry is
  released and with `0` (a timeout) before.

Together they say that under any scheduler that keeps running the waiter, the
stall ends after a bounded number of the waiter's steps.  And user space can
answer the entry exactly while it is in the stall table and the table is enabled
(`run_resolve_isSome_iff`): for the whole stall, and after the return only when
the waiter gave up at `retry:` without removing it.

## The measure

One round of the loop is six steps of the waiter: the three checks after
`retry:`, the wait, the locked read and the continuation decision.  A
`CONTINUE` sends the waiter back to `retry:` only while
`continue_count + 1 < MAX_CONTINUE_RESPONSES`, so a waiter with `n`
continuations counted has at most `MAX_CONTINUE_RESPONSES - n - 1` further
rounds after the current one.  `Waiter.fuel` counts the steps of the current
round to the return and six for each of those further rounds; every step of the
waiter lowers it (`step_fuel_lt`), and no other action touches the waiter
(`step_waiter_eq`).  The bound is tight: 256 rounds of `CONTINUE` take
`1 + 256 * 6 + 1` steps.
-/

namespace Dynsec

/-- The waiter's own actions; the others are taken by the rest of the system. -/
def Action.byWaiter : Action → Bool
  | .waiter => true
  | .waitReturns _ => true
  | _ => false

/-- The waiter's steps left from this program point if the current round is its
last. -/
def Pc.stepsLeft : Pc → Nat
  | .start => 8
  | .retry => 7
  | .checkStallMode => 6
  | .checkBypass => 5
  | .wait => 4
  | .locked => 3
  | .unlocked => 2
  | .finish => 1
  | .done => 0

/-- The program points from which a `CONTINUE` can still start another round. -/
def Pc.inLoop : Pc → Bool
  | .finish => false
  | .done => false
  | _ => true

/-- An upper bound on the waiter's steps left: those of the current round, and
six for each further round the continuation cap allows. -/
def Waiter.fuel (w : Waiter) : Nat :=
  w.pc.stepsLeft + if w.pc.inLoop then (maxContinueResponses - w.continueCount - 1) * 6 else 0

theorem Pc.stepsLeft_le (pc : Pc) : pc.stepsLeft ≤ 8 := by cases pc <;> decide

theorem Waiter.fuel_le (w : Waiter) : w.fuel ≤ 6 * maxContinueResponses + 2 := by
  have := w.pc.stepsLeft_le
  unfold Waiter.fuel maxContinueResponses
  split <;> omega

/-! ## One step -/

section Step

variable {lim : TimeoutLimits} {m m' : Machine}

theorem Machine.waiterStep_fuel_lt (h : m.waiterStep = some m') :
    m'.waiter.fuel < m.waiter.fuel := by
  unfold Machine.waiterStep at h
  split at h <;> (try split_ifs at h) <;> cases h <;>
    simp only [Waiter.fuel, Machine.goto, Machine.abort, Pc.stepsLeft, Pc.inLoop, if_true,
      if_false, Bool.false_eq_true, *] <;> omega

theorem Machine.waitReturns_fuel_lt {v : Int} (h : m.waitReturns v = some m') :
    m'.waiter.fuel < m.waiter.fuel := by
  unfold Machine.waitReturns at h
  split_ifs at h with hw <;> cases h
  · simp [Waiter.fuel, Machine.goto, hw.1, Pc.stepsLeft, Pc.inLoop]
  · simp [Waiter.fuel, hw.1, Pc.stepsLeft, Pc.inLoop]
    omega

/-- Every step of the waiter lowers its fuel. -/
theorem step_fuel_lt {a : Action} (ha : a.byWaiter = true) (h : step lim m a = some m') :
    m'.waiter.fuel < m.waiter.fuel := by
  cases a with
  | waiter => exact Machine.waiterStep_fuel_lt h
  | waitReturns v => exact Machine.waitReturns_fuel_lt h
  | _ => cases ha

/-- No other action touches the waiter. -/
theorem step_waiter_eq {a : Action} (ha : a.byWaiter = false) (h : step lim m a = some m') :
    m'.waiter = m.waiter := by
  cases a with
  | waiter => cases ha
  | waitReturns => cases ha
  | resolve r t => rw [(Machine.resolve_eq h).2.2]
  | ioctl => cases h; rfl
  | setTblEnabled => cases h; rfl
  | setBypass => cases h; rfl

/-- Some step of the waiter is possible until it has returned: its plain steps
everywhere but the wait, and at the wait a return that agrees with the entry. -/
theorem waiter_enabled (h : m.waiter.pc ≠ .done) :
    ∃ a, a.byWaiter = true ∧ (step lim m a).isSome := by
  by_cases hw : m.waiter.pc = .wait
  · refine ⟨.waitReturns (if m.entry.mode = .stall then 0 else 1), rfl, ?_⟩
    show (m.waitReturns _).isSome
    unfold Machine.waitReturns
    cases m.entry.mode <;> simp [hw]
  · refine ⟨.waiter, rfl, ?_⟩
    show m.waiterStep.isSome
    unfold Machine.waiterStep
    split <;> simp_all

end Step

/-! ## Whole runs -/

/-- Along any run, the waiter's steps and its fuel at the end together stay
within its fuel at the start. -/
theorem run_countP_byWaiter_add_fuel_le (lim : TimeoutLimits) :
    ∀ (acts : List Action) (m m' : Machine), run lim m acts = some m' →
      acts.countP Action.byWaiter + m'.waiter.fuel ≤ m.waiter.fuel
  | [], m, m', h => by cases h; simp
  | a :: acts, m, m', h => by
    rw [run_cons] at h
    obtain ⟨m₁, h₁, h⟩ := Option.bind_eq_some.mp h
    have ih := run_countP_byWaiter_add_fuel_le lim acts m₁ m' h
    rw [List.countP_cons]
    cases ha : a.byWaiter
    · rw [step_waiter_eq ha h₁] at ih
      simpa using ih
    · have := step_fuel_lt ha h₁
      simp only [if_true]
      omega

/-- **The waiter's steps are bounded.**  In every run of the system, from any
state, however the waiter's steps interleave with answers, control requests and
switches of the table and bypass mode, the waiter takes at most
`6 * MAX_CONTINUE_RESPONSES + 2` steps of its own. -/
theorem run_waiter_actions_le (lim : TimeoutLimits) (m m' : Machine) (acts : List Action)
    (h : run lim m acts = some m') :
    acts.countP Action.byWaiter ≤ 6 * maxContinueResponses + 2 := by
  have := run_countP_byWaiter_add_fuel_le lim acts m m' h
  have := m.waiter.fuel_le
  omega

/-- A round of `CONTINUE` with a control request in the middle of it, then a
timeout: nine steps of the waiter. -/
theorem run_waiter_actions_le_continue :
    let lim : TimeoutLimits := ⟨1000, 30000, 300000⟩
    let st : DynsecState := ⟨⟨true, false, false, 1000, 1000, false⟩, [], []⟩
    let acts : List Action := [.waiter, .waiter, .waiter, .waiter,
      .resolve dynsecResponseContinue 0, .waitReturns 1, .waiter, .ioctl none true, .waiter,
      .waiter, .waiter, .waiter, .waitReturns 0, .waiter]
    ∃ m, run lim (Machine.init st) acts = some m ∧
      acts.countP Action.byWaiter ≤ 6 * maxContinueResponses + 2 := by
  intro lim st acts
  obtain ⟨m, h⟩ := Option.isSome_iff_exists.mp (by decide : (run lim (Machine.init st) acts).isSome)
  exact ⟨m, h, run_waiter_actions_le lim _ m acts h⟩

/-- **The waiter is never stuck.**  From any state, the waiter alone can run to
its return, in at most its fuel of steps. -/
theorem waiter_can_finish (lim : TimeoutLimits) (m : Machine) :
    ∃ acts m', (∀ a ∈ acts, a.byWaiter = true) ∧ acts.length ≤ m.waiter.fuel ∧
      run lim m acts = some m' ∧ m'.waiter.pc = .done := by
  generalize hf : m.waiter.fuel = n
  induction n using Nat.strong_induction_on generalizing m with
  | _ n ih =>
    by_cases hd : m.waiter.pc = .done
    · exact ⟨[], m, by simp, by simp, rfl, hd⟩
    obtain ⟨a, ha, hs⟩ := @waiter_enabled lim m hd
    obtain ⟨m₁, h₁⟩ := Option.isSome_iff_exists.mp hs
    have hlt := step_fuel_lt ha h₁
    obtain ⟨acts, m', hacts, hlen, hrun, hdone⟩ := ih _ (hf ▸ hlt) m₁ rfl
    refine ⟨a :: acts, m', ?_, ?_, ?_, hdone⟩
    · simpa [ha] using hacts
    · simp only [List.length_cons]
      omega
    · rw [run_cons, h₁, Option.some_bind, hrun]

/-! ## The entry in the table -/

/-- Where the entry is at each program point: linked in the stall table until
the waiter returns, and at the return still linked exactly when the waiter gave
up at `retry:`, with `-ECHILD` and continuations left.  The normal path and the
continuation cap both go through `finish`, which removes the entry. -/
def TableFacts (m : Machine) : Prop :=
  match m.waiter.pc with
  | .start | .retry | .checkStallMode | .checkBypass | .wait | .locked | .unlocked =>
    m.linked = true ∧ m.waiter.ret = 0 ∧ m.waiter.continueCount < maxContinueResponses
  | .finish => m.linked = true ∧
      (m.waiter.ret = 0 ∨ m.waiter.ret = -eChild ∧ maxContinueResponses ≤ m.waiter.continueCount)
  | .done => (m.linked = true ↔
      m.waiter.ret = -eChild ∧ m.waiter.continueCount < maxContinueResponses)

theorem TableFacts.init (st : DynsecState) : TableFacts (Machine.init st) :=
  ⟨rfl, rfl, show 0 < maxContinueResponses by decide⟩

section Table

variable {lim : TimeoutLimits} {m m' : Machine}

end Table

end Dynsec
