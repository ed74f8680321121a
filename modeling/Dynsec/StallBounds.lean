import Dynsec.HookProperties

/-!
# What a stall costs: its waits, their total, and the continuation cap

`do_stall_interruptible` is the one place where user space decides how long a
kernel task sleeps.  Each `CONTINUE` response sends the waiter back to `retry:`
for another round, with a timeout the response itself may choose, and
`MAX_CONTINUE_RESPONSES` caps how often that can happen.  This file measures a
stall by its trace: `waitCount` counts the rounds that slept, `waitedJiffies`
adds up how long each slept, `msecs_to_jiffies` of its timeout.

## Termination without trusting user space

A jump back to `retry:` follows a `CONTINUE` release and is taken only while
the incremented `continue_count` is below the cap, so whatever user space
answers, a stall sleeps at most `MAX_CONTINUE_RESPONSES` times
(`doStallInterruptible_waits_le`).  The bound is reached: a stall whose rounds
all continue sleeps exactly that often and then leaves through the cap branch.

## What the cap decides, and what it does not bound

The cap branch sets `ret = -ECHILD` and falls through with the local response
still `CONTINUE`, which is not `DENY`, so `*response` keeps the `0` that
`dynsec_wait_event_timeout` wrote; that function discards the return code, and
the hook returns `0`.  A stall that runs into the cap is therefore *allowed*
(`hook_continue_cap_allows`).

The cap bounds the number of rounds, not their length.  A `CONTINUE` response
carrying a non-zero timeout is used as the next round's timeout as it stands, so
the total a stall sleeps is bounded by the first round and the longest round a
continuation asks for (`doStallInterruptible_waitedJiffies_le`), and not by the
configuration (`stall_wait_exceeds_bound`): a response asking for `2^31`
milliseconds or more makes its round wait `MAX_JIFFY_OFFSET` jiffies.
-/

namespace Dynsec

/-! ## Measures of a trace -/

/-- A sleep on the entry's wait queue. -/
def Effect.isWait : Effect → Bool
  | .wait _ => true
  | _ => false

/-- How long a call sleeps, in jiffies: `msecs_to_jiffies` of its timeout for a
wait, `0` for every other call. -/
def Effect.waitJiffies : Effect → Nat
  | .wait t => msecsToJiffies t
  | _ => 0

/-- How many times a trace sleeps. -/
def waitCount (trace : List Effect) : Nat := trace.countP Effect.isWait

/-- How long a trace sleeps in all, in jiffies. -/
def waitedJiffies : List Effect → Nat
  | [] => 0
  | e :: es => e.waitJiffies + waitedJiffies es

@[simp] theorem waitCount_waited (s : StallResult) (t : Nat) :
    waitCount (s.waited t).trace = waitCount s.trace + 1 := by
  simp [waitCount, Effect.isWait]

@[simp] theorem waitedJiffies_waited (s : StallResult) (t : Nat) :
    waitedJiffies (s.waited t).trace = msecsToJiffies t + waitedJiffies s.trace := rfl

@[simp] theorem waitCount_exit (t : Nat) : waitCount [.wait t, .removeEntry] = 1 := rfl

@[simp] theorem waitedJiffies_exit (t : Nat) :
    waitedJiffies [.wait t, .removeEntry] = msecsToJiffies t := rfl

/-! ## What a continuing round does -/

section Rounds

variable {d : Int} {n : Nat} {r : Round}

/-- A continuing round that leaves the loop is at the cap. -/
theorem cap_le_of_continues_finish (hr : r.continues = true) {ret lr : Int}
    (h : stallRound d n r = .finish ret lr) :
    maxContinueResponses ≤ n + 1 ∧ ret = -eChild ∧ lr = dynsecResponseContinue := by
  obtain ⟨lt, -, hs⟩ := @stallRound_of_continues d n _ hr
  rw [h] at hs
  split_ifs at hs with hlt
  cases hs
  exact ⟨by omega, rfl, rfl⟩

/-- A continuing round never aborts. -/
theorem stallRound_ne_abort_of_continues (hr : r.continues = true) : stallRound d n r ≠ .abort := by
  obtain ⟨lt, -, hs⟩ := @stallRound_of_continues d n _ hr
  rw [hs]
  split_ifs <;> exact fun h => by cases h

end Rounds

/-! ## The loop -/

section Loop

variable {d : Int} {rounds : Nat → Round} {resp : Int}

/-- From `continue_count = n` below the cap, the loop sleeps at most
`MAX_CONTINUE_RESPONSES - n` times. -/
theorem stallRetry_waitCount_le : ∀ n t, n < maxContinueResponses →
    waitCount (stallRetry d rounds resp n t).trace ≤ maxContinueResponses - n := by
  intro n t
  induction n, t using stallRetry.induct d rounds resp with
  | case1 n t h => intro _; simp [stallRetry_abort h, waitCount]
  | case2 n t ret lr h => intro hn; rw [stallRetry_finish h, waitCount_exit]; omega
  | case3 n t t' h ih =>
    intro _
    have hlt := stallRound_retry_lt h
    have := ih hlt
    rw [stallRetry_retry h, waitCount_waited]
    omega

/-- A loop whose rounds from `continue_count = n` on all continue runs into the
cap: it sleeps `MAX_CONTINUE_RESPONSES - n` times, removes the entry once,
returns `-ECHILD`, and leaves `*response` as it found it. -/
theorem stallRetry_at_cap : ∀ n t, n < maxContinueResponses →
    (∀ i, n ≤ i → i < maxContinueResponses → (rounds i).continues = true) →
    waitCount (stallRetry d rounds resp n t).trace = maxContinueResponses - n ∧
      (stallRetry d rounds resp n t).trace.count .removeEntry = 1 ∧
      (stallRetry d rounds resp n t).ret = -eChild ∧
      (stallRetry d rounds resp n t).response = resp := by
  intro n t
  induction n, t using stallRetry.induct d rounds resp with
  | case1 n t h =>
    intro hn hcont
    exact absurd h (stallRound_ne_abort_of_continues (hcont n le_rfl hn))
  | case2 n t ret lr h =>
    intro hn hcont
    obtain ⟨hcap, rfl, rfl⟩ := cap_le_of_continues_finish (hcont n le_rfl hn) h
    rw [stallRetry_finish h, waitCount_exit, if_neg (by decide)]
    exact ⟨by omega, rfl, rfl, rfl⟩
  | case3 n t t' h ih =>
    intro _ hcont
    have hlt := stallRound_retry_lt h
    obtain ⟨h1, h2, h3, h4⟩ := ih hlt fun i hi => hcont i (by omega)
    rw [stallRetry_retry h]
    refine ⟨by rw [waitCount_waited, h1]; omega, by simpa using h2, h3, h4⟩

/-- If `get_continue_timeout()` and every non-zero timeout a `CONTINUE` response
asks for wait at most `K` jiffies, the loop from `continue_count = n` sleeps at
most its first round and `MAX_CONTINUE_RESPONSES - 1 - n` more rounds of `K`. -/
theorem stallRetry_waitedJiffies_le {K : Nat} (hc : ∀ i, msecsToJiffies (rounds i).continueTimeout ≤ K)
    (hb : ∀ i lt, (rounds i).wait = .released dynsecResponseContinue lt → lt ≠ 0 →
      msecsToJiffies lt ≤ K) :
    ∀ n t, n < maxContinueResponses → waitedJiffies (stallRetry d rounds resp n t).trace ≤
      msecsToJiffies t + (maxContinueResponses - 1 - n) * K := by
  intro n t
  induction n, t using stallRetry.induct d rounds resp with
  | case1 n t h => intro _; simp [stallRetry_abort h, waitedJiffies]
  | case2 n t ret lr h => intro _; rw [stallRetry_finish h, waitedJiffies_exit]; omega
  | case3 n t t' h ih =>
    intro _
    have hlt := stallRound_retry_lt h
    have hnext := ih hlt
    have ht' : msecsToJiffies t' ≤ K := by
      obtain ⟨-, -, -, -, lt, hw, rfl⟩ := stallRound_retry_inv h
      split_ifs with h0
      exacts [hb n lt hw h0, hc n]
    have hsplit : maxContinueResponses - 1 - n = (maxContinueResponses - 1 - (n + 1)) + 1 := by
      omega
    rw [stallRetry_retry h, waitedJiffies_waited, hsplit, Nat.succ_mul]
    omega

/-- If every round from `continue_count = n` on continues, each asking for a
timeout that waits at least `u > 0` jiffies, the loop sleeps at least its first
round and `MAX_CONTINUE_RESPONSES - 1 - n` more rounds of `u`. -/
theorem stallRetry_waitedJiffies_ge {u : Nat} (hu0 : 0 < u)
    (hu : ∀ i lt, (rounds i).wait = .released dynsecResponseContinue lt → u ≤ msecsToJiffies lt) :
    ∀ n t, n < maxContinueResponses →
      (∀ i, n ≤ i → i < maxContinueResponses → (rounds i).continues = true) →
      msecsToJiffies t + (maxContinueResponses - 1 - n) * u ≤
        waitedJiffies (stallRetry d rounds resp n t).trace := by
  intro n t
  induction n, t using stallRetry.induct d rounds resp with
  | case1 n t h =>
    intro hn hcont
    exact absurd h (stallRound_ne_abort_of_continues (hcont n le_rfl hn))
  | case2 n t ret lr h =>
    intro hn hcont
    have hcap := (cap_le_of_continues_finish (hcont n le_rfl hn) h).1
    have hzero : maxContinueResponses - 1 - n = 0 := by omega
    rw [stallRetry_finish h, waitedJiffies_exit, hzero, Nat.zero_mul, Nat.add_zero]
  | case3 n t t' h ih =>
    intro _ hcont
    have hlt := stallRound_retry_lt h
    have hnext := ih hlt fun i hi => hcont i (by omega)
    have ht' : u ≤ msecsToJiffies t' := by
      obtain ⟨-, -, -, -, lt, hw, rfl⟩ := stallRound_retry_inv h
      have := hu n lt hw
      rw [if_pos fun h0 => by simp [h0] at this; omega]
      exact this
    have hsplit : maxContinueResponses - 1 - n = (maxContinueResponses - 1 - (n + 1)) + 1 := by
      omega
    rw [stallRetry_retry h, waitedJiffies_waited, hsplit, Nat.succ_mul]
    omega

end Loop

/-! ## Termination -/

/-- **A stall sleeps at most `MAX_CONTINUE_RESPONSES` times, whatever user space
answers.**  Every jump back to `retry:` follows a `CONTINUE` release, is taken
only while the incremented `continue_count` is below the cap, and goes on with
`continue_count + 1`. -/
theorem doStallInterruptible_waits_le (d : Int) (t : Nat) (rounds : Nat → Round) (resp : Int) :
    waitCount (doStallInterruptible d t rounds resp).trace ≤ maxContinueResponses ∧
      ∀ n t', stallRound d n (rounds n) = .retry t' →
        (rounds n).continues = true ∧ n + 1 < maxContinueResponses ∧
          ∀ t, stallRetry d rounds resp n t = (stallRetry d rounds resp (n + 1) t').waited t :=
  ⟨by simpa using stallRetry_waitCount_le 0 t (by decide),
    fun _ _ h => ⟨continues_of_stallRound_retry h, stallRound_retry_lt h,
      fun _ => stallRetry_retry h⟩⟩

/-! ## The continuation cap -/

/-- `dynsec_wait_event_timeout` hands back a `*response` of `0` when every round
of its stall below the cap continues. -/
theorem dynsecWaitEventTimeout_response_at_cap (env : WaitEnv) (ev : DynsecEvent)
    (hcont : ∀ i < maxContinueResponses, (env.rounds i).continues = true) :
    (dynsecWaitEventTimeout env (some ev)).response = 0 := by
  rcases dynsecWaitEventTimeout_cases env ev with ⟨-, hr⟩ | ⟨h, -⟩
  · exact hr
  · rw [h]
    exact (stallRetry_at_cap 0 _ (by decide) fun i _ hi => hcont i hi).2.2.2

/-- **At the continuation cap the task is let through.**  If a hook stalls on
`ev` and user space releases the stall with `CONTINUE` in each of the first
`MAX_CONTINUE_RESPONSES` rounds, whatever timeouts it asks for, the stall sleeps
exactly `MAX_CONTINUE_RESPONSES` times and leaves through the cap branch with
`-ECHILD` and `*response` untouched; `dynsec_wait_event_timeout` hands back
`0`, and the hook returns `0`, which allows the operation. -/
theorem hook_continue_cap_allows (env : HookEnv) (c : HookCall) (ev : DynsecEvent)
    (hwait : Effect.waitEvent ev ∈ (c.run env).trace)
    (hcont : ∀ i < maxContinueResponses, (env.wait.rounds i).continues = true) :
    let s := doStallInterruptible (insertDefault env.wait.denyOnTimeout) env.wait.waitTimeout
      env.wait.rounds 0
    waitCount s.trace = maxContinueResponses ∧ s.ret = -eChild ∧ s.response = 0 ∧
      (dynsecWaitEventTimeout env.wait (some ev)).response = 0 ∧ (c.run env).ret = 0 := by
  obtain ⟨h1, -, h3, h4⟩ := @stallRetry_at_cap (insertDefault env.wait.denyOnTimeout)
    env.wait.rounds 0 0 env.wait.waitTimeout (by decide) fun i _ hi => hcont i hi
  have hresp := dynsecWaitEventTimeout_response_at_cap env.wait ev hcont
  refine ⟨h1, h3, h4, hresp, ?_⟩
  rw [((HookCall.shape env c).waitEvent hwait).2.2.2.2, stallRet, hresp]
  exact ite_self 0

/-- An exec from a task outside the agent, under default-deny, whose every round
is released with `CONTINUE` and no timeout of its own. -/
theorem hook_continue_cap_allows_exec :
    let env : HookEnv := ⟨dynsecHookTypeExec, true, fun _ => false, ⟨100, 100, false⟩, true, true, 1,
      ⟨true, false, none, true, 1000,
        fun _ => ⟨true, true, false, .released dynsecResponseContinue 0, 1000⟩⟩, {}⟩
    let ev : DynsecEvent := ⟨.exec, dynsecHookTypeExec, dynsecReportAudit ||| dynsecReportStall, 100⟩
    let c := HookCall.bprmSetCreds (some ⟨some ⟨0, none⟩⟩)
    Effect.waitEvent ev ∈ (c.run env).trace ∧ (c.run env).ret = 0 := by
  intro env ev c
  have hwait : Effect.waitEvent ev ∈ (c.run env).trace := by decide
  exact ⟨hwait, (hook_continue_cap_allows env c ev hwait fun _ _ => rfl).2.2.2.2⟩

/-- The same exec, under default-deny, after `MAX_CONTINUE_RESPONSES` answers of
`CONTINUE`: the hook does not deny. -/
theorem hook_continue_cap_exec_not_deny :
    let env : HookEnv := ⟨dynsecHookTypeExec, true, fun _ => false, ⟨100, 100, false⟩, true, true, 1,
      ⟨true, false, none, true, 1000,
        fun _ => ⟨true, true, false, .released dynsecResponseContinue 0, 1000⟩⟩, {}⟩
    let c := HookCall.bprmSetCreds (some ⟨some ⟨0, none⟩⟩)
    (∀ i < maxContinueResponses, (env.wait.rounds i).continues = true) ∧ (c.run env).ret ≠ -ePerm := by
  intro env c
  let ev : DynsecEvent := ⟨.exec, dynsecHookTypeExec, dynsecReportAudit ||| dynsecReportStall, 100⟩
  have hwait : Effect.waitEvent ev ∈ (c.run env).trace := by decide
  have hresp := dynsecWaitEventTimeout_response_at_cap env.wait ev fun _ _ => rfl
  refine ⟨fun _ _ => rfl, ?_⟩
  rw [((HookCall.shape env c).waitEvent hwait).2.2.2.2, stallRet, hresp, ite_self]
  decide

/-! ## How long a stall sleeps -/

/-- **What bounds a stall's total sleep.**  If `get_continue_timeout()` and every
non-zero timeout a `CONTINUE` response asks for wait at most `K` jiffies, a stall
sleeps at most `msecs_to_jiffies(get_wait_timeout()) + (MAX_CONTINUE_RESPONSES - 1) · K`
jiffies: its first round, and at most `MAX_CONTINUE_RESPONSES - 1` continuations.
Nothing bounds `K` but the responses themselves: a continuation timeout of
`2^31` milliseconds or more waits `MAX_JIFFY_OFFSET` jiffies. -/
theorem doStallInterruptible_waitedJiffies_le (d resp : Int) (s K : Nat) (rounds : Nat → Round)
    (hc : ∀ i, msecsToJiffies (rounds i).continueTimeout ≤ K)
    (hb : ∀ i lt, (rounds i).wait = .released dynsecResponseContinue lt → lt ≠ 0 →
      msecsToJiffies lt ≤ K) :
    waitedJiffies (doStallInterruptible d s rounds resp).trace ≤
      msecsToJiffies s + (maxContinueResponses - 1) * K := by
  simpa using stallRetry_waitedJiffies_le hc hb 0 s (by decide)

/-- Responses that ask for no timeout of their own, under a continuation timeout
of one second. -/
theorem doStallInterruptible_waitedJiffies_le_default :
    let rounds : Nat → Round :=
      fun _ => ⟨true, true, false, .released dynsecResponseContinue 0, 1000⟩
    (∀ i, msecsToJiffies (rounds i).continueTimeout ≤ 1000) ∧
      waitedJiffies (doStallInterruptible dynsecResponseAllow 1000 rounds 0).trace ≤
        msecsToJiffies 1000 + (maxContinueResponses - 1) * 1000 := by
  intro rounds
  have hc : ∀ i, msecsToJiffies (rounds i).continueTimeout ≤ 1000 := fun _ =>
    (show msecsToJiffies 1000 ≤ 1000 by decide)
  exact ⟨hc, doStallInterruptible_waitedJiffies_le _ _ 1000 1000 rounds hc
    fun _ _ h h0 => by cases h; exact absurd rfl h0⟩

/-- User space can hold a task beyond any configured bound.  If every round is
released with `CONTINUE`, each response asking for a timeout that waits at least
`u` jiffies, with `MAX_CONTINUE_RESPONSES · c < (MAX_CONTINUE_RESPONSES - 1) · u`,
the stall sleeps longer than `msecs_to_jiffies(s) + MAX_CONTINUE_RESPONSES · c`:
a response's own timeout is never clamped. -/
theorem stall_wait_exceeds_bound (d resp : Int) (s c u : Nat) (rounds : Nat → Round)
    (hcont : ∀ i < maxContinueResponses, (rounds i).continues = true)
    (hu : ∀ i lt, (rounds i).wait = .released dynsecResponseContinue lt → u ≤ msecsToJiffies lt)
    (hgt : maxContinueResponses * c < (maxContinueResponses - 1) * u) :
    msecsToJiffies s + maxContinueResponses * c <
      waitedJiffies (doStallInterruptible d s rounds resp).trace := by
  have hu0 : 0 < u := Nat.pos_of_ne_zero fun h => by simp [h] at hgt
  have hge := @stallRetry_waitedJiffies_ge d rounds resp u hu0 hu 0 s (by decide)
    fun i _ hi => hcont i hi
  rw [Nat.sub_zero] at hge
  exact lt_of_lt_of_le (Nat.add_lt_add_left hgt (msecsToJiffies s)) hge

/-- A stall timeout and a continuation timeout of one second, and responses that
each ask for `0xFFFFFFFF` milliseconds, the largest 32-bit timeout: every round
waits `MAX_JIFFY_OFFSET` jiffies, far beyond `s + MAX_CONTINUE_RESPONSES · c`. -/
theorem stall_wait_exceeds_bound_u32_max :
    let rounds : Nat → Round :=
      fun _ => ⟨true, true, false, .released dynsecResponseContinue 0xFFFFFFFF, 1000⟩
    1000 + maxContinueResponses * 1000 <
      waitedJiffies (doStallInterruptible dynsecResponseAllow 1000 rounds 0).trace := by
  intro rounds
  exact stall_wait_exceeds_bound _ _ 1000 1000 maxJiffyOffset rounds (fun _ _ => rfl)
    (fun _ _ h => by cases h; exact le_rfl) (by decide)

end Dynsec
