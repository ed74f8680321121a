import Dynsec.Config

/-!
# The wait loop of `do_stall_interruptible`, one round at a time

`do_stall_interruptible` waits on a stall entry in rounds.  Each round starts at
the `retry:` label with three checks (stall table enabled, stall mode on, bypass
mode off), then waits until user space releases the entry or the timeout
passes, and then either stops or, on a `CONTINUE` response, goes round again with
a new timeout.  Here the loop is run against an environment that says what each
round observes, so every statement is over *every* sequence of round outcomes:
`rounds i` is what the round with `continue_count = i` sees, which is the
`(i+1)`-th pass through `retry:`.

## One round, then the loop

`stallRound` is one round: it reads the round's observation and decides to
abort (a failed check at `retry:`), to finish with a return code and a local
response, or to go round again with a new timeout.  `stallRetry` iterates it;
its only recursive case is `.retry`, and `stallRound_retry_lt` says a round only
goes round again while `continue_count + 1 < MAX_CONTINUE_RESPONSES`, which is
the termination argument.  Every statement about the loop is proved by
`stallRetry.induct` from the equations `stallRetry_abort`, `stallRetry_finish`
and `stallRetry_retry`, never by unfolding the loop itself.

## Time

A timeout is kept in milliseconds, as `get_wait_timeout()`, `entry->stall_timeout`
and `get_continue_timeout()` give it; the wait sleeps `msecs_to_jiffies` of it.
The model takes `HZ = 1000`, where a jiffy is a millisecond, and keeps the one
case where the conversion is not the identity: an argument that is negative as
an `int`, from `2^31` milliseconds on, waits `MAX_JIFFY_OFFSET` jiffies
(`msecsToJiffies`).

## Two facts about the code

* The three checks at `retry:` `return -ECHILD` directly, skipping the
  `stall_tbl_remove_entry` that every other exit runs: the loop removes the
  entry once, or not at all exactly when the round it stops at aborts at
  `retry:` (`stallRetry_removeEntry_count`).  `dynsec_wait_event_timeout` then frees the
  entry, still linked in the stall table (`dynsecWaitEventTimeout_frees_linked`).
* When a stall ends before the continuation cap, its verdict is that of its last
  round: `-EPERM` exactly for a released `DENY`, or a timeout or interrupt under a
  `DENY` default (`stallRetry_response`).

`Dynsec.StallRefinement` connects this model to the interleaving one of
`Dynsec.StallMachine`: the machine realises every script of rounds, and
`Dynsec.StallAbstraction` shows that every interleaving returns what the loop
returns on some script.
-/

namespace Dynsec

/-- `MAX_JIFFY_OFFSET` on a 64-bit kernel: `(LONG_MAX >> 1) - 1`. -/
def maxJiffyOffset : Nat := 2 ^ 62 - 2

/-- `msecs_to_jiffies` with `HZ = 1000`.  Its argument is an `unsigned int`; one
that is negative as an `int` gives `MAX_JIFFY_OFFSET`. -/
def msecsToJiffies (m : Nat) : Nat :=
  if m % 2 ^ 32 < 2 ^ 31 then m % 2 ^ 32 else maxJiffyOffset

theorem msecsToJiffies_of_lt {m : Nat} (h : m < 2 ^ 31) : msecsToJiffies m = m := by
  rw [msecsToJiffies, Nat.mod_eq_of_lt (by omega), if_pos h]

@[simp] theorem msecsToJiffies_zero : msecsToJiffies 0 = 0 := rfl

/-- What one `wait_event_interruptible_timeout` returns.  On a release the round
goes on to copy `entry->response` and `entry->stall_timeout` under the entry
lock; `released` carries the two values copied. -/
inductive WaitResult where
  /-- `wait_ret < 0`. -/
  | interrupted
  /-- `wait_ret == 0`. -/
  | timedOut
  /-- `wait_ret > 0`, followed by the locked read. -/
  | released (response : Int) (stallTimeout : Nat)
  deriving DecidableEq, Repr

/-- What one pass through `retry:` observes: the three flags, what the wait
returns, and what `get_continue_timeout()` returns if the round continues. -/
structure Round where
  tblEnabled : Bool
  stallMode : Bool
  bypassMode : Bool
  wait : WaitResult
  continueTimeout : Nat
  deriving DecidableEq, Repr

/-- What a round decides. -/
inductive RoundStep where
  /-- One of the checks at `retry:` failed: `return -ECHILD`. -/
  | abort
  /-- Leave the loop towards the common exit, with `ret` and `local_response`. -/
  | finish (ret localResponse : Int)
  /-- `goto retry` with a new timeout. -/
  | retry (timeout : Nat)
  deriving DecidableEq, Repr

/-- One round of the wait loop, lines 109-176 of `hooks.h`. -/
def stallRound (defaultReponse : Int) (continueCount : Nat) (r : Round) : RoundStep :=
  if !r.tblEnabled || !r.stallMode || r.bypassMode then .abort
  else
    match r.wait with
    | .interrupted => .finish 0 defaultReponse
    | .timedOut => .finish 0 defaultReponse
    | .released localResponse localTimeout =>
      if localResponse = dynsecResponseContinue then
        if continueCount + 1 < maxContinueResponses then
          .retry (if localTimeout ≠ 0 then localTimeout else r.continueTimeout)
        else .finish (-eChild) localResponse
      else .finish 0 localResponse

/-- What a round that goes round again read: every check at `retry:` passed, a
`CONTINUE` release below the cap, and the next timeout is the response's own if it
is non-zero, else `get_continue_timeout()`. -/
theorem stallRound_retry_inv {d : Int} {n : Nat} {r : Round} {t : Nat}
    (h : stallRound d n r = .retry t) :
    r.tblEnabled = true ∧ r.stallMode = true ∧ r.bypassMode = false ∧
      n + 1 < maxContinueResponses ∧ ∃ lt, r.wait = .released dynsecResponseContinue lt ∧
        t = if lt ≠ 0 then lt else r.continueTimeout := by
  unfold stallRound at h
  by_cases hc : (!r.tblEnabled || !r.stallMode || r.bypassMode) = true
  · rw [if_pos hc] at h; cases h
  rw [if_neg hc] at h
  simp only [Bool.or_eq_true, Bool.not_eq_true', not_or, Bool.not_eq_true,
    Bool.not_eq_false] at hc
  obtain ⟨⟨h1, h2⟩, h3⟩ := hc
  split at h
  · cases h
  · cases h
  · rename_i lr lt hw
    by_cases hl : lr = dynsecResponseContinue
    · by_cases hn : n + 1 < maxContinueResponses
      · rw [if_pos hl, if_pos hn, RoundStep.retry.injEq] at h
        exact ⟨h1, h2, h3, hn, lt, hl ▸ hw, h.symm⟩
      · rw [if_pos hl, if_neg hn] at h; cases h
    · rw [if_neg hl] at h; cases h

theorem stallRound_retry_lt {d : Int} {n : Nat} {r : Round} {t : Nat}
    (h : stallRound d n r = .retry t) : n + 1 < maxContinueResponses :=
  (stallRound_retry_inv h).2.2.2.1

/-- The result of the stall: the return code, the final `*response`, and the
calls made. -/
structure StallResult where
  ret : Int
  response : Int
  trace : List Effect
  deriving DecidableEq, Repr

/-- A result with one more wait in front of its calls. -/
def StallResult.waited (s : StallResult) (timeout : Nat) : StallResult :=
  { s with trace := .wait timeout :: s.trace }

@[simp] theorem StallResult.waited_ret (s : StallResult) (t : Nat) : (s.waited t).ret = s.ret := rfl

@[simp] theorem StallResult.waited_response (s : StallResult) (t : Nat) :
    (s.waited t).response = s.response := rfl

@[simp] theorem StallResult.waited_trace (s : StallResult) (t : Nat) :
    (s.waited t).trace = .wait t :: s.trace := rfl

/-- The wait loop from `retry:` on, with `continue_count = continueCount` and the
given `timeout`.  An abort returns without touching `*response`; every other exit
sets `*response = -EPERM` on a `DENY` local response and then removes the entry
(lines 178-186). -/
def stallRetry (defaultReponse : Int) (rounds : Nat → Round) (response : Int)
    (continueCount timeout : Nat) : StallResult :=
  match h : stallRound defaultReponse continueCount (rounds continueCount) with
  | .abort => ⟨-eChild, response, []⟩
  | .finish ret localResponse =>
    ⟨ret, if localResponse = dynsecResponseEperm then -ePerm else response,
      [.wait timeout, .removeEntry]⟩
  | .retry timeout' =>
    (stallRetry defaultReponse rounds response (continueCount + 1) timeout').waited timeout
termination_by maxContinueResponses - continueCount
decreasing_by have := stallRound_retry_lt h; omega

section Equations

variable {d : Int} {rounds : Nat → Round} {resp : Int} {n t : Nat}

theorem stallRetry_abort (h : stallRound d n (rounds n) = .abort) :
    stallRetry d rounds resp n t = ⟨-eChild, resp, []⟩ := by
  rw [stallRetry]; split <;> simp_all

theorem stallRetry_finish {ret lr : Int} (h : stallRound d n (rounds n) = .finish ret lr) :
    stallRetry d rounds resp n t =
      ⟨ret, if lr = dynsecResponseEperm then -ePerm else resp, [.wait t, .removeEntry]⟩ := by
  rw [stallRetry]; split <;> simp_all

theorem stallRetry_retry {t' : Nat} (h : stallRound d n (rounds n) = .retry t') :
    stallRetry d rounds resp n t = (stallRetry d rounds resp (n + 1) t').waited t := by
  rw [stallRetry]; split <;> simp_all

end Equations

/-- `do_stall_interruptible`: the default response is read from the entry, the
first round waits `get_wait_timeout()`. -/
def doStallInterruptible (entryResponse : Int) (waitTimeout : Nat) (rounds : Nat → Round)
    (response : Int) : StallResult :=
  stallRetry entryResponse rounds response 0 waitTimeout

/-! ## What one round decides -/

/-- A round sends the waiter back to `retry:`: every check passes and user space
answers `CONTINUE`. -/
def Round.continues (r : Round) : Bool :=
  r.tblEnabled && r.stallMode && !r.bypassMode &&
    match r.wait with
    | .released response _ => response == dynsecResponseContinue
    | _ => false

section RoundFacts

variable {d : Int} {n : Nat} {r : Round}

/-- Only a continuing round goes round again. -/
theorem continues_of_stallRound_retry {t : Nat} (h : stallRound d n r = .retry t) :
    r.continues = true := by
  obtain ⟨h1, h2, h3, -, lt, hw, -⟩ := stallRound_retry_inv h
  simp [Round.continues, h1, h2, h3, hw]

/-- A continuing round goes round again below the cap, with the response's own
timeout if it is non-zero and `get_continue_timeout()` otherwise, and at the cap
leaves the loop with `-ECHILD` and its local response still `CONTINUE`. -/
theorem stallRound_of_continues (hr : r.continues = true) :
    ∃ lt, r.wait = .released dynsecResponseContinue lt ∧ stallRound d n r =
      if n + 1 < maxContinueResponses then .retry (if lt ≠ 0 then lt else r.continueTimeout)
      else .finish (-eChild) dynsecResponseContinue := by
  unfold Round.continues at hr
  rcases hw : r.wait with _ | _ | ⟨resp, lt⟩ <;> simp only [hw, Bool.and_false, Bool.false_eq_true] at hr
  simp only [Bool.and_eq_true, beq_iff_eq, Bool.not_eq_true'] at hr
  obtain ⟨⟨⟨h1, h2⟩, h3⟩, rfl⟩ := hr
  exact ⟨lt, rfl, by simp [stallRound, h1, h2, h3, hw]⟩

end RoundFacts

/-- The loop from `continue_count = n` stops at round `k`: rounds `n .. k-1` go
round again and round `k` does not. -/
def StopsAt (d : Int) (rounds : Nat → Round) (n k : Nat) : Prop :=
  n ≤ k ∧ (∀ i, n ≤ i → i < k → ∃ t, stallRound d i (rounds i) = .retry t) ∧
    ∀ t, stallRound d k (rounds k) ≠ .retry t

/-- **The loop removes the entry unless it stops at a check at `retry:`.**  The
loop stops at some round; it calls `stall_tbl_remove_entry` not at all when that
round aborts at `retry:`, and exactly once otherwise, the continuation cap
(which also returns `-ECHILD`) included. -/
theorem stallRetry_removeEntry_count (d : Int) (rounds : Nat → Round) (resp : Int) :
    ∀ n t, ∃ k, StopsAt d rounds n k ∧
      (stallRetry d rounds resp n t).trace.count .removeEntry =
        if stallRound d k (rounds k) = .abort then 0 else 1 := by
  intro n t
  induction n, t using stallRetry.induct d rounds resp with
  | case1 n t h =>
    refine ⟨n, ⟨le_rfl, fun i hi hik => absurd hik (by omega), fun t => by rw [h]; simp⟩, ?_⟩
    simp [stallRetry_abort h, h]
  | case2 n t ret lr h =>
    refine ⟨n, ⟨le_rfl, fun i hi hik => absurd hik (by omega), fun t => by rw [h]; simp⟩, ?_⟩
    simp [stallRetry_finish h, h]
  | case3 n t t' h ih =>
    obtain ⟨k, ⟨hk, hcont, hstop⟩, hcount⟩ := ih
    refine ⟨k, ⟨by omega, fun i hi hik => ?_, hstop⟩, by simpa [stallRetry_retry h] using hcount⟩
    rcases Nat.eq_or_lt_of_le hi with rfl | hi
    · exact ⟨t', h⟩
    · exact hcont i hi hik

/-- The loop makes no call but its waits and the removal. -/
theorem stallRetry_trace_mem (d : Int) (rounds : Nat → Round) (resp : Int) :
    ∀ n t, ∀ x ∈ (stallRetry d rounds resp n t).trace, x = .removeEntry ∨ ∃ t', x = .wait t' := by
  intro n t
  induction n, t using stallRetry.induct d rounds resp with
  | case1 n t h => simp [stallRetry_abort h]
  | case2 n t ret lr h =>
    simp only [stallRetry_finish h, List.mem_cons, List.mem_singleton, List.not_mem_nil,
      or_false]
    rintro x (rfl | rfl)
    · exact .inr ⟨t, rfl⟩
    · exact .inl rfl
  | case3 n t t' h ih =>
    rw [stallRetry_retry h, StallResult.waited_trace]
    rintro x (_ | ⟨_, hx⟩)
    · exact .inr ⟨t, rfl⟩
    · exact ih x hx

/-- The loop leaves `*response` as it found it, or sets it to `-EPERM`. -/
theorem stallRetry_response_eq (d : Int) (rounds : Nat → Round) (resp : Int) :
    ∀ n t, (stallRetry d rounds resp n t).response = resp ∨
      (stallRetry d rounds resp n t).response = -ePerm := by
  intro n t
  induction n, t using stallRetry.induct d rounds resp with
  | case1 n t h => exact .inl (by rw [stallRetry_abort h])
  | case2 n t ret lr h => rw [stallRetry_finish h]; split_ifs <;> simp
  | case3 n t t' h ih => rwa [stallRetry_retry h, StallResult.waited_response]

/-- The loop disposes of no event. -/
theorem disposals_stallRetry (ev : DynsecEvent) (d : Int) (rounds : Nat → Round) (resp : Int)
    (n t : Nat) : disposals ev (stallRetry d rounds resp n t).trace = 0 := by
  rw [disposals, List.countP_eq_zero]
  intro x hx
  rcases stallRetry_trace_mem d rounds resp n t x hx with rfl | ⟨t', rfl⟩ <;>
    simp [Effect.disposes]

/-! ## `dynsec_wait_event_timeout` -/

/-- Modelled from the spec: `stall_tbl.c` is not under `src/`.  A fresh stall
entry's response is the configured default, `DENY` if `deny_on_timeout` and
`ALLOW` otherwise (§4.1, step 2). -/
def insertDefault (denyOnTimeout : Bool) : Int :=
  if denyOnTimeout then dynsecResponseEperm else dynsecResponseAllow

/-- What `dynsec_wait_event_timeout` observes.  `insert` is the outcome of
`stall_tbl_insert`: `none` when it returns an entry, `some e` when it returns
`ERR_PTR(e)`. -/
structure WaitEnv where
  tblEnabled : Bool
  ignoreMode : Bool
  insert : Option Int
  denyOnTimeout : Bool
  waitTimeout : Nat
  rounds : Nat → Round

/-- `dynsec_wait_event_timeout`: `*response` starts at `0`; a missing event, a
disabled table, an ignorable event and a failed insert free the event and return
an error; otherwise the event is published, the stall runs, and the entry is
freed.  The return code of the stall is discarded. -/
def dynsecWaitEventTimeout (env : WaitEnv) : Option DynsecEvent → StallResult
  | none => ⟨-eInval, 0, []⟩
  | some ev =>
    if !env.tblEnabled then ⟨-eInval, 0, [.free ev]⟩
    else if HasFlag ev.reportFlags dynsecReportIgnore ∧ env.ignoreMode = true then
      ⟨-eChild, 0, [.free ev]⟩
    else
      match env.insert with
      | some err => ⟨err, 0, [.free ev]⟩
      | none =>
        let s := doStallInterruptible (insertDefault env.denyOnTimeout) env.waitTimeout
          env.rounds 0
        ⟨0, s.response, .insert ev :: s.trace ++ [.kfreeEntry]⟩

/-- The event's fate in `dynsec_wait_event_timeout`: freed there, or published by
`stall_tbl_insert` and then stalled on. -/
theorem dynsecWaitEventTimeout_cases (env : WaitEnv) (ev : DynsecEvent) :
    ((dynsecWaitEventTimeout env (some ev)).trace = [.free ev] ∧
        (dynsecWaitEventTimeout env (some ev)).response = 0) ∨
      (dynsecWaitEventTimeout env (some ev) =
        (let s := doStallInterruptible (insertDefault env.denyOnTimeout) env.waitTimeout
          env.rounds 0
        ⟨0, s.response, .insert ev :: s.trace ++ [.kfreeEntry]⟩) ∧
        env.tblEnabled = true ∧ ¬ (HasFlag ev.reportFlags dynsecReportIgnore ∧
          env.ignoreMode = true) ∧ env.insert = none) := by
  by_cases h1 : env.tblEnabled = true
  · by_cases h2 : HasFlag ev.reportFlags dynsecReportIgnore ∧ env.ignoreMode = true
    · left; simp [dynsecWaitEventTimeout, h1, h2]
    · rcases hi : env.insert with _ | e
      · right; simp [dynsecWaitEventTimeout, h1, h2, hi]
      · left; simp [dynsecWaitEventTimeout, h1, h2, hi]
  · left; simp [dynsecWaitEventTimeout, h1]

/-- `dynsec_wait_event_timeout` disposes of its event exactly once: it frees it,
or `stall_tbl_insert` publishes it. -/
theorem disposals_dynsecWaitEventTimeout (env : WaitEnv) (ev : DynsecEvent) :
    disposals ev (dynsecWaitEventTimeout env (some ev)).trace = 1 := by
  rcases dynsecWaitEventTimeout_cases env ev with ⟨h, -⟩ | ⟨h, -⟩
  · simp [h, disposals, Effect.disposes]
  · have hloop := disposals_stallRetry ev (insertDefault env.denyOnTimeout) env.rounds 0 0
      env.waitTimeout
    rw [h]
    simp only [disposals, doStallInterruptible] at hloop ⊢
    simp [List.countP_append, Effect.disposes, hloop]

/-- `dynsec_wait_event_timeout` sets `*response` to `-EPERM` or leaves it `0`. -/
theorem dynsecWaitEventTimeout_response_eq (env : WaitEnv) (ev : DynsecEvent) :
    (dynsecWaitEventTimeout env (some ev)).response = 0 ∨
      (dynsecWaitEventTimeout env (some ev)).response = -ePerm := by
  rcases dynsecWaitEventTimeout_cases env ev with ⟨-, h⟩ | ⟨h, -⟩
  · exact .inl h
  · rw [h]
    exact stallRetry_response_eq _ env.rounds 0 0 env.waitTimeout

/-- What `dynsec_wait_event_timeout` calls: the event's free or publication, and
the stall's waits, removal and `kfree` of the entry. -/
theorem dynsecWaitEventTimeout_trace_mem (env : WaitEnv) (ev : DynsecEvent) {x : Effect}
    (h : x ∈ (dynsecWaitEventTimeout env (some ev)).trace) :
    x = .free ev ∨ x = .insert ev ∨ x = .removeEntry ∨ (∃ t, x = .wait t) ∨ x = .kfreeEntry := by
  rcases dynsecWaitEventTimeout_cases env ev with ⟨ht, -⟩ | ⟨ht, -⟩
  · simp_all
  · rw [ht] at h
    simp only [doStallInterruptible, List.cons_append, List.mem_cons, List.mem_append,
      List.not_mem_nil, or_false] at h
    rcases h with h | h | h
    · exact .inr (.inl h)
    · rcases stallRetry_trace_mem _ _ _ _ _ _ h with h | h
      · exact .inr (.inr (.inl h))
      · exact .inr (.inr (.inr (.inl h)))
    · exact .inr (.inr (.inr (.inr h)))

/-- **The entry is freed while still linked.**  With the table enabled when the
event is inserted and stall mode already off at the first pass through `retry:`
(nothing checks stall mode before the insert), the stall returns at `retry:`
without calling `stall_tbl_remove_entry`, and `dynsec_wait_event_timeout` frees
the entry: the published entry is never unlinked. -/
theorem dynsecWaitEventTimeout_frees_linked (ev : DynsecEvent)
    (hev : ¬ HasFlag ev.reportFlags dynsecReportIgnore) (deny : Bool) (t : Nat)
    (r : Round) (hr : r.tblEnabled = true ∧ r.stallMode = false) :
    (dynsecWaitEventTimeout ⟨true, false, none, deny, t, fun _ => r⟩ (some ev)).trace =
      [.insert ev, .kfreeEntry] := by
  have hab : stallRound (insertDefault deny) 0 r = .abort := by
    simp [stallRound, hr.1, hr.2]
  simp [dynsecWaitEventTimeout, hev, doStallInterruptible,
    @stallRetry_abort _ (fun _ => r) _ _ _ hab]

/-- The defect at an exec event from a task outside the agent, with the first
round seeing stall mode off. -/
theorem dynsecWaitEventTimeout_frees_linked_exec :
    ¬ HasFlag (dynsecReportAudit ||| dynsecReportStall) dynsecReportIgnore ∧
      (dynsecWaitEventTimeout ⟨true, false, none, false, 1000,
        fun _ => ⟨true, false, false, .timedOut, 1000⟩⟩
        (some ⟨.exec, dynsecHookTypeExec, dynsecReportAudit ||| dynsecReportStall, 42⟩)).trace =
      [.insert ⟨.exec, dynsecHookTypeExec, dynsecReportAudit ||| dynsecReportStall, 42⟩,
        .kfreeEntry] :=
  ⟨by decide, dynsecWaitEventTimeout_frees_linked _ (by decide) false 1000
    ⟨true, false, false, .timedOut, 1000⟩ ⟨rfl, rfl⟩⟩

end Dynsec
