import Dynsec.StallMachine

/-!
# The interleaving model realises the sequential loop

`Dynsec.Stall` runs `do_stall_interruptible` against a script of round outcomes;
`Dynsec.StallMachine` runs it one line at a time among other threads.  They are
models of the same code at two grains, and this file connects them: every script
of rounds is played out by some schedule of the machine, which then returns what
the sequential loop returns, with the same `*response`
(`doStallInterruptible_realized`).

A round becomes a schedule in three parts (`roundActions`).  The environment
first shows the three flags the round sees at `retry:`: it enables or disables
the stall table, sends a privileged `STALL_MODE_SET` request, and switches bypass
mode (`setFlags`).  The waiter then runs its checks, as far as the first that
fails.  Last, the wait ends as the round says: a timeout or an interrupt is a
wait that returns `0` or `-1`; a release is a `resolve` with the round's response
and timeout, a wait that returns one jiffy left, the locked read and the
continuation decision.  A script becomes the schedule of its rounds, up to the
one that ends the stall (`scriptActions`).  Timeouts are not compared: the
machine has no clock, and a wait may end whatever its timeout.

So every behaviour of the sequential model, the verdict law of `Dynsec.Stall`
among them, is a behaviour of the machine.  The converse fails, and the races of
`Dynsec.StallRaces` are where it fails.
-/

namespace Dynsec

/-- A privileged request that sets only the stall mode. -/
def stallModeRequest (enabled : Bool) : DynsecStallIocHdr :=
  ⟨dynsecStallModeSet, if enabled then 1 else 0, 0, 0, 0⟩

@[simp] theorem handleStallIoc_stallModeRequest (lim : TimeoutLimits) (enabled : Bool)
    (s : DynsecState) :
    (handleStallIoc lim (some (stallModeRequest enabled)) true s).2.config.stallMode = enabled := by
  have hmask : ¬ dynsecStallModeSet &&& dynsecStallIocFlags = 0 := by decide
  have hset : dynsecStallModeSet &&& dynsecStallIocFlags &&& dynsecStallModeSet ≠ 0 := by decide
  simp only [handleStallIoc, stallModeRequest, hmask, if_false, Bool.not_true,
    Bool.false_eq_true, iocDefaultDeny_stallMode, iocContinueTimeout_stallMode,
    iocDefaultTimeout_stallMode, iocStallMode_stallMode _ _ _ hset]
  cases enabled <;> decide

/-- The environment shows round `r`'s flags at `retry:`. -/
def setFlags (r : Round) : List Action :=
  [.setTblEnabled r.tblEnabled, .ioctl (some (stallModeRequest r.stallMode)) true,
    .setBypass r.bypassMode]

/-- The actions after the checks of a round that passes them: the wait, and for
a release the `resolve` before it and the locked read and continuation decision
after it. -/
def waitActions : WaitResult → List Action
  | .interrupted => [.waitReturns (-1)]
  | .timedOut => [.waitReturns 0]
  | .released response stallTimeout =>
    [.resolve response stallTimeout, .waitReturns 1, .waiter, .waiter]

/-- The actions of one round from `retry:`: its flags, the checks the waiter
runs, and for a round that passes them its wait. -/
def roundActions (r : Round) : List Action :=
  setFlags r ++
    if !r.tblEnabled then [.waiter]
    else if !r.stallMode then [.waiter, .waiter]
    else if r.bypassMode then [.waiter, .waiter, .waiter]
    else [.waiter, .waiter, .waiter] ++ waitActions r.wait

/-- The schedule of a script from round `n` on: each round's actions, up to the
round that ends the stall, and for a round that leaves the loop the common exit. -/
def scriptActions (defaultReponse : Int) (rounds : Nat → Round) (continueCount : Nat) :
    List Action :=
  match h : stallRound defaultReponse continueCount (rounds continueCount) with
  | .abort => roundActions (rounds continueCount)
  | .finish _ _ => roundActions (rounds continueCount) ++ [.waiter]
  | .retry _ =>
    roundActions (rounds continueCount) ++ scriptActions defaultReponse rounds (continueCount + 1)
termination_by maxContinueResponses - continueCount
decreasing_by have := stallRound_retry_lt h; omega

section Equations

variable {d : Int} {rounds : Nat → Round} {n : Nat}

theorem scriptActions_abort (h : stallRound d n (rounds n) = .abort) :
    scriptActions d rounds n = roundActions (rounds n) := by
  rw [scriptActions]; split <;> simp_all

theorem scriptActions_finish {ret lr : Int} (h : stallRound d n (rounds n) = .finish ret lr) :
    scriptActions d rounds n = roundActions (rounds n) ++ [.waiter] := by
  rw [scriptActions]; split <;> simp_all

theorem scriptActions_retry {t : Nat} (h : stallRound d n (rounds n) = .retry t) :
    scriptActions d rounds n = roundActions (rounds n) ++ scriptActions d rounds (n + 1) := by
  rw [scriptActions]; split <;> simp_all

end Equations

theorem run_append (lim : TimeoutLimits) :
    ∀ (m : Machine) (as bs : List Action),
      run lim m (as ++ bs) = (run lim m as).bind fun m' => run lim m' bs
  | m, [], bs => rfl
  | m, a :: as, bs => by
    rw [List.cons_append, run_cons, run_cons, Option.bind_assoc]
    congr 1
    funext m'
    exact run_append lim m' as bs

/-- The waiter is at `retry:` after `n` continuations, with the default `d` read,
`*response = resp` and no error yet, and the entry is armed and linked. -/
structure AtRetry (m : Machine) (n : Nat) (d resp : Int) : Prop where
  pc : m.waiter.pc = .retry
  continueCount : m.waiter.continueCount = n
  defaultReponse : m.waiter.defaultReponse = d
  response : m.waiter.response = resp
  ret : m.waiter.ret = 0
  mode : m.entry.mode = .stall
  linked : m.linked = true

theorem atRetry_iff {m : Machine} {n : Nat} {d resp : Int} :
    AtRetry m n d resp ↔ m.waiter.pc = .retry ∧ m.waiter.continueCount = n ∧
      m.waiter.defaultReponse = d ∧ m.waiter.response = resp ∧ m.waiter.ret = 0 ∧
      m.entry.mode = .stall ∧ m.linked = true :=
  ⟨fun h => ⟨h.1, h.2, h.3, h.4, h.5, h.6, h.7⟩,
    fun ⟨h1, h2, h3, h4, h5, h6, h7⟩ => ⟨h1, h2, h3, h4, h5, h6, h7⟩⟩

/-- A run ends with the waiter returned, with return value `ret` and
`*response = response`. -/
def Realizes (o : Option Machine) (ret response : Int) : Prop :=
  ∃ m, o = some m ∧ m.waiter.pc = .done ∧ m.waiter.ret = ret ∧ m.waiter.response = response

@[simp] theorem realizes_some {m : Machine} {ret response : Int} :
    Realizes (some m) ret response ↔
      m.waiter.pc = .done ∧ m.waiter.ret = ret ∧ m.waiter.response = response := by
  simp [Realizes]

/-- The waiter is inside a round's wait, with `local_response` reset to the
default `d`, and the entry armed and linked. -/
structure AtWait (m : Machine) (n : Nat) (d resp : Int) : Prop where
  pc : m.waiter.pc = .wait
  continueCount : m.waiter.continueCount = n
  defaultReponse : m.waiter.defaultReponse = d
  localResponse : m.waiter.localResponse = d
  response : m.waiter.response = resp
  ret : m.waiter.ret = 0
  mode : m.entry.mode = .stall
  linked : m.linked = true
  tblEnabled : m.tblEnabled = true

theorem atWait_iff {m : Machine} {n : Nat} {d resp : Int} :
    AtWait m n d resp ↔ m.waiter.pc = .wait ∧ m.waiter.continueCount = n ∧
      m.waiter.defaultReponse = d ∧ m.waiter.localResponse = d ∧ m.waiter.response = resp ∧
      m.waiter.ret = 0 ∧ m.entry.mode = .stall ∧ m.linked = true ∧ m.tblEnabled = true :=
  ⟨fun h => ⟨h.1, h.2, h.3, h.4, h.5, h.6, h.7, h.8, h.9⟩,
    fun ⟨h1, h2, h3, h4, h5, h6, h7, h8, h9⟩ => ⟨h1, h2, h3, h4, h5, h6, h7, h8, h9⟩⟩

section Phases

variable (lim : TimeoutLimits) {m : Machine} {n : Nat} {d resp : Int} (r : Round)

/-- Showing a round's flags touches neither the waiter nor the entry. -/
theorem run_setFlags (m : Machine) :
    ∃ m', (∀ acts, run lim m (setFlags r ++ acts) = run lim m' acts) ∧ m'.waiter = m.waiter ∧
      m'.entry = m.entry ∧ m'.linked = m.linked ∧ m'.tblEnabled = r.tblEnabled ∧
      m'.state.config.stallMode = r.stallMode ∧ m'.state.config.bypassMode = r.bypassMode :=
  ⟨_, fun _ => rfl, rfl, rfl, rfl, rfl, handleStallIoc_stallModeRequest _ _ _, rfl⟩

/-- A round whose flags fail a check at `retry:` aborts there. -/
theorem run_roundActions_abort (hm : AtRetry m n d resp)
    (hc : (!r.tblEnabled || !r.stallMode || r.bypassMode) = true) :
    Realizes (run lim m (roundActions r)) (-eChild) resp := by
  obtain ⟨m₁, hrun, hw, -, -, htbl, hsm, hbp⟩ := run_setFlags lim r m
  rw [roundActions, hrun]
  have hpc : m₁.waiter.pc = .retry := hw ▸ hm.pc
  have hresp : m₁.waiter.response = resp := hw ▸ hm.response
  cases htbl' : r.tblEnabled
  · simp [run_cons, step, Machine.waiterStep, Machine.abort, hpc, hresp, htbl, htbl']
  cases hsm' : r.stallMode
  · simp [run_cons, step, Machine.waiterStep, Machine.goto, Machine.abort, hpc, hresp, htbl,
      htbl', hsm, hsm']
  have hbp' : r.bypassMode = true := by simpa [htbl', hsm'] using hc
  simp [run_cons, step, Machine.waiterStep, Machine.goto, Machine.abort, hpc, hresp, htbl, htbl',
    hsm, hsm', hbp, hbp']

/-- A round whose flags pass the checks reaches the wait. -/
theorem run_setFlags_checks (hm : AtRetry m n d resp) (htbl : r.tblEnabled = true)
    (hsm : r.stallMode = true) (hbp : r.bypassMode = false) :
    ∃ m', run lim m (setFlags r ++ [.waiter, .waiter, .waiter]) = some m' ∧
      AtWait m' n d resp := by
  obtain ⟨m₁, hrun, hw, he, hl, htbl₁, hsm₁, hbp₁⟩ := run_setFlags lim r m
  obtain ⟨hpc, hcc, hd, hresp, hret, hmode, hlinked⟩ := hm
  simp [hrun, run_cons, step, Machine.waiterStep, Machine.goto, atWait_iff, hw, he, hl, hpc, hcc,
    hd, hresp, hret, hmode, hlinked, htbl₁, hsm₁, hbp₁, htbl, hsm, hbp]

/-- A round whose flags pass the checks plays out its wait. -/
theorem roundActions_of_checks (htbl : r.tblEnabled = true) (hsm : r.stallMode = true)
    (hbp : r.bypassMode = false) :
    roundActions r = (setFlags r ++ [.waiter, .waiter, .waiter]) ++ waitActions r.wait := by
  simp [roundActions, htbl, hsm, hbp]

/-- A wait that returns `0` or less ends the round with the default. -/
theorem run_wait_timeout (hm : AtWait m n d resp) {v : Int} (hv : v ≤ 0) :
    Realizes (run lim m [.waitReturns v, .waiter]) 0
      (if d = dynsecResponseEperm then -ePerm else resp) := by
  obtain ⟨hpc, -, -, hl, hresp, hret, hmode, -⟩ := hm
  have hv' : ¬ 0 < v := by omega
  simp [run_cons, step, Machine.waiterStep, Machine.waitReturns, hpc, hl, hresp, hret, hmode,
    hv, hv']

/-- A release with `CONTINUE` below the cap goes round again. -/
theorem run_wait_continue (hm : AtWait m n d resp) (lt : Nat)
    (hcap : n + 1 < maxContinueResponses) :
    ∃ m', run lim m (waitActions (.released dynsecResponseContinue lt)) = some m' ∧
      AtRetry m' (n + 1) d resp := by
  obtain ⟨hpc, hcc, hd, -, hresp, hret, -, hlinked, htbl⟩ := hm
  simp [waitActions, run_cons, step, Machine.waiterStep, Machine.goto, Machine.waitReturns,
    Machine.resolve, atRetry_iff, hpc, hcc, hd, hresp, hret, hlinked, htbl, hcap]

/-- A release with `CONTINUE` at the cap ends the stall with `-ECHILD`. -/
theorem run_wait_cap (hm : AtWait m n d resp) (lt : Nat)
    (hcap : ¬ n + 1 < maxContinueResponses) :
    Realizes (run lim m (waitActions (.released dynsecResponseContinue lt) ++ [.waiter]))
      (-eChild) resp := by
  obtain ⟨hpc, hcc, -, -, hresp, -, -, hlinked, htbl⟩ := hm
  have hne : dynsecResponseContinue ≠ dynsecResponseEperm := by decide
  simp [run_append, waitActions, run_cons, step, Machine.waiterStep, Machine.goto,
    Machine.waitReturns, Machine.resolve, hpc, hcc, hresp, hlinked, htbl, hcap, hne]

/-- A release with any other response ends the stall with that response. -/
theorem run_wait_release (hm : AtWait m n d resp) {lr : Int} (lt : Nat)
    (hc : lr ≠ dynsecResponseContinue) :
    Realizes (run lim m (waitActions (.released lr lt) ++ [.waiter])) 0
      (if lr = dynsecResponseEperm then -ePerm else resp) := by
  obtain ⟨hpc, -, -, -, hresp, hret, -, hlinked, htbl⟩ := hm
  simp [run_append, waitActions, run_cons, step, Machine.waiterStep, Machine.goto,
    Machine.waitReturns, Machine.resolve, hpc, hresp, hret, hlinked, htbl, hc]

/-- **One round of the sequential loop is one stretch of a run.**  From `retry:`,
the round's actions make the machine abort, finish or go round again exactly as
`stallRound` decides, with the same return value and `*response`. -/
theorem round_realized (hm : AtRetry m n d resp) :
    match stallRound d n r with
    | .abort => Realizes (run lim m (roundActions r)) (-eChild) resp
    | .finish ret lr => Realizes (run lim m (roundActions r ++ [.waiter])) ret
      (if lr = dynsecResponseEperm then -ePerm else resp)
    | .retry _ => ∃ m', run lim m (roundActions r) = some m' ∧ AtRetry m' (n + 1) d resp := by
  unfold stallRound
  by_cases hc : (!r.tblEnabled || !r.stallMode || r.bypassMode) = true
  · rw [if_pos hc]
    exact run_roundActions_abort lim r hm hc
  rw [if_neg hc]
  have htbl : r.tblEnabled = true := by revert hc; cases r.tblEnabled <;> simp
  have hsm : r.stallMode = true := by revert hc; cases r.stallMode <;> simp
  have hbp : r.bypassMode = false := by revert hc; cases r.bypassMode <;> simp
  obtain ⟨m₂, h₂, hw⟩ := run_setFlags_checks lim r hm htbl hsm hbp
  have after : ∀ rest, run lim m (roundActions r ++ rest) = run lim m₂ (waitActions r.wait ++ rest) :=
    fun rest => by rw [roundActions_of_checks r htbl hsm hbp, List.append_assoc, run_append, h₂]; rfl
  have after' : run lim m (roundActions r) = run lim m₂ (waitActions r.wait) := by
    simpa using after []
  cases hw' : r.wait with
  | interrupted =>
    rw [after, hw']
    exact run_wait_timeout lim hw (show (-1 : Int) ≤ 0 by decide)
  | timedOut =>
    rw [after, hw']
    exact run_wait_timeout lim hw (Int.le_refl 0)
  | released lr lt =>
    dsimp only
    by_cases hcont : lr = dynsecResponseContinue
    · subst hcont
      rw [if_pos rfl]
      by_cases hcap : n + 1 < maxContinueResponses
      · rw [if_pos hcap, after', hw']
        exact run_wait_continue lim hw lt hcap
      · rw [if_neg hcap, after, hw']
        exact run_wait_cap lim hw lt hcap
    · rw [if_neg hcont, after, hw']
      exact run_wait_release lim hw lt hcont

end Phases

/-- **The machine realises the loop.**  From `retry:`, for every script of
rounds, the schedule of its rounds returns what `stallRetry` returns, with the
same `*response`. -/
theorem stallRetry_realized (lim : TimeoutLimits) (d : Int) (rounds : Nat → Round) (resp : Int) :
    ∀ n t (m : Machine), AtRetry m n d resp →
      Realizes (run lim m (scriptActions d rounds n)) (stallRetry d rounds resp n t).ret
        (stallRetry d rounds resp n t).response := by
  intro n t
  induction n, t using stallRetry.induct d rounds resp with
  | case1 n t h =>
    intro m hm
    have hround := round_realized lim (rounds n) hm
    rw [h] at hround
    simpa [scriptActions_abort h, stallRetry_abort h] using hround
  | case2 n t ret lr h =>
    intro m hm
    have hround := round_realized lim (rounds n) hm
    rw [h] at hround
    simpa [scriptActions_finish h, stallRetry_finish h] using hround
  | case3 n t t' h ih =>
    intro m hm
    have hround := round_realized lim (rounds n) hm
    rw [h] at hround
    obtain ⟨m', hrun, hm'⟩ := hround
    rw [scriptActions_retry h, run_append, hrun, stallRetry_retry h]
    exact ih m' hm'

/-- **Every script of rounds is a run of the machine.**  From the state right
after `stall_tbl_insert`, the waiter's first step followed by the schedule of a
script's rounds (each round's flags, checks and wait, with a `resolve` of the
round's response for a release) returns what `do_stall_interruptible` returns
in the sequential model, with the same `*response`. -/
theorem doStallInterruptible_realized (lim : TimeoutLimits) (st : DynsecState)
    (rounds : Nat → Round) (t : Nat) :
    Realizes (run lim (Machine.init st)
        (.waiter :: scriptActions (insertDefault st.config.stallTimeoutDeny) rounds 0))
      (doStallInterruptible (insertDefault st.config.stallTimeoutDeny) t rounds 0).ret
      (doStallInterruptible (insertDefault st.config.stallTimeoutDeny) t rounds 0).response :=
  stallRetry_realized lim _ rounds 0 0 t _ ⟨rfl, rfl, rfl, rfl, rfl, rfl, rfl⟩

end Dynsec
