import Dynsec.StallMachine

/-!
# Every interleaving is a sequential stall

`Dynsec.StallRefinement` shows that the interleaving machine of
`Dynsec.StallMachine` realises every script of rounds of the sequential loop
`stallRetry`.  This file proves the converse, the direction that carries the
sequential results over to the real system: whatever the rest of the system
does between the waiter's steps, a waiter that has returned has returned what
`stallRetry` returns on the script of rounds it read, from the default it read
(`run_refines_stallRetry`).

## The simulation

A round of `stallRetry` is what one pass through `retry:` observes: the stall
table, stall mode and bypass mode, each read at its own check, what the wait
returned, the response and timeout read under the lock, and the continuation
timeout read after a `CONTINUE`.  In the machine these are read one at a time,
with arbitrary actions in between.  The script is a ghost computed along the run
(`observeRun`): each step of the waiter that reads one of these values writes it
into the current round (`Machine.observe`), and no other step changes it.
`Tracks w rounds` says that the waiter `w` stands where the sequential loop
would stand on the script `rounds`: the rounds before the current one all went
round again (`Continued`), and what the waiter has read of the current round so
far is what the script's round says (`Seen`).  Every step keeps the waiter on
the script it observed, and when the waiter returns, `Tracks` says that its
`ret` and `*response` are those of `stallRetry` on that script.
-/

namespace Dynsec

/-- Rounds `0 .. k-1` of a script all send the waiter back to `retry:`. -/
def Continued (d : Int) (rounds : Nat → Round) (k : Nat) : Prop :=
  ∀ i < k, ∃ t, stallRound d i (rounds i) = .retry t

/-- What the waiter has read of its current round, at each program point inside
the round. -/
def Seen (w : Waiter) (r : Round) : Prop :=
  match w.pc with
  | .checkStallMode => r.tblEnabled = true
  | .checkBypass => r.tblEnabled = true ∧ r.stallMode = true
  | .wait => r.tblEnabled = true ∧ r.stallMode = true ∧ r.bypassMode = false ∧
      w.localResponse = w.defaultReponse
  | .locked => r.tblEnabled = true ∧ r.stallMode = true ∧ r.bypassMode = false
  | .unlocked => r.tblEnabled = true ∧ r.stallMode = true ∧ r.bypassMode = false ∧
      r.wait = .released w.localResponse w.localTimeout
  | _ => True

/-- The script with the waiter's current round changed by `f`. -/
def Waiter.record (w : Waiter) (rounds : Nat → Round) (f : Round → Round) : Nat → Round :=
  Function.update rounds w.continueCount (f (rounds w.continueCount))

/-- What the step `a` from `m` reads of the current round, written into the
script: the flag each check at `retry:` reads, the response and timeout of a
release read under the lock, the continuation timeout read after it, and a wait
that returns `0` (a timeout) or less (an interrupt, or a release whose jiffies
left truncate to a negative `int`). -/
def Machine.observe (m : Machine) (a : Action) (rounds : Nat → Round) : Nat → Round :=
  match a with
  | .waiter =>
    match m.waiter.pc with
    | .retry => m.waiter.record rounds fun r => { r with tblEnabled := m.tblEnabled }
    | .checkStallMode =>
      m.waiter.record rounds fun r => { r with stallMode := m.state.config.stallMode }
    | .checkBypass =>
      m.waiter.record rounds fun r => { r with bypassMode := m.state.config.bypassMode }
    | .locked =>
      m.waiter.record rounds fun r => { r with
        wait := .released m.entry.response m.entry.stallTimeout }
    | .unlocked =>
      m.waiter.record rounds fun r => { r with
        continueTimeout := m.state.config.stallTimeoutContinue }
    | _ => rounds
  | .waitReturns v =>
    if v ≤ 0 then
      m.waiter.record rounds fun r => { r with wait := if v < 0 then .interrupted else .timedOut }
    else rounds
  | _ => rounds

/-- The script a run observes, from the script `rounds` before it. -/
def observeRun (lim : TimeoutLimits) : Machine → List Action → (Nat → Round) → Nat → Round
  | _, [], rounds => rounds
  | m, a :: acts, rounds =>
    match step lim m a with
    | some m₁ => observeRun lim m₁ acts (m.observe a rounds)
    | none => rounds

/-- The waiter stands where `stallRetry` would stand on the script `rounds`. -/
def Tracks (w : Waiter) (rounds : Nat → Round) : Prop :=
  match w.pc with
  | .start => w.continueCount = 0 ∧ w.ret = 0 ∧ w.response = 0
  | .finish => w.response = 0 ∧ ∃ k, Continued w.defaultReponse rounds k ∧
      stallRound w.defaultReponse k (rounds k) = .finish w.ret w.localResponse
  | .done => ∀ t, (stallRetry w.defaultReponse rounds 0 0 t).ret = w.ret ∧
      (stallRetry w.defaultReponse rounds 0 0 t).response = w.response
  | _ => Continued w.defaultReponse rounds w.continueCount ∧ w.ret = 0 ∧ w.response = 0 ∧
      Seen w (rounds w.continueCount)

/-! ## Scripts -/

section Scripts

variable {d : Int} {rounds : Nat → Round} {k : Nat}

/-- Writing the current round does not change the rounds before it. -/
theorem Continued.update (h : Continued d rounds k) (r : Round) :
    Continued d (Function.update rounds k r) k := fun i hi => by
  rw [Function.update_noteq (Nat.ne_of_lt hi)]
  exact h i hi

theorem Continued.succ (h : Continued d rounds k) {t : Nat}
    (hk : stallRound d k (rounds k) = .retry t) : Continued d rounds (k + 1) := fun i hi => by
  rcases Nat.lt_succ_iff_lt_or_eq.mp hi with hi | rfl
  · exact h i hi
  · exact ⟨t, hk⟩

/-- After rounds that all continue, the loop's result is that of the loop from
the next round on. -/
theorem stallRetry_of_continued (resp : Int) :
    ∀ {k : Nat}, Continued d rounds k → ∀ t, ∃ t',
      (stallRetry d rounds resp 0 t).ret = (stallRetry d rounds resp k t').ret ∧
        (stallRetry d rounds resp 0 t).response = (stallRetry d rounds resp k t').response
  | 0, _, t => ⟨t, rfl, rfl⟩
  | k + 1, h, t => by
    obtain ⟨t', hret, hresp⟩ :=
      stallRetry_of_continued resp (fun i hi => h i (by omega) : Continued d rounds k) t
    obtain ⟨t'', hk⟩ := h k (Nat.lt_succ_self k)
    exact ⟨t'', by rw [hret, stallRetry_retry hk]; rfl, by rw [hresp, stallRetry_retry hk]; rfl⟩

section Checks

variable {n : Nat} {r : Round} (h1 : r.tblEnabled = true) (h2 : r.stallMode = true)
  (h3 : r.bypassMode = false)
include h1 h2 h3

theorem stallRound_of_unreleased (hw : r.wait = .timedOut ∨ r.wait = .interrupted) :
    stallRound d n r = .finish 0 d := by
  rcases hw with hw | hw <;> simp [stallRound, h1, h2, h3, hw]

theorem stallRound_of_released {lr : Int} {lt : Nat} (hw : r.wait = .released lr lt) :
    stallRound d n r =
      if lr = dynsecResponseContinue then
        if n + 1 < maxContinueResponses then .retry (if lt ≠ 0 then lt else r.continueTimeout)
        else .finish (-eChild) lr
      else .finish 0 lr := by
  simp [stallRound, h1, h2, h3, hw]

end Checks

end Scripts

/-! ## The simulation -/

section Simulation

variable {m m' : Machine} {rounds : Nat → Round}

/-- A freshly published entry's waiter tracks every script. -/
theorem Tracks.init (st : DynsecState) (rounds : Nat → Round) :
    Tracks (Machine.init st).waiter rounds :=
  ⟨rfl, rfl, rfl⟩

/-- A waiter that returned from `retry:` in round `k` tracks the script. -/
theorem Tracks.of_abort {w : Waiter} {k : Nat} (hpc : w.pc = .done) (hret : w.ret = -eChild)
    (hresp : w.response = 0) (hc : Continued w.defaultReponse rounds k)
    (hk : stallRound w.defaultReponse k (rounds k) = .abort) : Tracks w rounds := by
  simp only [Tracks, hpc]
  intro t
  obtain ⟨t', h1, h2⟩ := stallRetry_of_continued 0 hc t
  rw [h1, h2, stallRetry_abort hk, hret, hresp]
  exact ⟨rfl, rfl⟩

/-- A check at `retry:` that fails, recorded in the current round, aborts it. -/
theorem Tracks.abort (h : Continued m.waiter.defaultReponse rounds m.waiter.continueCount)
    (hresp : m.waiter.response = 0) {r : Round}
    (hr : (!r.tblEnabled || !r.stallMode || r.bypassMode) = true) :
    Tracks m.abort.waiter (Function.update rounds m.waiter.continueCount r) :=
  Tracks.of_abort rfl rfl hresp (h.update r) (by
    simp only [Machine.abort, Function.update_same]
    unfold stallRound
    rw [if_pos hr])

theorem Tracks.waiterStep (h : Tracks m.waiter rounds) (hs : m.waiterStep = some m') :
    Tracks m'.waiter (m.observe .waiter rounds) := by
  unfold Tracks at h
  unfold Machine.waiterStep at hs
  cases hpc : m.waiter.pc <;> simp only [hpc, Seen] at hs h <;>
    simp only [Machine.observe, Waiter.record, hpc]
  case wait => cases hs
  case done => cases hs
  case start =>
    cases hs
    obtain ⟨h0, hr, hresp⟩ := h
    simp only [Tracks, Seen]
    exact ⟨by rw [h0]; exact fun i hi => absurd hi (Nat.not_lt_zero i), hr, hresp, trivial⟩
  case retry =>
    cases hs
    obtain ⟨hc, hr, hresp, -⟩ := h
    let r := { rounds m.waiter.continueCount with tblEnabled := m.tblEnabled }
    split_ifs with htbl
    · simp only [Tracks, Seen, Machine.goto, Function.update_same]
      exact ⟨hc.update r, hr, hresp, htbl⟩
    · exact Tracks.abort hc hresp (by simp [r, htbl])
  case checkStallMode =>
    cases hs
    obtain ⟨hc, hr, hresp, htbl⟩ := h
    let r := { rounds m.waiter.continueCount with stallMode := m.state.config.stallMode }
    split_ifs with hmode
    · simp only [Tracks, Seen, Machine.goto, Function.update_same]
      exact ⟨hc.update r, hr, hresp, htbl, hmode⟩
    · exact Tracks.abort hc hresp (by simp [r, hmode])
  case checkBypass =>
    cases hs
    obtain ⟨hc, hr, hresp, htbl, hmode⟩ := h
    let r := { rounds m.waiter.continueCount with bypassMode := m.state.config.bypassMode }
    split_ifs with hby
    · exact Tracks.abort hc hresp (by simp [r, hby])
    · simp only [Tracks, Seen, Function.update_same]
      exact ⟨hc.update r, hr, hresp, htbl, hmode, by simpa using hby, trivial⟩
  case locked =>
    cases hs
    obtain ⟨hc, hr, hresp, h1, h2, h3⟩ := h
    let r := { rounds m.waiter.continueCount with
      wait := .released m.entry.response m.entry.stallTimeout }
    simp only [Tracks, Seen, Function.update_same]
    exact ⟨hc.update r, hr, hresp, h1, h2, h3, trivial⟩
  case unlocked =>
    cases hs
    obtain ⟨hc, hr, hresp, h1, h2, h3, hw⟩ := h
    let r := { rounds m.waiter.continueCount with
      continueTimeout := m.state.config.stallTimeoutContinue }
    have hround :=
      @stallRound_of_released m.waiter.defaultReponse m.waiter.continueCount r h1 h2 h3 _ _ hw
    rw [← Function.update_same m.waiter.continueCount r rounds] at hround
    have hc := hc.update r
    by_cases hcont : m.waiter.localResponse = dynsecResponseContinue
    · by_cases hlt : m.waiter.continueCount + 1 < maxContinueResponses
      · rw [if_pos hcont, if_pos hlt] at hround ⊢
        simp only [Tracks, Seen]
        exact ⟨hc.succ hround, hr, hresp, trivial⟩
      · rw [if_pos hcont, if_neg hlt] at hround ⊢
        simp only [Tracks]
        exact ⟨hresp, _, hc, hround⟩
    · rw [if_neg hcont] at hround ⊢
      simp only [Tracks, Machine.goto]
      exact ⟨hresp, _, hc, by rw [hround, hr]⟩
  case finish =>
    cases hs
    obtain ⟨hresp, k, hc, hk⟩ := h
    simp only [Tracks]
    intro t
    obtain ⟨t', h1, h2⟩ := stallRetry_of_continued 0 hc t
    rw [h1, h2, stallRetry_finish hk, hresp]
    exact ⟨rfl, rfl⟩

/-- The wait writes what it returned into the current round: a release is read
at the locked step, a timeout or an interrupt finishes the round with the
default. -/
theorem Tracks.waitReturns {v : Int} (h : Tracks m.waiter rounds)
    (hs : m.waitReturns v = some m') : Tracks m'.waiter (m.observe (.waitReturns v) rounds) := by
  unfold Machine.waitReturns at hs
  split_ifs at hs with hw hv <;> cases hs
  all_goals
    unfold Tracks at h
    simp only [hw.1, Seen] at h
    obtain ⟨hc, hr, hresp, h1, h2, h3, hd⟩ := h
  · simp only [Machine.observe, if_neg (Int.not_le.mpr hv), Tracks, Seen, Machine.goto]
    exact ⟨hc, hr, hresp, h1, h2, h3⟩
  · let r := { rounds m.waiter.continueCount with
      wait := if v < 0 then .interrupted else .timedOut }
    simp only [Machine.observe, if_pos (Int.not_lt.mp hv), Waiter.record, Tracks]
    refine ⟨hresp, _, hc.update r, ?_⟩
    have hu : r.wait = .timedOut ∨ r.wait = .interrupted := by
      by_cases hneg : v < 0 <;> simp [r, hneg]
    rw [Function.update_same, @stallRound_of_unreleased _ _ r h1 h2 h3 hu, hr, hd]

/-- **The simulation step.**  Every action keeps the waiter on the script it
observed: the waiter's own steps write what they read into the current round,
and the other actions neither touch the waiter nor change the script. -/
theorem Tracks.step {lim : TimeoutLimits} {a : Action} (h : Tracks m.waiter rounds)
    (hs : step lim m a = some m') : Tracks m'.waiter (m.observe a rounds) := by
  cases a with
  | waiter => exact h.waiterStep hs
  | waitReturns v => exact h.waitReturns hs
  | resolve r t => rwa [(Machine.resolve_eq hs).2.2]
  | ioctl => cases hs; exact h
  | setTblEnabled => cases hs; exact h
  | setBypass => cases hs; exact h

theorem Tracks.run {lim : TimeoutLimits} :
    ∀ {acts : List Action} {m m' : Machine} {rounds : Nat → Round}, Tracks m.waiter rounds →
      Dynsec.run lim m acts = some m' → Tracks m'.waiter (observeRun lim m acts rounds)
  | [], _, _, _, h, hr => by cases hr; exact h
  | _ :: _, _, _, _, h, hr => by
    rw [run_cons] at hr
    obtain ⟨m₁, h₁, hr⟩ := Option.bind_eq_some.mp hr
    rw [observeRun, h₁]
    exact Tracks.run (h.step h₁) hr

end Simulation

/-- **Every interleaving is a sequential stall.**  In every run from a freshly
published entry, however answers, control requests and switches of the table,
stall mode and bypass mode interleave with the waiter, a waiter that has
returned has returned the `ret` and `*response` of `do_stall_interruptible`'s
sequential loop on the script of rounds it read along the run, from the default
it read.  The rounds and fields it never read are taken from any script `base`. -/
theorem run_refines_stallRetry (lim : TimeoutLimits) (st : DynsecState) (acts : List Action)
    (m : Machine) (h : run lim (Machine.init st) acts = some m) (hd : m.waiter.pc = .done)
    (base : Nat → Round) (t : Nat) :
    (doStallInterruptible m.waiter.defaultReponse t
        (observeRun lim (Machine.init st) acts base) 0).ret = m.waiter.ret ∧
      (doStallInterruptible m.waiter.defaultReponse t
        (observeRun lim (Machine.init st) acts base) 0).response = m.waiter.response := by
  have hr := (Tracks.init st base).run h
  unfold Tracks at hr
  simp only [hd] at hr
  exact hr t

/-- `DENY` written while the waiter waits: the waiter read one round, released
with `DENY`, and its verdict `-EPERM` is that of the sequential loop on it. -/
theorem run_refines_stallRetry_deny :
    let lim : TimeoutLimits := ⟨1000, 30000, 300000⟩
    let st : DynsecState := ⟨⟨true, false, false, 1000, 1000, false⟩, [], []⟩
    let acts : List Action := [.waiter, .waiter, .waiter, .waiter, .resolve dynsecResponseEperm 0,
      .waitReturns 1, .waiter, .waiter, .waiter]
    let m : Machine := ⟨⟨.done, 0, dynsecResponseEperm, 0, 1000, 0, dynsecResponseAllow, -ePerm,
      some dynsecResponseEperm⟩, ⟨.stall, dynsecResponseEperm, 0⟩, false, true, st,
      some dynsecResponseEperm⟩
    let base : Nat → Round := fun _ => ⟨false, false, false, .timedOut, 0⟩
    run lim (Machine.init st) acts = some m ∧ m.waiter.pc = .done ∧
      observeRun lim (Machine.init st) acts base 0 =
        ⟨true, true, false, .released dynsecResponseEperm 0, 1000⟩ ∧
      (doStallInterruptible m.waiter.defaultReponse 1000
          (observeRun lim (Machine.init st) acts base) 0).ret = m.waiter.ret ∧
        (doStallInterruptible m.waiter.defaultReponse 1000
          (observeRun lim (Machine.init st) acts base) 0).response = m.waiter.response := by
  intro lim st acts m base
  have h : run lim (Machine.init st) acts = some m := by decide
  exact ⟨h, rfl, by decide, run_refines_stallRetry lim st acts m h rfl base 1000⟩

end Dynsec
