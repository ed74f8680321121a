import Dynsec.StallMachine

/-!
# What every interleaving keeps, and three races

`StallInv` is the invariant of `Dynsec.StallMachine`: it holds in `Machine.init`
and every action keeps it (`StallInv.step`), so it holds along every run
(`StallInv.run`).  Its content is that no response can get lost between the
waiter's rounds: the locked read at lines 148-155 copies the response and
re-arms the entry in one critical section, and `resolve` writes a response and
releases the entry in another, so whenever the waiter is about to wait on an
entry that is not released, every response written so far has been read, and
the last one was `CONTINUE`.

Four results read the code's behaviour under interleaving off it.

* `stall_no_lost_response`: when the stall ends normally after a round shorter
  than `2^31` jiffies, its verdict is that of the last response the waiter
  looked at.  That response is the one read under the lock, which may be newer
  than the one that woke the waiter.
* `stall_truncated_wake_loses_response`: in a longer round the jiffies left,
  stored in `int wait_ret`, can truncate to a negative value; the waiter then
  takes the interrupt branch and the response that released it is lost.
* `stall_mode_off_at_retry`: stall mode found off at its check after `retry:`
  ends the stall with `*response = 0`, and a request that only switches stall
  mode changes nothing the waiter does before that check
  (`Machine.SameButStallMode.run`), so a disable that lands inside a wait is not
  seen until the next round.
* `stall_default_read_race`: the default response is read from the published
  entry without the lock, so a `CONTINUE` landing before that read becomes the
  "default", and a later timeout then allows under default deny.
-/

namespace Dynsec

/-- An optional response that, if present, is `CONTINUE`. -/
def OnlyContinue (o : Option Int) : Prop := ∀ r, o = some r → r = dynsecResponseContinue

/-- The waiter's local response answers the response it last looked at, unless
that one was `CONTINUE`. -/
def ObservedAnswered (w : Waiter) : Prop :=
  ∀ r, w.observed = some r → r ≠ dynsecResponseContinue → w.localResponse = r

/-- What holds at each program point of the waiter. -/
def PcFacts (m : Machine) : Prop :=
  match m.waiter.pc with
  | .start | .retry | .checkStallMode | .checkBypass | .wait =>
    (m.entry.mode = .stall → OnlyContinue m.lastWritten) ∧ OnlyContinue m.waiter.observed
  | .locked => OnlyContinue m.waiter.observed
  | .unlocked =>
    (m.entry.mode = .stall → m.lastWritten = none ∨ m.lastWritten = some m.waiter.localResponse) ∧
      ∀ r, m.waiter.observed = some r → m.waiter.localResponse = r
  | .finish => ObservedAnswered m.waiter ∨ 2 ^ 31 ≤ msecsToJiffies m.waiter.timeout
  | .done => (ObservedAnswered m.waiter ∨ 2 ^ 31 ≤ msecsToJiffies m.waiter.timeout) ∧
      (m.waiter.ret = 0 → (m.waiter.response = -ePerm ↔
        m.waiter.localResponse = dynsecResponseEperm))

/-- The invariant of the stall machine. -/
structure StallInv (m : Machine) : Prop where
  entry_response : ∀ r, m.lastWritten = some r → m.entry.response = r
  response_zero : m.waiter.pc ≠ .done → m.waiter.response = 0
  pcFacts : PcFacts m

theorem OnlyContinue.none : OnlyContinue none := fun _ h => by cases h

theorem StallInv.init (st : DynsecState) : StallInv (Machine.init st) where
  entry_response _ h := by cases h
  response_zero _ := rfl
  pcFacts := by
    simp only [PcFacts, Machine.init]; exact ⟨fun _ => OnlyContinue.none, OnlyContinue.none⟩

section Preservation

variable {m m' : Machine}

/-- Actions that touch neither the waiter, the entry nor the ghost keep the
invariant. -/
theorem StallInv.frame (h : StallInv m) (hw : m'.waiter = m.waiter)
    (he : m'.entry = m.entry) (hl : m'.lastWritten = m.lastWritten) : StallInv m' := by
  obtain ⟨h1, h2, h3⟩ := h
  refine ⟨by rwa [he, hl], by rwa [hw], ?_⟩
  unfold PcFacts at h3 ⊢
  rwa [hw, he, hl]

theorem StallInv.resolve {r : Int} {t : Nat} (h : StallInv m) (hs : m.resolve r t = some m') :
    StallInv m' := by
  obtain ⟨-, -, rfl⟩ := Machine.resolve_eq hs
  obtain ⟨-, h2, h3⟩ := h
  refine ⟨fun r' hr' => by cases hr'; rfl, h2, ?_⟩
  unfold PcFacts at h3 ⊢
  split at h3 <;> simp_all

theorem StallInv.waitReturns {v : Int} (h : StallInv m) (hs : m.waitReturns v = some m') :
    StallInv m' := by
  obtain ⟨h1, h2, h3⟩ := h
  unfold Machine.waitReturns at hs
  split_ifs at hs with hw hv <;> cases hs
  · refine ⟨h1, fun _ => h2 (by simp [hw.1]), ?_⟩
    unfold PcFacts at h3 ⊢
    simp only [hw.1] at h3
    exact h3.2
  · refine ⟨h1, fun _ => h2 (by simp [hw.1]), ?_⟩
    unfold PcFacts at h3 ⊢
    simp only [hw.1] at h3
    cases hmode : m.entry.mode
    · exact .inl fun r hr hne => absurd (h3.1 hmode r hr) hne
    · -- a release that the `int` truncation shows as a timeout or an interrupt
      have hwr := hw.2
      simp only [hmode, bne_iff_ne, ne_eq, reduceCtorEq, not_false_eq_true, decide_True] at hwr
      exact .inr (Nat.le_of_not_lt fun hj => hv (waitRet_true_pos hj hwr))

/-- Returning from `retry:` keeps the invariant: an aborted waiter has looked at
no response but `CONTINUE`. -/
theorem StallInv.abort (h : StallInv m) (hobs : OnlyContinue m.waiter.observed) :
    StallInv m.abort := by
  refine ⟨h.1, fun hd => absurd rfl hd, ?_⟩
  simp only [PcFacts, Machine.abort]
  exact ⟨.inl fun r hr hne => absurd (hobs r hr) hne, fun h0 => by cases h0⟩

/-- Passing a check at `retry:` keeps the invariant. -/
theorem StallInv.goto (h : StallInv m) (hr : m.waiter.response = 0)
    (hf : (m.entry.mode = .stall → OnlyContinue m.lastWritten) ∧ OnlyContinue m.waiter.observed)
    {pc : Pc} (hpc : pc = .checkStallMode ∨ pc = .checkBypass) : StallInv (m.goto pc) := by
  refine ⟨h.1, fun _ => hr, ?_⟩
  rcases hpc with rfl | rfl <;> exact hf

theorem StallInv.waiterStep (h : StallInv m) (hs : m.waiterStep = some m') : StallInv m' := by
  have h1 := h.entry_response
  have h2 := h.response_zero
  have h3 := h.pcFacts
  unfold PcFacts at h3
  unfold Machine.waiterStep at hs
  cases hpc : m.waiter.pc <;> simp only [hpc] at hs h3 h2
  case wait => cases hs
  case done => cases hs
  case start =>
    cases hs; exact ⟨h1, fun _ => h2 (by decide), by simpa [PcFacts] using h3⟩
  case retry =>
    cases hs; split_ifs
    exacts [h.goto (h2 (by decide)) h3 (.inl rfl), h.abort h3.2]
  case checkStallMode =>
    cases hs; split_ifs
    exacts [h.goto (h2 (by decide)) h3 (.inr rfl), h.abort h3.2]
  case checkBypass =>
    cases hs; split_ifs
    exacts [h.abort h3.2, ⟨h1, fun _ => h2 (by decide), by simpa [PcFacts] using h3⟩]
  case locked =>
    cases hs
    refine ⟨h1, fun _ => h2 (by decide), ?_⟩
    simp only [PcFacts]
    refine ⟨fun _ => ?_, fun r hr => h1 r hr⟩
    cases hl : m.lastWritten with
    | none => exact .inl rfl
    | some r => exact .inr (by rw [h1 r hl])
  case unlocked =>
    cases hs
    split_ifs with hc hlt
    · refine ⟨h1, fun _ => h2 (by decide), ?_⟩
      simp only [PcFacts]
      refine ⟨fun hst r hr => ?_, fun r hr => (h3.2 r hr).symm.trans hc⟩
      rcases h3.1 hst with h0 | h0 <;> rw [h0] at hr <;> cases hr
      exact hc
    · exact ⟨h1, fun _ => h2 (by decide), by simp only [PcFacts]; exact .inl fun r hr _ => h3.2 r hr⟩
    · exact ⟨h1, fun _ => h2 (by decide), by
        simp only [PcFacts, Machine.goto]; exact .inl fun r hr _ => h3.2 r hr⟩
  case finish =>
    cases hs
    refine ⟨h1, by simp, ?_⟩
    simp only [PcFacts]
    refine ⟨h3, fun _ => ?_⟩
    rw [h2 (by decide)]
    split_ifs with he <;> simp [he, ePerm]

/-- **Every action keeps the invariant.** -/
theorem StallInv.step {lim : TimeoutLimits} {a : Action} (h : StallInv m)
    (hs : Dynsec.step lim m a = some m') : StallInv m' := by
  cases a with
  | waiter => exact h.waiterStep hs
  | waitReturns v => exact h.waitReturns hs
  | resolve r t => exact h.resolve hs
  | ioctl => cases hs; exact h.frame rfl rfl rfl
  | setTblEnabled => cases hs; exact h.frame rfl rfl rfl
  | setBypass => cases hs; exact h.frame rfl rfl rfl

/-- **The invariant holds along every run.** -/
theorem StallInv.run {lim : TimeoutLimits} :
    ∀ {acts : List Action} {m m' : Machine}, StallInv m → Dynsec.run lim m acts = some m' →
      StallInv m'
  | [], _, _, h, hr => by cases hr; exact h
  | _ :: _, _, _, h, hr => by
    rw [run_cons] at hr
    obtain ⟨m₁, h₁, hr⟩ := Option.bind_eq_some.mp hr
    exact StallInv.run (h.step h₁) hr

/-- Once the waiter has returned, no action changes it. -/
theorem step_waiter_of_done {lim : TimeoutLimits} {a : Action}
    (hd : m.waiter.pc = .done) (hs : Dynsec.step lim m a = some m') : m'.waiter = m.waiter := by
  cases a with
  | waiter => simp [Dynsec.step, Machine.waiterStep, hd] at hs
  | waitReturns v => simp [Dynsec.step, Machine.waitReturns, hd] at hs
  | resolve r t => rw [(Machine.resolve_eq hs).2.2]
  | ioctl => cases hs; rfl
  | setTblEnabled => cases hs; rfl
  | setBypass => cases hs; rfl

theorem run_waiter_of_done {lim : TimeoutLimits} :
    ∀ {acts : List Action} {m m' : Machine}, m.waiter.pc = .done →
      Dynsec.run lim m acts = some m' → m'.waiter = m.waiter
  | [], _, _, _, hr => by cases hr; rfl
  | _ :: _, _, _, hd, hr => by
    rw [run_cons] at hr
    obtain ⟨m₁, h₁, hr⟩ := Option.bind_eq_some.mp hr
    have hw := step_waiter_of_done hd h₁
    rw [run_waiter_of_done (by rw [hw]; exact hd) hr, hw]

end Preservation

/-! ## Lost responses -/

-- The response that counts is the one read under the lock, which may be newer
-- than the one that woke the waiter: `ALLOW` wakes it, `DENY` lands before the
-- locked read, and the stall ends with `-EPERM`.
example :
    run ⟨1000, 30000, 300000⟩ (Machine.init ⟨⟨true, false, false, 1000, 1000, false⟩, [], []⟩)
        [.waiter, .waiter, .waiter, .waiter, .resolve dynsecResponseAllow 0, .waitReturns 1,
          .resolve dynsecResponseEperm 0, .waiter, .waiter, .waiter] =
      some ⟨⟨.done, 0, dynsecResponseEperm, 0, 1000, 0, dynsecResponseAllow, -ePerm,
        some dynsecResponseEperm⟩, ⟨.stall, dynsecResponseEperm, 0⟩, false, true,
        ⟨⟨true, false, false, 1000, 1000, false⟩, [], []⟩, some dynsecResponseEperm⟩ := by
  decide

/-- **A release can be lost to the `int` truncation.**  Whenever the waiter
waits in a round of `2^31` jiffies or more, which every round timeout of `2^31`
milliseconds or more gives (`msecs_to_jiffies` returns `MAX_JIFFY_OFFSET`), user
space can write any response `r` and release the entry, and the wait returns the
jiffies left, `left`.  Stored in `int wait_ret`, only their low 32 bits remain;
where these read as `0` or less, the waiter takes the timeout or interrupt branch
of lines 126-143: it never reads `r`, and it ends the stall with the verdict of
its local response, the default, whatever `r` was. -/
theorem stall_truncated_wake_loses_response (lim : TimeoutLimits) (m : Machine) (r : Int)
    (t left : Nat) (hpc : m.waiter.pc = .wait) (hl : m.linked = true)
    (htbl : m.tblEnabled = true) (hleft : 1 ≤ left) (hj : left ≤ msecsToJiffies m.waiter.timeout)
    (hneg : (left : Int).bmod (2 ^ 32) ≤ 0) :
    ∃ m', run lim m [.resolve r t, .waitReturns ((left : Int).bmod (2 ^ 32)), .waiter] = some m' ∧
      m'.waiter.pc = .done ∧ m'.waiter.observed = some r ∧ m'.waiter.ret = m.waiter.ret ∧
      m'.waiter.response = if m.waiter.localResponse = dynsecResponseEperm then -ePerm
        else m.waiter.response := by
  have hwr : WaitRet true (msecsToJiffies m.waiter.timeout) ((left : Int).bmod 4294967296) :=
    ⟨left, hleft, Nat.le_trans hj (Nat.le_max_left _ _), rfl⟩
  have hpos : ¬ 0 < (left : Int).bmod 4294967296 := Int.not_lt.mpr hneg
  simp [run_cons, step, Machine.resolve, Machine.waitReturns, Machine.waiterStep, hpc, hl, htbl,
    hwr, hpos]

/-- A `CONTINUE` asking for `0x80000000` milliseconds, then a `DENY` one jiffy
into the next round, under the `ALLOW` default: the wait returns
`MAX_JIFFY_OFFSET - 1` jiffies left, `-3` as an `int`, and the stall allows. -/
theorem stall_truncated_wake_loses_response_deny :
    let lim : TimeoutLimits := ⟨1000, 30000, 300000⟩
    let st : DynsecState := ⟨⟨true, false, false, 1000, 1000, false⟩, [], []⟩
    let m : Machine := ⟨⟨.wait, 0, dynsecResponseAllow, 0, 0x80000000, 1, dynsecResponseAllow, 0,
      some dynsecResponseContinue⟩, ⟨.stall, dynsecResponseContinue, 0x80000000⟩, true, true, st,
      some dynsecResponseContinue⟩
    run lim (Machine.init st) [.waiter, .waiter, .waiter, .waiter,
        .resolve dynsecResponseContinue 0x80000000, .waitReturns 1, .waiter, .waiter, .waiter,
        .waiter, .waiter] = some m ∧
      msecsToJiffies m.waiter.timeout = maxJiffyOffset ∧
      ((maxJiffyOffset - 1 : Nat) : Int).bmod (2 ^ 32) = -3 ∧
      ∃ m', run lim m [.resolve dynsecResponseEperm 0, .waitReturns (-3), .waiter] = some m' ∧
        m'.waiter.pc = .done ∧ m'.waiter.observed = some dynsecResponseEperm ∧ m'.waiter.ret = 0 ∧
        m'.waiter.response = 0 := by
  intro lim st m
  have hb : ((maxJiffyOffset - 1 : Nat) : Int).bmod (2 ^ 32) = -3 := by decide
  obtain ⟨m', h, h1, h2, h3, h4⟩ := stall_truncated_wake_loses_response lim m dynsecResponseEperm 0
    (maxJiffyOffset - 1) rfl rfl rfl (by decide) (by decide) (by rw [hb]; decide)
  rw [hb] at h
  exact ⟨by decide, by decide, hb, m', h, h1, h2, h3, h4.trans (by decide)⟩

/-! ## Disabling stall mode -/

/-- A request leaves the configuration, stall mode apart, as a function of the
configuration before it, stall mode apart. -/
theorem handleStallIoc_forget_stallMode (lim : TimeoutLimits) (hdr : Option DynsecStallIocHdr)
    (capable : Bool) {s s' : DynsecState}
    (h : { s'.config with stallMode := false } = { s.config with stallMode := false }) :
    { (handleStallIoc lim hdr capable s').2.config with stallMode := false } =
      { (handleStallIoc lim hdr capable s).2.config with stallMode := false } := by
  rcases s with ⟨⟨sm, b, i, t, tc, dn⟩, tcache, icache⟩
  rcases s' with ⟨⟨sm', b', i', t', tc', dn'⟩, tcache', icache'⟩
  simp only [DynsecConfig.mk.injEq, true_and] at h
  obtain ⟨rfl, rfl, rfl, rfl, rfl⟩ := h
  cases hdr <;> dsimp only [handleStallIoc]
  split_ifs <;> simp [iocStallMode_eq, iocDefaultTimeout_eq, iocContinueTimeout_eq,
    iocDefaultDeny_eq, DynsecState.setConfig]

/-- A request that carries only `DYNSEC_STALL_MODE_SET` changes nothing in the
configuration but stall mode. -/
theorem handleStallIoc_stallModeOnly (lim : TimeoutLimits) (hdr : DynsecStallIocHdr)
    (capable : Bool) (s : DynsecState)
    (hf : hdr.flags &&& dynsecStallIocFlags = dynsecStallModeSet) :
    { (handleStallIoc lim (some hdr) capable s).2.config with stallMode := false } =
      { s.config with stallMode := false } := by
  have h2 : ¬ dynsecStallModeSet &&& dynsecStallDefaultTimeout ≠ 0 := by decide
  have h4 : ¬ dynsecStallModeSet &&& dynsecStallContinueTimeout ≠ 0 := by decide
  have h8 : ¬ dynsecStallModeSet &&& dynsecStallDefaultDeny ≠ 0 := by decide
  dsimp only [handleStallIoc]
  rw [hf]
  split_ifs <;> simp only [iocDefaultDeny_eq, iocContinueTimeout_eq, iocDefaultTimeout_eq,
    iocStallMode_eq, h2, h4, h8, if_false, setConfig_config]

/-- Two machines that differ at most in stall mode and the caches: what a
request that only switches stall mode changes. -/
def Machine.SameButStallMode (m m' : Machine) : Prop :=
  m'.waiter = m.waiter ∧ m'.entry = m.entry ∧ m'.linked = m.linked ∧
    m'.tblEnabled = m.tblEnabled ∧ m'.lastWritten = m.lastWritten ∧
    { m'.state.config with stallMode := false } = { m.state.config with stallMode := false }

/-- Along the run from `m`, the waiter never takes the stall-mode check. -/
def SkipsStallModeCheck (lim : TimeoutLimits) : Machine → List Action → Bool
  | _, [] => true
  | m, a :: acts => !(a == .waiter && m.waiter.pc == .checkStallMode) &&
      match step lim m a with
      | some m₁ => SkipsStallModeCheck lim m₁ acts
      | none => true

section Frame

variable {lim : TimeoutLimits} {m m' m₁ : Machine}

theorem Machine.SameButStallMode.eq (h : m.SameButStallMode m') :
    m' = { m with state := m'.state } := by
  obtain ⟨hw, he, hl, ht, hlw, -⟩ := h
  cases m; cases m'
  simp_all

theorem Machine.SameButStallMode.of_state {S : DynsecState}
    (hS : { S.config with stallMode := false } = { m.state.config with stallMode := false })
    (hst : m₁.state = m.state) : m₁.SameButStallMode { m₁ with state := S } :=
  ⟨rfl, rfl, rfl, rfl, rfl, by rw [hst]; exact hS⟩

theorem Machine.waiterStep_state (h : m.waiterStep = some m₁) : m₁.state = m.state := by
  unfold Machine.waiterStep at h
  split at h <;> (try split_ifs at h) <;> cases h <;> rfl

theorem Machine.waitReturns_state {v : Int} (h : m.waitReturns v = some m₁) :
    m₁.state = m.state := by
  unfold Machine.waitReturns at h
  split_ifs at h <;> cases h <;> rfl

/-- Every step of the waiter but the stall-mode check reads the configuration
only through the fields stall mode does not touch. -/
theorem Machine.waiterStep_withState {S : DynsecState}
    (hS : { S.config with stallMode := false } = { m.state.config with stallMode := false })
    (hpc : m.waiter.pc ≠ .checkStallMode) :
    ({ m with state := S } : Machine).waiterStep = m.waiterStep.map fun x => { x with state := S } := by
  have h1 : S.config.stallTimeout = m.state.config.stallTimeout :=
    (congrArg DynsecConfig.stallTimeout hS :)
  have h2 : S.config.bypassMode = m.state.config.bypassMode :=
    (congrArg DynsecConfig.bypassMode hS :)
  have h3 : S.config.stallTimeoutContinue = m.state.config.stallTimeoutContinue :=
    (congrArg DynsecConfig.stallTimeoutContinue hS :)
  unfold Machine.waiterStep
  cases hp : m.waiter.pc <;>
    simp [hp, h1, h2, h3, Machine.goto, Machine.abort, Machine.continueTimeout] at hpc ⊢ <;>
    split_ifs <;> rfl

theorem Machine.waitReturns_withState (S : DynsecState) (v : Int) :
    ({ m with state := S } : Machine).waitReturns v =
      (m.waitReturns v).map fun x => { x with state := S } := by
  unfold Machine.waitReturns Machine.goto
  split_ifs <;> rfl

/-- **One step keeps two machines that differ only in stall mode apart by no
more**, unless it is the waiter's stall-mode check. -/
theorem Machine.SameButStallMode.step (h : m.SameButStallMode m') {a : Action}
    (ha : a = .waiter → m.waiter.pc ≠ .checkStallMode) (hs : Dynsec.step lim m a = some m₁) :
    ∃ m₁', Dynsec.step lim m' a = some m₁' ∧ m₁.SameButStallMode m₁' := by
  have hS := h.2.2.2.2.2
  rw [h.eq]
  cases a with
  | waiter =>
    refine ⟨{ m₁ with state := m'.state }, ?_, .of_state hS (Machine.waiterStep_state hs)⟩
    change ({ m with state := m'.state } : Machine).waiterStep = _
    rw [Machine.waiterStep_withState hS (ha rfl), show m.waiterStep = some m₁ from hs]; rfl
  | waitReturns v =>
    refine ⟨{ m₁ with state := m'.state }, ?_, .of_state hS (Machine.waitReturns_state hs)⟩
    change ({ m with state := m'.state } : Machine).waitReturns v = _
    rw [Machine.waitReturns_withState, show m.waitReturns v = some m₁ from hs]; rfl
  | resolve r t =>
    obtain ⟨hl, ht, rfl⟩ := Machine.resolve_eq hs
    exact ⟨_, by simp [Dynsec.step, Machine.resolve, hl, ht], .of_state hS rfl⟩
  | ioctl hdr capable =>
    cases hs
    exact ⟨_, rfl, rfl, rfl, rfl, rfl, rfl, handleStallIoc_forget_stallMode lim hdr capable hS⟩
  | setTblEnabled b =>
    cases hs
    exact ⟨_, rfl, rfl, rfl, rfl, rfl, rfl, hS⟩
  | setBypass b =>
    cases hs
    exact ⟨_, rfl, rfl, rfl, rfl, rfl, rfl, congrArg (fun c => { c with bypassMode := b }) hS⟩

/-- **The frame.**  A run in which the waiter never takes the stall-mode check
goes the same way from two machines that differ only in stall mode. -/
theorem Machine.SameButStallMode.run :
    ∀ {acts : List Action} {m m' m₁ : Machine}, m.SameButStallMode m' →
      SkipsStallModeCheck lim m acts = true → Dynsec.run lim m acts = some m₁ →
      ∃ m₁', Dynsec.run lim m' acts = some m₁' ∧ m₁.SameButStallMode m₁'
  | [], _, _, _, h, _, hr => by cases hr; exact ⟨_, rfl, h⟩
  | _ :: _, _, _, _, h, hskip, hr => by
    rw [run_cons] at hr ⊢
    obtain ⟨m₂, h₂, hr⟩ := Option.bind_eq_some.mp hr
    simp only [SkipsStallModeCheck, h₂, Bool.and_eq_true, Bool.not_eq_true', Bool.and_eq_false_iff,
      beq_eq_false_iff_ne] at hskip
    obtain ⟨m₂', h₂', hsame⟩ := h.step (fun ha => hskip.1.resolve_left (not_not.mpr ha)) h₂
    obtain ⟨m₁', h₁', hsame'⟩ := hsame.run hskip.2 hr
    exact ⟨m₁', by rw [h₂', Option.some_bind, h₁'], hsame'⟩

end Frame

/-- **Stall mode is read only at its check after `retry:`.**  Along every run:
if the waiter is at the stall-mode check with stall mode off, its next step ends
the stall, and whatever happens afterwards `*response` stays `0`, so the hook
returns `0`.  And a request that only switches stall mode, landing anywhere,
changes nothing the waiter does until it next takes that check: a disable that
lands inside a wait does not end the round, and a response written afterwards is
applied as if stall mode were on. -/
theorem stall_mode_off_at_retry (lim : TimeoutLimits) (st : DynsecState)
    (acts : List Action) (m : Machine) (h : run lim (Machine.init st) acts = some m) :
    (m.waiter.pc = .checkStallMode → m.state.config.stallMode = false →
      ∀ acts' m', run lim m (.waiter :: acts') = some m' →
        m'.waiter.pc = .done ∧ m'.waiter.response = 0) ∧
    (∀ (hdr : DynsecStallIocHdr) (capable : Bool) (acts' : List Action) (m₁ : Machine),
      hdr.flags &&& dynsecStallIocFlags = dynsecStallModeSet →
      SkipsStallModeCheck lim m acts' = true →
      run lim m acts' = some m₁ →
      ∃ m₂, run lim m (.ioctl (some hdr) capable :: acts') = some m₂ ∧
        m₂.waiter = m₁.waiter ∧ m₂.entry = m₁.entry ∧ m₂.linked = m₁.linked) := by
  refine ⟨fun hpc hoff acts' m' h' => ?_, fun hdr capable acts' m₁ hf hskip hrun => ?_⟩
  · have h0 := ((StallInv.init st).run h).response_zero (by rw [hpc]; decide)
    rw [run_cons] at h'
    obtain ⟨m₁, h₁, h'⟩ := Option.bind_eq_some.mp h'
    simp only [Dynsec.step, Machine.waiterStep, hpc, hoff, Bool.false_eq_true, if_false,
      Option.some.injEq] at h₁
    subst h₁
    rw [run_waiter_of_done rfl h']
    exact ⟨rfl, h0⟩
  · have hsame : m.SameButStallMode { m with state := (handleStallIoc lim (some hdr) capable m.state).2 } :=
      ⟨rfl, rfl, rfl, rfl, rfl, handleStallIoc_stallModeOnly lim hdr capable m.state hf⟩
    obtain ⟨m₂, h₂, hw, he, hl, -⟩ := hsame.run hskip hrun
    exact ⟨m₂, by rw [run_cons]; exact h₂, hw, he, hl⟩

/-- Stall mode switched off before the first round: the waiter meets it at the
stall-mode check and returns.  Switched off inside the first wait instead, it
changes nothing: the `DENY` written afterwards ends the stall with `-EPERM`, as
it does with stall mode on. -/
theorem stall_mode_off_at_retry_after_disable :
    let lim : TimeoutLimits := ⟨1000, 30000, 300000⟩
    let st : DynsecState := ⟨⟨true, false, false, 1000, 1000, false⟩, [], []⟩
    let off : DynsecStallIocHdr := ⟨dynsecStallModeSet, 0, 0, 0, 0⟩
    let m : Machine := ⟨⟨.checkStallMode, 0, 0, 0, 1000, 0, 0, 0, none⟩, ⟨.stall, 0, 0⟩, true,
      true, ⟨⟨false, false, false, 1000, 1000, false⟩, [], []⟩, none⟩
    let w : Machine := ⟨⟨.wait, 0, 0, 0, 1000, 0, 0, 0, none⟩, ⟨.stall, 0, 0⟩, true, true, st, none⟩
    let acts : List Action := [.resolve dynsecResponseEperm 0, .waitReturns 1, .waiter, .waiter,
      .waiter]
    (run lim (Machine.init st) [.ioctl (some off) true, .waiter, .waiter] = some m ∧
      run lim m [.waiter] = some m.abort ∧ m.abort.waiter.pc = .done ∧
      m.abort.waiter.response = 0) ∧
    (run lim (Machine.init st) [.waiter, .waiter, .waiter, .waiter] = some w ∧
      ∃ m₂, run lim w (.ioctl (some off) true :: acts) = some m₂ ∧ m₂.waiter.pc = .done ∧
        m₂.waiter.response = -ePerm) := by
  intro lim st off m w acts
  have h : run lim (Machine.init st) [.ioctl (some off) true, .waiter, .waiter] = some m := by
    decide
  have h' : run lim m [.waiter] = some m.abort := by decide
  have hw : run lim (Machine.init st) [.waiter, .waiter, .waiter, .waiter] = some w := by decide
  obtain ⟨m₂, h₂, hw₂, -⟩ := (stall_mode_off_at_retry lim st _ w hw).2 off true acts
    ⟨⟨.done, 0, dynsecResponseEperm, 0, 1000, 0, 0, -ePerm, some dynsecResponseEperm⟩,
      ⟨.stall, dynsecResponseEperm, 0⟩, false, true, st, some dynsecResponseEperm⟩
    (by decide) (by decide) (by decide)
  exact ⟨⟨h, h', (stall_mode_off_at_retry lim st _ m h).1 rfl rfl [] m.abort h'⟩,
    hw, m₂, h₂, by rw [hw₂], by rw [hw₂]⟩

/-- **A disable mid-wait is not seen.**  The waiter is inside its first wait
when a privileged `STALL_MODE_SET` request turns stall mode off; user space then
answers `DENY`, and the stall ends with `-EPERM` though stall mode is off. -/
theorem stall_mode_off_mid_wait :
    run ⟨1000, 30000, 300000⟩ (Machine.init ⟨⟨true, false, false, 1000, 1000, false⟩, [], []⟩)
        [.waiter, .waiter, .waiter, .waiter, .ioctl (some ⟨dynsecStallModeSet, 0, 0, 0, 0⟩) true,
          .resolve dynsecResponseEperm 0, .waitReturns 1, .waiter, .waiter, .waiter] =
      some ⟨⟨.done, 0, dynsecResponseEperm, 0, 1000, 0, dynsecResponseAllow, -ePerm,
        some dynsecResponseEperm⟩, ⟨.stall, dynsecResponseEperm, 0⟩, false, true,
        ⟨⟨false, false, false, 1000, 1000, false⟩, [], []⟩, some dynsecResponseEperm⟩ := by
  decide

/-! ## Reading the default -/

/-- **The default is read after publication.**  With default deny configured, a
`CONTINUE` that lands between `stall_tbl_insert` and the unlocked read of
`entry->response` at line 103 becomes `default_reponse`.  The first round sees
the release and reads `CONTINUE`, the second times out, and the stall ends
normally with `*response = 0`, the hook allowing although the entry was
inserted with `DENY`. -/
theorem stall_default_read_race :
    insertDefault true = dynsecResponseEperm ∧
      run ⟨1000, 30000, 300000⟩ (Machine.init ⟨⟨true, false, false, 1000, 1000, true⟩, [], []⟩)
        [.resolve dynsecResponseContinue 0, .waiter, .waiter, .waiter, .waiter, .waitReturns 1,
          .waiter, .waiter, .waiter, .waiter, .waiter, .waitReturns 0, .waiter] =
        some ⟨⟨.done, 0, dynsecResponseContinue, 0, 1000, 1, dynsecResponseContinue, 0,
          some dynsecResponseContinue⟩, ⟨.stall, dynsecResponseContinue, 0⟩, false, true,
          ⟨⟨true, false, false, 1000, 1000, true⟩, [], []⟩, some dynsecResponseContinue⟩ := by
  decide

end Dynsec
