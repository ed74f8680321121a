import Dynsec.Stall

/-!
# The stalled task against everything else: an interleaving model

`Dynsec.Stall` runs the wait loop against a script of round outcomes.  Here the
waiter is one thread among others.  Its program counter walks the lines of
`do_stall_interruptible`, each step one atomic action of the C code, and between
any two of its steps the rest of the system may act:

* the delivery surface *resolves* the entry (`resolve`): under `entry->lock` it
  writes `response` and `stall_timeout` and sets `mode = RELEASED`, while the
  entry is linked and the table enabled;
* a control request runs `handle_stall_ioc` on the configuration;
* something else enables or disables the stall table, or toggles bypass mode.

A run is a list of `Action`s from the state right after `stall_tbl_insert`
published the entry (`Machine.init`).  The wait itself is the action
`waitReturns v`, allowed exactly when `v` is what the `int wait_ret` can hold
after the kernel's `wait_event_interruptible_timeout` (`WaitRet`).  When the
condition `entry->mode != DYNSEC_STALL_MODE_STALL` does not hold, the call
returns `0` (a timeout) or a negative error (a signal).  When it holds, the call
returns the jiffies left of the round's timeout, at least `1`, as a `long`, and
`int wait_ret` keeps the low 32 bits of it.  Below `2^31` jiffies that is the
positive value itself.  A round that waits longer, which any timeout of `2^31`
milliseconds or more does (`msecs_to_jiffies` gives `MAX_JIFFY_OFFSET`), can
see a release as `0` or as a negative value.  Time is not modelled otherwise; a
timeout may happen whenever the entry is not released.

## Ghost state

Two fields are written by the steps and read by no step: `lastWritten`, the
response the last `resolve` wrote (`run_lastWritten` says it is the last
`resolve` of the run), and the waiter's `observed`, the value `lastWritten` had
at the waiter's latest look at the entry (the locked read, or a wait that
returned without a release).  They exist to state which response the waiter's
verdict answers to.

## The invariant

`StallInv` says, for each program point of the waiter, which responses can be
waiting for it.  The central field: while the waiter is between rounds or
waiting and the entry is not released, the last response written is `CONTINUE`
or there is none, because a `resolve` releases the entry and only the locked
read, which copies the response, re-arms it.  From this, `stall_no_lost_response`
reads the verdict off the last response the waiter looked at, when the last
round is shorter than `2^31` jiffies.
-/

namespace Dynsec

/-- `DYNSEC_STALL_MODE_STALL` and `DYNSEC_STALL_MODE_RELEASED`. -/
inductive StallMode where
  | stall
  | released
  deriving DecidableEq, Repr

/-- The fields of a stall entry guarded by `entry->lock`. -/
structure StallEntry where
  mode : StallMode
  response : Int
  stallTimeout : Nat
  deriving DecidableEq, Repr

/-- The waiter's program counter: the line of `do_stall_interruptible` it is
about to execute. -/
inductive Pc where
  /-- Line 103: `default_reponse = entry->response`, and the initial values. -/
  | start
  /-- Line 110: the stall-table check at `retry:`. -/
  | retry
  /-- Line 113: the stall-mode check. -/
  | checkStallMode
  /-- Line 116: the bypass check. -/
  | checkBypass
  /-- Line 123: `wait_event_interruptible_timeout`. -/
  | wait
  /-- Lines 148-155: the locked read and re-arm. -/
  | locked
  /-- Lines 158-175: the continuation decision. -/
  | unlocked
  /-- Lines 178-186: set `*response`, remove the entry, return. -/
  | finish
  /-- Returned. -/
  | done
  deriving DecidableEq, Repr

/-- The waiter's local variables, `*response`, and the ghost `observed`.  The
timeouts are kept in milliseconds; the wait converts `timeout` with
`msecs_to_jiffies`. -/
structure Waiter where
  pc : Pc
  ret : Int
  localResponse : Int
  localTimeout : Nat
  timeout : Nat
  continueCount : Nat
  defaultReponse : Int
  response : Int
  observed : Option Int
  deriving DecidableEq, Repr

/-- The whole system as the waiter sees it. -/
structure Machine where
  waiter : Waiter
  entry : StallEntry
  /-- The entry is linked in the stall table. -/
  linked : Bool
  tblEnabled : Bool
  state : DynsecState
  /-- Ghost: the response the last `resolve` wrote. -/
  lastWritten : Option Int
  deriving DecidableEq, Repr

/-- What the `int wait_ret` can hold after `wait_event_interruptible_timeout`
with a timeout of `jiffies`: on a released entry the jiffies left, at least `1`,
truncated to an `int` (`Int.bmod`); otherwise `0` on a timeout or a negative
error on a signal. -/
def WaitRet (released : Bool) (jiffies : Nat) (waitRet : Int) : Prop :=
  if released then ∃ r : Nat, 1 ≤ r ∧ r ≤ max jiffies 1 ∧ (r : Int).bmod (2 ^ 32) = waitRet
  else waitRet ≤ 0

/-- The values a release can leave in `wait_ret`: the jiffies left while they
fit in an `int`, negative values once a round may wait `2^31` jiffies, and `0`
once it may wait `2^32`. -/
theorem waitRet_true_iff (jiffies : Nat) (v : Int) :
    WaitRet true jiffies v ↔ (0 < v ∧ v ≤ max jiffies 1 ∧ v < 2 ^ 31) ∨
      (-2 ^ 31 ≤ v ∧ v < 0 ∧ v + 2 ^ 32 ≤ max jiffies 1) ∨ (v = 0 ∧ 2 ^ 32 ≤ max jiffies 1) := by
  simp only [WaitRet, if_true, Int.bmod]
  constructor
  · rintro ⟨r, h1, h2, rfl⟩
    split_ifs <;> omega
  · rintro (⟨h1, h2, h3⟩ | ⟨h1, h2, h3⟩ | ⟨rfl, h3⟩)
    · exact ⟨v.toNat, by omega, by omega, by split_ifs <;> omega⟩
    · exact ⟨(v + 2 ^ 32).toNat, by omega, by omega, by split_ifs <;> omega⟩
    · exact ⟨2 ^ 32, by omega, h3, by decide⟩

@[simp] theorem waitRet_false_iff (jiffies : Nat) (v : Int) : WaitRet false jiffies v ↔ v ≤ 0 := by
  simp [WaitRet]

instance (released : Bool) (jiffies : Nat) (v : Int) : Decidable (WaitRet released jiffies v) :=
  match released with
  | true => decidable_of_iff _ (waitRet_true_iff jiffies v).symm
  | false => decidable_of_iff _ (waitRet_false_iff jiffies v).symm

/-- Below `2^31` jiffies a release leaves exactly the jiffies left in `wait_ret`,
a positive value. -/
theorem waitRet_true_pos {jiffies : Nat} (hj : jiffies < 2 ^ 31) {v : Int}
    (h : WaitRet true jiffies v) : 0 < v := by
  rw [waitRet_true_iff] at h
  omega

/-- A release may always leave one jiffy. -/
@[simp] theorem waitRet_true_one (jiffies : Nat) : WaitRet true jiffies 1 := by
  rw [waitRet_true_iff]; omega

@[simp] theorem StallMode.released_bne_stall : (StallMode.released != .stall) = true := rfl

namespace Machine

/-- The state right after `stall_tbl_insert` published the entry, with
`*response = 0` as `dynsec_wait_event_timeout` set it. -/
def init (st : DynsecState) : Machine where
  waiter := ⟨.start, 0, 0, 0, 0, 0, 0, 0, none⟩
  entry := ⟨.stall, insertDefault st.config.stallTimeoutDeny, 0⟩
  linked := true
  tblEnabled := true
  state := st
  lastWritten := none

/-- The waiter with a new program counter. -/
def goto (m : Machine) (pc : Pc) : Machine := { m with waiter := { m.waiter with pc := pc } }

/-- The waiter returns `-ECHILD` at `retry:`, skipping removal. -/
def abort (m : Machine) : Machine :=
  { m with waiter := { m.waiter with ret := -eChild, pc := .done } }

/-- The timeout of the next round after a `CONTINUE`: the one user space asked
for, or `get_continue_timeout()`. -/
def continueTimeout (m : Machine) : Nat :=
  if m.waiter.localTimeout ≠ 0 then m.waiter.localTimeout
  else m.state.config.stallTimeoutContinue

/-- The waiter's own step at every program point but the wait. -/
def waiterStep (m : Machine) : Option Machine :=
  match m.waiter.pc with
  | .start => some { m with
      waiter := { m.waiter with
        defaultReponse := m.entry.response
        timeout := m.state.config.stallTimeout
        localResponse := m.entry.response
        pc := .retry } }
  | .retry => some (if m.tblEnabled then m.goto .checkStallMode else m.abort)
  | .checkStallMode => some (if m.state.config.stallMode then m.goto .checkBypass else m.abort)
  | .checkBypass => some <|
      if m.state.config.bypassMode then m.abort
      else { m with
        waiter := { m.waiter with
          localTimeout := 0
          localResponse := m.waiter.defaultReponse
          pc := .wait } }
  | .wait => none
  | .locked => some { m with
      entry := { m.entry with mode := .stall }
      waiter := { m.waiter with
        localResponse := m.entry.response
        localTimeout := m.entry.stallTimeout
        observed := m.lastWritten
        pc := .unlocked } }
  | .unlocked => some <|
      if m.waiter.localResponse = dynsecResponseContinue then
        if m.waiter.continueCount + 1 < maxContinueResponses then
          { m with
            waiter := { m.waiter with
              timeout := continueTimeout m
              continueCount := m.waiter.continueCount + 1
              pc := .retry } }
        else
          { m with
            waiter := { m.waiter with
              timeout := continueTimeout m
              continueCount := m.waiter.continueCount + 1
              ret := -eChild
              pc := .finish } }
      else m.goto .finish
  | .finish => some { m with
      linked := false
      waiter := { m.waiter with
        response := if m.waiter.localResponse = dynsecResponseEperm then -ePerm
          else m.waiter.response
        pc := .done } }
  | .done => none

/-- The wait returns `waitRet`, as the kernel and the `int` it is stored in
allow.  A positive return goes on to the locked read; otherwise the round ends
with `local_response` still the default, as after an interrupt or a timeout. -/
def waitReturns (m : Machine) (waitRet : Int) : Option Machine :=
  if m.waiter.pc = .wait ∧
      WaitRet (m.entry.mode != .stall) (msecsToJiffies m.waiter.timeout) waitRet then
    if 0 < waitRet then some (m.goto .locked)
    else some { m with waiter := { m.waiter with observed := m.lastWritten, pc := .finish } }
  else none

/-- Modelled from the spec: `resolve` (§4.2) is not under `src/`.  Under the
entry lock it writes the response and the continuation timeout and releases the
entry; it finds the entry only while it is linked, and like every table
operation it does nothing while the table is disabled. -/
def resolve (m : Machine) (response : Int) (timeout : Nat) : Option Machine :=
  if m.linked ∧ m.tblEnabled then
    some { m with entry := ⟨.released, response, timeout⟩, lastWritten := some response }
  else none

end Machine

/-- One action of the system. -/
inductive Action where
  /-- The waiter's next step, at any program point but the wait. -/
  | waiter
  /-- The waiter's wait returns this value. -/
  | waitReturns (waitRet : Int)
  /-- User space answers. -/
  | resolve (response : Int) (timeout : Nat)
  /-- A control request, with its caller's privilege. -/
  | ioctl (hdr : Option DynsecStallIocHdr) (capable : Bool)
  /-- The stall table is enabled or disabled. -/
  | setTblEnabled (enabled : Bool)
  /-- Bypass mode is switched. -/
  | setBypass (enabled : Bool)
  deriving DecidableEq, Repr

/-- One step of the system; `none` when the action is not possible. -/
def step (lim : TimeoutLimits) (m : Machine) : Action → Option Machine
  | .waiter => m.waiterStep
  | .waitReturns v => m.waitReturns v
  | .resolve r t => m.resolve r t
  | .ioctl hdr capable => some { m with state := (handleStallIoc lim hdr capable m.state).2 }
  | .setTblEnabled b => some { m with tblEnabled := b }
  | .setBypass b =>
    some { m with state := m.state.setConfig ({ m.state.config with bypassMode := b }) }

/-- A run of the system. -/
def run (lim : TimeoutLimits) : Machine → List Action → Option Machine
  | m, [] => some m
  | m, a :: acts => (step lim m a).bind fun m' => run lim m' acts

@[simp] theorem run_nil (lim : TimeoutLimits) (m : Machine) : run lim m [] = some m := rfl

theorem run_cons (lim : TimeoutLimits) (m : Machine) (a : Action) (acts : List Action) :
    run lim m (a :: acts) = (step lim m a).bind fun m' => run lim m' acts := rfl

/-- The response the last `resolve` of a list of actions writes. -/
def lastResponseWritten : List Action → Option Int → Option Int
  | [], r => r
  | .resolve r _ :: acts, _ => lastResponseWritten acts (some r)
  | _ :: acts, r => lastResponseWritten acts r

namespace Machine

variable {m m' : Machine}

theorem waiterStep_lastWritten (h : m.waiterStep = some m') : m'.lastWritten = m.lastWritten := by
  unfold waiterStep at h
  split at h <;> (try split_ifs at h) <;> cases h <;> rfl

theorem waitReturns_lastWritten {v : Int} (h : m.waitReturns v = some m') :
    m'.lastWritten = m.lastWritten := by
  unfold waitReturns at h
  split_ifs at h <;> cases h <;> rfl

theorem resolve_eq {r : Int} {t : Nat} (h : m.resolve r t = some m') :
    m.linked = true ∧ m.tblEnabled = true ∧
      m' = { m with entry := ⟨.released, r, t⟩, lastWritten := some r } := by
  unfold resolve at h
  split_ifs at h with hl
  exact ⟨hl.1, hl.2, (Option.some.inj h).symm⟩

end Machine

/-- The ghost `lastWritten` is the response of the run's last `resolve`. -/
theorem run_lastWritten (lim : TimeoutLimits) :
    ∀ (acts : List Action) (m m' : Machine), run lim m acts = some m' →
      m'.lastWritten = lastResponseWritten acts m.lastWritten
  | [], m, m', h => by cases h; rfl
  | a :: acts, m, m', h => by
    rw [run_cons] at h
    obtain ⟨m₁, h₁, h⟩ := Option.bind_eq_some.mp h
    rw [run_lastWritten lim acts m₁ m' h]
    cases a with
    | waiter => rw [Machine.waiterStep_lastWritten h₁]; rfl
    | waitReturns v => rw [Machine.waitReturns_lastWritten h₁]; rfl
    | resolve r t => rw [(Machine.resolve_eq h₁).2.2]; rfl
    | ioctl => cases h₁; rfl
    | setTblEnabled => cases h₁; rfl
    | setBypass => cases h₁; rfl

end Dynsec
