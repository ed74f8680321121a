import Dynsec.HookProperties

/-!
# The older hooks of `hooks.c`

`hooks.c` keeps an older version of four hooks: exec, unlink, rmdir and rename.
They follow the skeleton of `part_000` without its test of `lsm_hooks_enabled`
and differ from it in one point that matters for ownership: they keep what
`enqueue_nonstall_event` returns and free the event when it is `0`.  So here
every allocated event is disposed of exactly once, with no escape clause
(`Legacy.HookCall.disposals_eq_one`), where `HookCall.allocated_disposed_or_rejected` has to
allow for a rejected event.

## The two versions side by side

These two points are the whole difference.  `Legacy.HookCall.run_eq_freeRejected`
says that on a hook type the mask enables, an older hook returns what the newer
one returns and makes the same calls, with one more: a free of the event after
every enqueue the queue returned `0` for (`freeRejected`).  On a queue that
accepts every event the two versions are the same function.
-/

namespace Dynsec

namespace Legacy

/-- The tail of the older hooks: fill (freeing the event if that fails), then
stall, or enqueue and free the event if the queue returns `0`.  As in
`Dynsec.fillAndReport`, the extra timeout argument `1000` of the call to
`dynsec_wait_event_timeout` is dropped. -/
def fillAndReport (env : HookEnv) (event : Option DynsecEvent) : HookResult :=
  match event with
  | none => .out
  | some ev =>
    if !env.fillOk then ⟨0, [.free ev]⟩
    else if HasFlag ev.reportFlags dynsecReportStall then
      let w := dynsecWaitEventTimeout env.wait (some ev)
      ⟨stallRet w, .waitEvent ev :: w.trace⟩
    else if env.enqueueSize = 0 then ⟨0, [.enqueue ev false 0, .free ev]⟩
    else ⟨0, [.enqueue ev false env.enqueueSize]⟩

/-- The skeleton of the older hooks: interesting, table enabled, `SELF` or
`STALL`, allocate with `GFP_KERNEL` and test the allocation, fill, stall or
enqueue.  The exec hook tests its argument before the table, the others after;
neither test has an effect, so the order does not matter. -/
def legacyHook (env : HookEnv) (hookType : UInt32) (eventType : DynsecEventType)
    (interesting : Bool) : HookResult :=
  if !interesting then .out
  else if !env.stallTblEnabled then .out
  else allocAnd env eventType hookType (selfOrStall env) env.current.pid .kernel
    fun ev => fillAndReport env ev

def dynsecBprmSetCreds (env : HookEnv) (bprm : Option LinuxBinprm) : HookResult :=
  legacyHook env dynsecHookTypeExec .exec (bprm.any fun b => b.file.isSome)

def dynsecInodeUnlink (env : HookEnv) (dentry : Dentry) : HookResult :=
  legacyHook env dynsecHookTypeUnlink .unlink (reportableInode dentry)

def dynsecInodeRmdir (env : HookEnv) (dentry : Dentry) : HookResult :=
  legacyHook env dynsecHookTypeRmdir .rmdir (reportableInode dentry)

def dynsecInodeRename (env : HookEnv) (oldDentry : Dentry) : HookResult :=
  legacyHook env dynsecHookTypeRename .rename (reportableInode oldDentry)

/-- The hooks of `hooks.c` with their arguments. -/
inductive HookCall where
  | bprmSetCreds (bprm : Option LinuxBinprm)
  | inodeUnlink (dentry : Dentry)
  | inodeRmdir (dentry : Dentry)
  | inodeRename (oldDentry : Dentry)
  deriving DecidableEq, Repr

/-- Run an older hook. -/
def HookCall.run (env : HookEnv) : HookCall → HookResult
  | bprmSetCreds bprm => dynsecBprmSetCreds env bprm
  | inodeUnlink dentry => dynsecInodeUnlink env dentry
  | inodeRmdir dentry => dynsecInodeRmdir env dentry
  | inodeRename oldDentry => dynsecInodeRename env oldDentry

theorem fillAndReport_disposals (env : HookEnv) (ev : DynsecEvent) :
    disposals ev (fillAndReport env (some ev)).trace = 1 := by
  unfold fillAndReport
  dsimp only
  split_ifs with _ _ h0
  · simp [disposals, Effect.disposes]
  · simpa [disposals, Effect.disposes] using disposals_dynsecWaitEventTimeout env.wait ev
  · simp [disposals, Effect.disposes]
  · simp [disposals, Effect.disposes, h0]

/-- The tail allocates nothing. -/
theorem alloc_not_mem_fillAndReport (env : HookEnv) (o : Option DynsecEvent) (ev : DynsecEvent)
    (m : Gfp) : Effect.alloc ev m ∉ (fillAndReport env o).trace := by
  unfold fillAndReport
  split
  · simp [HookResult.out]
  · dsimp only
    split_ifs
    · simp
    · intro h
      rcases List.mem_cons.mp h with h | h
      · cases h
      · rcases dynsecWaitEventTimeout_trace_mem _ _ h with h | h | h | ⟨_, h⟩ | h <;> cases h
    · simp
    · simp

theorem legacyHook_disposals (env : HookEnv) (hookType : UInt32) (eventType : DynsecEventType)
    (interesting : Bool) {ev : DynsecEvent} {m : Gfp}
    (h : Effect.alloc ev m ∈ (legacyHook env hookType eventType interesting).trace) :
    disposals ev (legacyHook env hookType eventType interesting).trace = 1 := by
  unfold legacyHook at h ⊢
  split_ifs at h ⊢
  · simp [HookResult.out] at h
  · simp [HookResult.out] at h
  · refine @allocAnd_of_alloc_mem env _ _ _ _ _ _ (fun e t => disposals e t = 1)
      (fillAndReport_disposals env) (fun _ _ ht => ?_) (alloc_not_mem_fillAndReport env) _ _ h
    simpa [disposals, List.countP_cons, Effect.disposes] using ht

/-- **The older hooks dispose of every event they allocate exactly once**: a
rejected event is freed. -/
theorem HookCall.disposals_eq_one (env : HookEnv) (c : HookCall) {ev : DynsecEvent} {m : Gfp}
    (h : Effect.alloc ev m ∈ (c.run env).trace) : disposals ev (c.run env).trace = 1 := by
  cases c <;> exact legacyHook_disposals env _ _ _ h

/-- The agent's own exec, whose event the queue rejects: the older hook frees it. -/
theorem HookCall.disposals_eq_one_rejected :
    let env : HookEnv := ⟨dynsecHookTypeExec, true, fun _ => true, ⟨100, 100, false⟩, true, true, 0,
      ⟨true, false, none, false, 1000, fun _ => ⟨true, true, false, .timedOut, 1000⟩⟩, {}⟩
    let ev : DynsecEvent := ⟨.exec, dynsecHookTypeExec, dynsecReportAudit ||| dynsecReportSelf, 100⟩
    let c := HookCall.bprmSetCreds (some ⟨some ⟨0, none⟩⟩)
    (c.run env).trace = [.alloc ev .kernel, .enqueue ev false 0, .free ev] ∧
      disposals ev (c.run env).trace = 1 := by
  intro env ev c
  have h : (c.run env).trace = [.alloc ev .kernel, .enqueue ev false 0, .free ev] := by decide
  exact ⟨h, HookCall.disposals_eq_one env c (h ▸ List.mem_cons_self _ _)⟩

/-! ## Against the hooks of `part_000` -/

/-- The older tail's answer to one call: an enqueue the queue returned `0` for
is followed by a free of the event. -/
def freeIfRejected : Effect → List Effect
  | .enqueue ev lowPri 0 => [.enqueue ev lowPri 0, .free ev]
  | e => [e]

/-- A newer hook's calls, with every rejected event freed. -/
def freeRejected : List Effect → List Effect
  | [] => []
  | e :: es => freeIfRejected e ++ freeRejected es

@[simp] theorem freeIfRejected_alloc (ev : DynsecEvent) (m : Gfp) :
    freeIfRejected (.alloc ev m) = [.alloc ev m] := rfl

@[simp] theorem freeIfRejected_waitEvent (ev : DynsecEvent) :
    freeIfRejected (.waitEvent ev) = [.waitEvent ev] := rfl

@[simp] theorem freeRejected_nil : freeRejected [] = [] := rfl

@[simp] theorem freeRejected_cons (e : Effect) (es : List Effect) :
    freeRejected (e :: es) = freeIfRejected e ++ freeRejected es := rfl

theorem freeRejected_of_forall {t : List Effect} (h : ∀ e ∈ t, freeIfRejected e = [e]) :
    freeRejected t = t := by
  induction t with
  | nil => rfl
  | cons e es ih =>
    rw [freeRejected_cons, h e (List.mem_cons_self _ _),
      ih fun e' he' => h e' (List.mem_cons_of_mem _ he')]
    rfl

/-- A stall enqueues nothing. -/
theorem freeRejected_dynsecWaitEventTimeout (env : WaitEnv) (ev : DynsecEvent) :
    freeRejected (dynsecWaitEventTimeout env (some ev)).trace =
      (dynsecWaitEventTimeout env (some ev)).trace :=
  freeRejected_of_forall fun _ he => by
    rcases dynsecWaitEventTimeout_trace_mem env ev he with rfl | rfl | rfl | ⟨_, rfl⟩ | rfl <;> rfl

/-- The older tail is the newer one at normal priority, with a rejected event
freed. -/
theorem fillAndReport_eq (env : HookEnv) (o : Option DynsecEvent) :
    fillAndReport env o = ⟨(Dynsec.fillAndReport env o false).ret,
      freeRejected (Dynsec.fillAndReport env o false).trace⟩ := by
  unfold fillAndReport Dynsec.fillAndReport
  split
  · rfl
  · dsimp only
    split_ifs with _ _ h0
    · rfl
    · simp [freeRejected_dynsecWaitEventTimeout]
    · simp [h0, freeIfRejected]
    · obtain ⟨n, hn⟩ := Nat.exists_eq_succ_of_ne_zero h0
      simp [hn, freeIfRejected]

theorem legacyHook_eq (env : HookEnv) (hookType : UInt32) (eventType : DynsecEventType)
    (interesting : Bool) (h : ¬hookDisabled env hookType) :
    legacyHook env hookType eventType interesting =
      ⟨(lsmStallHook env hookType eventType interesting).ret,
        freeRejected (lsmStallHook env hookType eventType interesting).trace⟩ := by
  unfold legacyHook lsmStallHook
  rw [if_neg h]
  split_ifs
  · rfl
  · rfl
  · unfold allocAnd
    split <;> simp [fillAndReport_eq]

/-- The hook of `part_000` of the same name. -/
def HookCall.toHookCall : HookCall → Dynsec.HookCall
  | bprmSetCreds bprm => .bprmSetCreds bprm
  | inodeUnlink dentry => .inodeUnlink dentry
  | inodeRmdir dentry => .inodeRmdir dentry
  | inodeRename oldDentry => .inodeRename oldDentry

/-- The bit of `lsm_hooks_enabled` the newer version of the hook tests. -/
def HookCall.hookType : HookCall → UInt32
  | bprmSetCreds _ => dynsecHookTypeExec
  | inodeUnlink _ => dynsecHookTypeUnlink
  | inodeRmdir _ => dynsecHookTypeRmdir
  | inodeRename _ => dynsecHookTypeRename

/-- **The older hooks are the newer ones with rejected events freed.**  On a
hook type that `lsm_hooks_enabled` enables, every older hook returns what its
`part_000` version returns, and makes the same calls but for a free of the
event after an enqueue the queue rejected. -/
theorem HookCall.run_eq_freeRejected (env : HookEnv) (c : HookCall)
    (h : ¬hookDisabled env c.hookType) :
    c.run env = ⟨(c.toHookCall.run env).ret, freeRejected (c.toHookCall.run env).trace⟩ := by
  cases c <;> exact legacyHook_eq env _ _ _ h

/-- An unlink whose event the queue rejects: the older hook frees it, the newer
one does not. -/
theorem HookCall.run_eq_freeRejected_unlink :
    let env : HookEnv := ⟨dynsecHookTypeUnlink, true, fun _ => true, ⟨100, 100, false⟩, true, true,
      0, ⟨true, false, none, false, 1000, fun _ => ⟨true, true, false, .timedOut, 1000⟩⟩, {}⟩
    let c := HookCall.inodeUnlink ⟨some ⟨sIfreg, 0, 0, 0⟩⟩
    ¬hookDisabled env c.hookType ∧
      c.run env = ⟨(c.toHookCall.run env).ret, freeRejected (c.toHookCall.run env).trace⟩ :=
  ⟨by decide, HookCall.run_eq_freeRejected _ _ (by decide)⟩

end Legacy

end Dynsec
