import Dynsec.Hooks

/-!
# What every hook guarantees

`HookCall.shape` classifies the result of every hook of `part_000`, for every
input and every outcome of the calls the hook makes.  This file reads the
properties of the whole set of hooks off that classification, without unfolding
a hook again:

* **stalling** (`Shape.waitEvent`): `dynsec_wait_event_timeout` is called only on
  the hook's own event, with `STALL` and without `SELF`, for a task outside the
  agent, and what it decides is what the hook returns.  With the verdict law of
  `Dynsec.Stall` this is the verdict of every stalling hook;
* **ownership** (`Shape.disposedOrRejected`): every event a hook allocates is
  freed, accepted by a queue, or published by `stall_tbl_insert` exactly once,
  unless a queue rejects it;
* **verdicts** (`HookCall.run_ret_eq`): a hook returns `0` or `-EPERM`, and
  `-EPERM` only after stalling;
* **the setattr filter** (`setattrMask_eq`): the mask `dynsec_inode_setattr`
  reports is `ia_valid` restricted to the attributes that really change;
* **the mmap policy** (`dynsecMmapFile_stalls_iff`): `dynsec_mmap_file` stalls
  exactly when its module parameters say it should;
* **sleeping** (`HookCall.stalls_on_kernel_alloc`): a hook stalls only on an
  event it allocated with `GFP_KERNEL`;
* **ignore mode** (`HookCall.run_withIgnoreMode`): no hook sets `IGNORE`, so no
  hook depends on `ignore_mode`.

The model is the build for kernels from 4.0 on, where the `g_original_ops_ptr`
chaining that older kernels run first is compiled out.  Both escape clauses are
real.  The hooks of `part_000` discard what
`enqueue_nonstall_event` returns, so an event the queue rejects is never freed
(the older hooks of `hooks.c`, in `Dynsec.HooksLegacy`, free it); and
`dynsec_mmap_file` has no test of `lsm_hooks_enabled` at all.
-/

namespace Dynsec

section Shapes

variable {env : HookEnv} {mayStall : Bool} {r : HookResult}

/-! ## Stalling -/

/-- A result calls the stall engine only on its own event, with `STALL` and
without `SELF`, for a task outside the agent, and returns what the stall decided;
and only a hook that may stall does. -/
theorem Shape.waitEvent (hs : Shape env mayStall r) {ev : DynsecEvent}
    (h : Effect.waitEvent ev ∈ r.trace) :
    mayStall = true ∧ HasFlag ev.reportFlags dynsecReportStall ∧
      ¬ HasFlag ev.reportFlags dynsecReportSelf ∧ env.taskInConnectedTgid env.current = false ∧
      r.ret = stallRet (dynsecWaitEventTimeout env.wait (some ev)) := by
  cases hs with
  | out => simp [HookResult.out] at h
  | enqueue =>
    rcases mem_allocAnd env _ _ _ _ _ h with ⟨_, -, h⟩ | h
    · cases h
    · obtain ⟨_, -, h | h⟩ := fillAndEnqueue_trace_mem h <;> cases h
  | report eventType hookType reportFlags tid mode lowPri guard =>
    rcases mem_allocAnd env _ _ _ _ _ h with ⟨_, -, h⟩ | h
    · cases h
    · obtain ⟨e, he, h | h | ⟨-, hstall, hret, h | h⟩⟩ := fillAndReport_trace_mem h
      · cases h
      · cases h
      · cases h
        obtain ⟨-, rfl⟩ := (allocDynsecEvent_eq_some env _ _ _ _).mp he
        exact ⟨rfl, hstall, (guard hstall).1, (guard hstall).2, by simp only [allocAnd_ret, hret]⟩
      · rcases dynsecWaitEventTimeout_trace_mem _ _ h with h | h | h | ⟨_, h⟩ | h <;> cases h

theorem fillAndReport_ret_eq (o : Option DynsecEvent) (lowPri : Bool) :
    (fillAndReport env o lowPri).ret = 0 ∨ ∃ ev, Effect.waitEvent ev ∈ (fillAndReport env o lowPri).trace ∧
      (fillAndReport env o lowPri).ret = stallRet (dynsecWaitEventTimeout env.wait (some ev)) := by
  unfold fillAndReport
  split
  · exact .inl rfl
  · dsimp only
    split_ifs
    · exact .inl rfl
    · exact .inr ⟨_, List.mem_cons_self _ _, rfl⟩
    · exact .inl rfl

/-- A result returns `0`, or it stalled and returns what the stall decided. -/
theorem Shape.ret_eq (hs : Shape env mayStall r) :
    r.ret = 0 ∨ ∃ ev, Effect.waitEvent ev ∈ r.trace ∧
      r.ret = stallRet (dynsecWaitEventTimeout env.wait (some ev)) := by
  cases hs with
  | out => exact .inl rfl
  | enqueue =>
    left
    rw [allocAnd_ret]
    unfold fillAndEnqueue
    split
    · rfl
    · split_ifs <;> rfl
  | report _ _ _ _ _ lowPri =>
    rcases fillAndReport_ret_eq (allocDynsecEvent env _ _ _ _) lowPri with h | ⟨ev, hm, h⟩
    · exact .inl (by rw [allocAnd_ret, h])
    · exact .inr ⟨ev, by rw [allocAnd_trace]; exact List.mem_append_right _ hm,
        by rw [allocAnd_ret, h]⟩

/-- What a hook returns after stalling is `0` or `-EPERM`: the errors of
`dynsec_wait_event_timeout` are not passed on. -/
theorem stallRet_eq (w : StallResult) (hw : w.response = 0 ∨ w.response = -ePerm) :
    stallRet w = 0 ∨ stallRet w = -ePerm := by
  unfold stallRet
  split_ifs
  · exact hw
  · exact .inl rfl

/-! ## Ownership -/

/-- The event is disposed of exactly once, or a queue rejected it and it is
disposed of not at all. -/
def DisposedOrRejected (ev : DynsecEvent) (trace : List Effect) : Prop :=
  disposals ev trace = 1 ∨ (disposals ev trace = 0 ∧ ∃ lowPri, Effect.enqueue ev lowPri 0 ∈ trace)

theorem DisposedOrRejected.alloc_cons {ev e : DynsecEvent} {m : Gfp} {t : List Effect}
    (h : DisposedOrRejected ev t) : DisposedOrRejected ev (.alloc e m :: t) := by
  simpa [DisposedOrRejected, disposals, List.countP_cons, Effect.disposes] using h

theorem enqueue_disposedOrRejected (ev : DynsecEvent) (lowPri : Bool) (size : Nat) :
    DisposedOrRejected ev [.enqueue ev lowPri size] := by
  by_cases h0 : size = 0
  · subst h0; exact .inr ⟨by simp [disposals, Effect.disposes], lowPri, List.mem_singleton_self _⟩
  · exact .inl (by simp [disposals, Effect.disposes, h0])

theorem fillAndEnqueue_disposedOrRejected (env : HookEnv) (ev : DynsecEvent) (lowPri : Bool) :
    DisposedOrRejected ev (fillAndEnqueue env (some ev) lowPri).trace := by
  unfold fillAndEnqueue
  split_ifs
  · exact .inl (by simp [disposals, Effect.disposes])
  · exact enqueue_disposedOrRejected ev lowPri env.enqueueSize

theorem fillAndReport_disposedOrRejected (env : HookEnv) (ev : DynsecEvent) (lowPri : Bool) :
    DisposedOrRejected ev (fillAndReport env (some ev) lowPri).trace := by
  unfold fillAndReport
  dsimp only
  split_ifs
  · exact .inl (by simp [disposals, Effect.disposes])
  · exact .inl (by simpa [disposals, Effect.disposes] using
      disposals_dynsecWaitEventTimeout env.wait ev)
  · exact enqueue_disposedOrRejected ev lowPri env.enqueueSize

/-- Every event a result allocates is disposed of once, or rejected by a queue. -/
theorem Shape.disposedOrRejected (hs : Shape env mayStall r) {ev : DynsecEvent} {m : Gfp}
    (h : Effect.alloc ev m ∈ r.trace) : DisposedOrRejected ev r.trace := by
  cases hs with
  | out => simp [HookResult.out] at h
  | enqueue _ eventType hookType reportFlags tid mode lowPri =>
    exact allocAnd_of_alloc_mem env _ _ _ _ _ (fillAndEnqueue_disposedOrRejected env · lowPri)
      (fun _ _ => DisposedOrRejected.alloc_cons) (alloc_not_mem_fillAndEnqueue · lowPri) h
  | report eventType hookType reportFlags tid mode lowPri =>
    exact allocAnd_of_alloc_mem env _ _ _ _ _ (fillAndReport_disposedOrRejected env · lowPri)
      (fun _ _ => DisposedOrRejected.alloc_cons) (alloc_not_mem_fillAndReport · lowPri) h

end Shapes

/-! ## The hooks -/

/-- **Ownership.**  Every event a hook allocates is freed, accepted by a queue,
or published by `stall_tbl_insert` exactly once, unless a queue rejected it. -/
theorem HookCall.allocated_disposed_or_rejected (env : HookEnv) (c : HookCall) {ev : DynsecEvent} {m : Gfp}
    (h : Effect.alloc ev m ∈ (c.run env).trace) : DisposedOrRejected ev (c.run env).trace :=
  (HookCall.shape env c).disposedOrRejected h

/-- The agent's own exec, whose event the queue accepts: disposed of once. -/
theorem HookCall.allocated_disposed_or_rejected_accepted :
    let env : HookEnv := ⟨dynsecHookTypeExec, true, fun _ => true, ⟨100, 100, false⟩, true, true, 1,
      ⟨true, false, none, false, 1000, fun _ => ⟨true, true, false, .timedOut, 1000⟩⟩, {}⟩
    let ev : DynsecEvent := ⟨.exec, dynsecHookTypeExec, dynsecReportAudit ||| dynsecReportSelf, 100⟩
    let c := HookCall.bprmSetCreds (some ⟨some ⟨0, none⟩⟩)
    Effect.alloc ev .kernel ∈ (c.run env).trace ∧ DisposedOrRejected ev (c.run env).trace := by
  intro env ev c
  have h : Effect.alloc ev .kernel ∈ (c.run env).trace := by decide
  exact ⟨h, HookCall.allocated_disposed_or_rejected env c h⟩

/-- The agent's own exec, whose event the queue rejects: allocated, enqueued,
never freed. -/
theorem bprm_set_creds_leaks_rejected_event :
    let env : HookEnv := ⟨dynsecHookTypeExec, true, fun _ => true, ⟨100, 100, false⟩, true, true, 0,
      ⟨true, false, none, false, 1000, fun _ => ⟨true, true, false, .timedOut, 1000⟩⟩, {}⟩
    let ev : DynsecEvent := ⟨.exec, dynsecHookTypeExec, dynsecReportAudit ||| dynsecReportSelf, 100⟩
    (HookCall.bprmSetCreds (some ⟨some ⟨0, none⟩⟩)).run env =
        ⟨0, [.alloc ev .kernel, .enqueue ev false 0]⟩ ∧
      disposals ev [.alloc ev .kernel, .enqueue ev false 0] = 0 := by
  decide

/-- **The stall guard.**  A hook calls `dynsec_wait_event_timeout` only on an
event with `STALL` and without `SELF`, never for a task of the agent, and never
from a hook that only audits. -/
theorem hook_stalls_only_stall_without_self (env : HookEnv) (c : HookCall) (ev : DynsecEvent)
    (h : Effect.waitEvent ev ∈ (c.run env).trace) :
    HasFlag ev.reportFlags dynsecReportStall ∧ ¬ HasFlag ev.reportFlags dynsecReportSelf ∧
      env.taskInConnectedTgid env.current = false ∧ c.auditOnly = false := by
  obtain ⟨hs, h1, h2, h3, -⟩ := (HookCall.shape env c).waitEvent h
  exact ⟨h1, h2, h3, by simpa using hs⟩

/-- An exec from a task outside the agent stalls. -/
theorem hook_stalls_only_stall_without_self_exec :
    let env : HookEnv := ⟨dynsecHookTypeExec, true, fun _ => false, ⟨100, 100, false⟩, true, true, 1,
      ⟨true, false, none, true, 1000, fun _ => ⟨true, true, false, .timedOut, 1000⟩⟩, {}⟩
    let ev : DynsecEvent := ⟨.exec, dynsecHookTypeExec, dynsecReportAudit ||| dynsecReportStall, 100⟩
    let c := HookCall.bprmSetCreds (some ⟨some ⟨0, none⟩⟩)
    Effect.waitEvent ev ∈ (c.run env).trace ∧
      HasFlag ev.reportFlags dynsecReportStall ∧ ¬ HasFlag ev.reportFlags dynsecReportSelf ∧
      env.taskInConnectedTgid env.current = false ∧ c.auditOnly = false := by
  intro env ev c
  have h : Effect.waitEvent ev ∈ (c.run env).trace := by decide
  exact ⟨h, hook_stalls_only_stall_without_self env c ev h⟩

/-- **A hook denies only by stalling.**  Every hook of `part_000` returns `0` or
`-EPERM`, whatever `dynsec_wait_event_timeout` returns, and `-EPERM` only after
stalling on an event: never from a hook that only audits, and never for a task
of the agent. -/
theorem HookCall.run_ret_eq (env : HookEnv) (c : HookCall) :
    (c.run env).ret = 0 ∨ ((c.run env).ret = -ePerm ∧ c.auditOnly = false ∧
      env.taskInConnectedTgid env.current = false ∧ ∃ ev, Effect.waitEvent ev ∈ (c.run env).trace) := by
  rcases (HookCall.shape env c).ret_eq with h | ⟨ev, hm, hret⟩
  · exact .inl h
  obtain ⟨hs, -, -, hself, -⟩ := (HookCall.shape env c).waitEvent hm
  rcases stallRet_eq _ (dynsecWaitEventTimeout_response_eq env.wait ev) with h0 | hp
  · exact .inl (hret.trans h0)
  · exact .inr ⟨hret.trans hp, by simpa using hs, hself, ev, hm⟩

/-! ## Sleeping -/

/-- Every event the result stalls on, and so sleeps on, was allocated in the
same call with `GFP_KERNEL`, the mode of a caller that may sleep. -/
def StallsOnKernelAlloc (r : HookResult) : Prop :=
  ∀ ev, Effect.waitEvent ev ∈ r.trace → Effect.alloc ev .kernel ∈ r.trace

section Sleeping

variable {env : HookEnv}

theorem StallsOnKernelAlloc.out : StallsOnKernelAlloc .out := fun _ h => by cases h

theorem StallsOnKernelAlloc.ite {c : Prop} [Decidable c] {x y : HookResult}
    (hx : StallsOnKernelAlloc x) (hy : StallsOnKernelAlloc y) :
    StallsOnKernelAlloc (if c then x else y) := by
  split <;> assumption

/-- The stalling tail behind a `GFP_KERNEL` allocation. -/
theorem StallsOnKernelAlloc.report (eventType : DynsecEventType) (hookType : UInt32)
    (reportFlags : UInt16) (tid : Nat) (lowPri : Bool) :
    StallsOnKernelAlloc (allocAnd env eventType hookType reportFlags tid .kernel
      fun ev => fillAndReport env ev lowPri) := fun ev h => by
  rcases mem_allocAnd env _ _ _ _ _ h with ⟨_, -, h⟩ | h
  · cases h
  obtain ⟨e, he, h | h | ⟨-, -, -, h | h⟩⟩ := fillAndReport_trace_mem h
  · cases h
  · cases h
  · cases h
    rw [allocAnd_trace, he]
    exact List.mem_append_left _ (List.mem_singleton_self _)
  · rcases dynsecWaitEventTimeout_trace_mem _ _ h with h | h | h | ⟨_, h⟩ | h <;> cases h

theorem mmapReport_stallsOnKernelAlloc (reportFlags : UInt16) (lowPri : Bool) :
    StallsOnKernelAlloc (mmapReport env reportFlags lowPri) :=
  .report _ _ _ _ _

end Sleeping

/-- **A hook sleeps only where it may.**  Every event a hook of `part_000`
stalls on was allocated in the same call with `GFP_KERNEL`: the hooks that
allocate with `GFP_ATOMIC` never stall. -/
theorem HookCall.stalls_on_kernel_alloc (env : HookEnv) (c : HookCall) {ev : DynsecEvent}
    (h : Effect.waitEvent ev ∈ (c.run env).trace) : Effect.alloc ev .kernel ∈ (c.run env).trace := by
  have hs := ((HookCall.shape env c).waitEvent h).1
  cases c <;> cases hs
  case fileOpen file =>
    exact (StallsOnKernelAlloc.ite .out <|
      .ite (.ite .out (.report _ _ _ _ _)) .out) ev h
  case mmapFile file prot flags =>
    exact (StallsOnKernelAlloc.ite .out <| .ite .out <|
      .ite (.ite (mmapReport_stallsOnKernelAlloc _ _) <|
          .ite (mmapReport_stallsOnKernelAlloc _ _) (mmapReport_stallsOnKernelAlloc _ _)) <|
        .ite (mmapReport_stallsOnKernelAlloc _ _) <|
          .ite .out (mmapReport_stallsOnKernelAlloc _ _)) ev h
  all_goals exact (StallsOnKernelAlloc.ite .out <| .ite .out <| .ite .out <|
    .report _ _ _ _ _) ev h

/-- An exec from a task outside the agent stalls on the event it allocated with
`GFP_KERNEL`. -/
theorem HookCall.stalls_on_kernel_alloc_exec :
    let env : HookEnv := ⟨dynsecHookTypeExec, true, fun _ => false, ⟨100, 100, false⟩, true, true, 1,
      ⟨true, false, none, true, 1000, fun _ => ⟨true, true, false, .timedOut, 1000⟩⟩, {}⟩
    let ev : DynsecEvent := ⟨.exec, dynsecHookTypeExec, dynsecReportAudit ||| dynsecReportStall, 100⟩
    let c := HookCall.bprmSetCreds (some ⟨some ⟨0, none⟩⟩)
    Effect.waitEvent ev ∈ (c.run env).trace ∧ Effect.alloc ev .kernel ∈ (c.run env).trace := by
  intro env ev c
  have h : Effect.waitEvent ev ∈ (c.run env).trace := by decide
  exact ⟨h, HookCall.stalls_on_kernel_alloc env c h⟩

/-! ## Disabled hooks -/

/-- **`dynsec_mmap_file` ignores `lsm_hooks_enabled`.**  With every bit clear, a
task outside the agent mapping anonymous executable memory still has an event
allocated and enqueued. -/
theorem dynsecMmapFile_ignores_hook_mask :
    let env : HookEnv := ⟨0, true, fun _ => false, ⟨100, 100, false⟩, true, true, 1,
      ⟨true, false, none, false, 1000, fun _ => ⟨true, true, false, .timedOut, 1000⟩⟩, {}⟩
    let ev : DynsecEvent := ⟨.mmap, dynsecHookTypeMmap, dynsecReportAudit, 100⟩
    hookDisabled env dynsecHookTypeMmap ∧
      (HookCall.mmapFile none protExec 0).run env = ⟨0, [.alloc ev .kernel, .enqueue ev true 1]⟩ := by
  decide

/-! ## The setattr filter -/

/-- Clearing a bit that is not set changes nothing. -/
theorem UInt32.and_not_of_and_eq_zero {m b : UInt32} (h : m &&& b = 0) : m &&& ~~~b = m := by
  apply UInt32.eq_of_toBitVec_eq
  have h' : m.toBitVec &&& b.toBitVec = 0#32 := UInt32.toBitVec_eq_of_eq h
  show m.toBitVec &&& ~~~b.toBitVec = m.toBitVec
  ext i
  have hi := congrArg (BitVec.getLsbD · i.val) h'
  simp only [BitVec.getLsbD_and, BitVec.getLsbD_zero] at hi
  simp only [BitVec.getLsbD_and, BitVec.getLsbD_not, i.isLt, decide_True, Bool.true_and]
  cases hm : m.toBitVec.getLsbD i.val <;> simp_all

theorem UInt32.and_assoc (a b c : UInt32) : a &&& b &&& c = a &&& (b &&& c) :=
  UInt32.eq_of_toBitVec_eq (BitVec.and_assoc _ _ _)

/-- One step of the filter, "if the bit is set and the field is unchanged, clear
the bit", is "clear the bit if the field is unchanged". -/
theorem clear_if_set (m b : UInt32) (p : Prop) [Decidable p] :
    (if m &&& b ≠ 0 ∧ p then m &&& ~~~b else m) = m &&& ~~~(if p then b else 0) := by
  by_cases hp : p
  · by_cases hb : m &&& b = 0
    · simp only [hb, ne_eq, not_true_eq_false, false_and, if_false, hp, if_true]
      exact (UInt32.and_not_of_and_eq_zero hb).symm
    · simp only [hb, hp, ne_eq, not_false_eq_true, and_self, if_true]
  · simp only [hp, and_false, if_false]
    exact (UInt32.and_not_of_and_eq_zero (UInt32.eq_of_toBitVec_eq BitVec.and_zero)).symm

/-- The attributes a `setattr` request really changes: a new mode, owner or
group, and a truncation of a non-empty file to zero. -/
def setattrChanged (inode : Inode) (attr : Iattr) : UInt32 :=
  (if attr.iaMode ≠ inode.iMode then attrMode else 0) |||
    (if attr.iaUid ≠ inode.iUid then attrUid else 0) |||
    (if attr.iaGid ≠ inode.iGid then attrGid else 0) |||
    (if attr.iaSize = 0 ∧ inode.iSize ≠ 0 then attrSize else 0)

/-- The four bits the filter starts from, less those whose field is unchanged. -/
theorem setattr_bits : ∀ a b c e : Bool,
    (attrMode ||| attrUid ||| attrGid ||| attrSize) &&& (~~~(if a then attrMode else 0) &&&
      (~~~(if b then attrUid else 0) &&& (~~~(if c then attrGid else 0) &&&
        ~~~(if e then attrSize else 0)))) =
    (if !a then attrMode else 0) ||| (if !b then attrUid else 0) ||| (if !c then attrGid else 0) |||
      (if !e then attrSize else 0) := by
  decide

/-- **The setattr filter reports exactly the real changes.**  The mask
`dynsec_inode_setattr` computes, and hands to the filler, is `ia_valid`
restricted to the attributes the request really changes: mode, owner and group
when they differ, and the size only for a truncation of a non-empty file to
zero.  No other bit survives. -/
theorem setattrMask_eq (inode : Inode) (attr : Iattr) :
    setattrMask inode attr = attr.iaValid &&& setattrChanged inode attr := by
  have hs : (attr.iaSize = 0 ∧ inode.iSize ≠ 0) ↔
      ¬(attr.iaSize ≠ 0 ∨ attr.iaSize = inode.iSize) := by
    omega
  simp only [setattrMask, clear_if_set]
  simp only [setattrChanged, UInt32.and_assoc, hs]
  congr 1
  simpa using setattr_bits (decide (attr.iaMode = inode.iMode)) (decide (attr.iaUid = inode.iUid))
    (decide (attr.iaGid = inode.iGid)) (decide (attr.iaSize ≠ 0 ∨ attr.iaSize = inode.iSize))

/-! ## The mmap policy -/

/-- When `dynsec_mmap_file` stalls, in words: a mapping made for an exec (the
task is in `execve`, or the file is open for exec) stalls when
`mmap_stall_on_ldso` is set, or when `mmap_stall_on_exec` is set and the
mapping is `MAP_EXECUTABLE`; any other mapping stalls when `mmap_stall_misc` is
set. -/
def mmapStallPolicy (env : HookEnv) (file : Option File) (flags : UInt64) : Bool :=
  if env.current.inExecve || file.any (fun f => f.fMode &&& fmodeExec == fmodeExec) then
    env.mmap.mmapStallOnLdso || (env.mmap.mmapStallOnExec && flags &&& mapExecutable != 0)
  else env.mmap.mmapStallMisc

section Mmap

variable {env : HookEnv}

theorem mmapReport_waitEvent_iff (halloc : env.allocOk = true) (hfill : env.fillOk = true)
    (reportFlags : UInt16) (lowPri : Bool) :
    (∃ ev, Effect.waitEvent ev ∈ (mmapReport env reportFlags lowPri).trace) ↔
      HasFlag (noStallOnSelf env reportFlags) dynsecReportStall := by
  simp only [mmapReport, allocAnd, allocDynsecEvent, halloc, if_true, fillAndReport, hfill,
    Bool.not_true, Bool.false_eq_true, if_false]
  split_ifs with h <;> simp [h]

theorem hasFlag_noStallOnSelf_auditStall :
    HasFlag (noStallOnSelf env (dynsecReportAudit ||| dynsecReportStall)) dynsecReportStall ↔
      env.taskInConnectedTgid env.current = false := by
  unfold noStallOnSelf
  split_ifs with h <;>
    simp only [h, Bool.true_eq_false, iff_false, Bool.not_eq_false, iff_true] <;> decide

theorem not_hasFlag_noStallOnSelf_audit :
    ¬ HasFlag (noStallOnSelf env dynsecReportAudit) dynsecReportStall := by
  unfold noStallOnSelf
  split_ifs <;> decide

/-- The hook's `exec_flags` keeps `MAP_EXECUTABLE` as it is. -/
theorem execFlags_executable (flags : UInt64) :
    flags &&& (mapDenywrite ||| mapExecutable) &&& mapExecutable = flags &&& mapExecutable :=
  UInt64.eq_of_toBitVec_eq ((BitVec.and_assoc _ _ _).trans (congrArg _ (by decide)))

/-- **`dynsec_mmap_file` stalls exactly as its policy says.**  On kernels from
4.0 on (the model's build), when allocation and filling succeed, the hook stalls on an executable mapping exactly when the
stall table is enabled, the task is outside the agent, and `mmapStallPolicy`
holds.  With the default parameters (`mmap_stall_on_exec` and
`mmap_stall_on_ldso` both set) every mapping made for an exec stalls, whether
or not it is `MAP_EXECUTABLE`. -/
theorem dynsecMmapFile_stalls_iff (env : HookEnv) (file : Option File) (prot flags : UInt64)
    (halloc : env.allocOk = true) (hfill : env.fillOk = true) :
    (∃ ev, Effect.waitEvent ev ∈ (dynsecMmapFile env file prot flags).trace) ↔
      prot &&& protExec ≠ 0 ∧ env.stallTblEnabled = true ∧
        env.taskInConnectedTgid env.current = false ∧ mmapStallPolicy env file flags = true := by
  have hout : ¬∃ ev, Effect.waitEvent ev ∈ HookResult.out.trace := fun ⟨_, h⟩ => by cases h
  unfold dynsecMmapFile
  by_cases hp : prot &&& protExec = 0
  · rw [if_pos hp]
    exact iff_of_false hout fun h => h.1 hp
  by_cases ht : env.stallTblEnabled = true
  swap
  · rw [if_neg hp, if_pos (by simpa using ht)]
    exact iff_of_false hout fun h => ht h.2.1
  simp only [if_neg hp, hp, ht, Bool.not_true, Bool.false_eq_true, if_false, ne_eq,
    not_false_eq_true, true_and, execFlags_executable, mmapStallPolicy]
  by_cases hx : (env.current.inExecve ||
      file.any fun f => f.fMode &&& fmodeExec == fmodeExec) = true
  · simp only [if_pos hx]
    by_cases hexec : env.mmap.mmapStallOnExec = true ∧ flags &&& mapExecutable ≠ 0
    · rw [if_pos hexec, mmapReport_waitEvent_iff halloc hfill, hasFlag_noStallOnSelf_auditStall]
      simp [hexec]
    by_cases hldso : env.mmap.mmapStallOnLdso = true
    · rw [if_neg hexec, if_pos hldso, mmapReport_waitEvent_iff halloc hfill,
        hasFlag_noStallOnSelf_auditStall]
      simp [hldso]
    · rw [if_neg hexec, if_neg hldso, mmapReport_waitEvent_iff halloc hfill]
      exact iff_of_false not_hasFlag_noStallOnSelf_audit fun h => hexec (by simpa [hldso] using h.2)
  · simp only [if_neg hx]
    by_cases hmisc : env.mmap.mmapStallMisc = true
    · rw [if_pos hmisc, mmapReport_waitEvent_iff halloc hfill, hasFlag_noStallOnSelf_auditStall]
      simp [hmisc]
    · have hno : ¬(env.taskInConnectedTgid env.current = false ∧ env.mmap.mmapStallMisc = true) :=
        fun h => hmisc h.2
      rw [if_neg hmisc]
      split
      · exact iff_of_false hout hno
      · rw [mmapReport_waitEvent_iff halloc hfill]
        exact iff_of_false not_hasFlag_noStallOnSelf_audit hno

end Mmap

/-- The dynamic loader mapped during an exec, without `MAP_EXECUTABLE`, under
the default parameters: it stalls. -/
theorem dynsecMmapFile_stalls_iff_ldso :
    let env : HookEnv := ⟨0, true, fun _ => false, ⟨100, 100, true⟩, true, true, 1,
      ⟨true, false, none, false, 1000, fun _ => ⟨true, true, false, .timedOut, 1000⟩⟩, {}⟩
    env.allocOk = true ∧ env.fillOk = true ∧
      ((∃ ev, Effect.waitEvent ev ∈ (dynsecMmapFile env none protExec 0).trace) ↔
        protExec &&& protExec ≠ 0 ∧ env.stallTblEnabled = true ∧
          env.taskInConnectedTgid env.current = false ∧ mmapStallPolicy env none 0 = true) :=
  ⟨rfl, rfl, dynsecMmapFile_stalls_iff _ none protExec 0 rfl rfl⟩

/-! ## The open hook -/

/-- Every event `dynsec_file_open` allocates carries `STALL`, or `SELF` for a
task of the agent, and never `AUDIT`. -/
theorem dynsecFileOpen_alloc_flags (env : HookEnv) (file : File) {ev : DynsecEvent} {gfp : Gfp}
    (h : Effect.alloc ev gfp ∈ (dynsecFileOpen env file).trace) :
    ev.reportFlags = noStallOnSelf env dynsecReportStall := by
  unfold dynsecFileOpen at h
  dsimp only at h
  split_ifs at h <;> try simp only [HookResult.out, List.not_mem_nil] at h
  rcases mem_allocAnd env _ _ _ _ _ h with ⟨e, he, hx⟩ | hx
  · cases hx
    exact ((allocDynsecEvent_eq_some env _ _ _ _).mp he).2 ▸ rfl
  · exact absurd hx (alloc_not_mem_fillAndReport _ _ _ _)

/-- **The open hook's filter is a dead store.**  `dynsec_file_open` assigns
`report_flags = DYNSEC_REPORT_STALL` after its `FMODE_STREAM` and
`FMODE_NONOTIFY` tests, so what it does never depends on `f_mode`, no event it
allocates carries `AUDIT`, and a task outside the agent opening a regular file
stalls on it whatever the file's mode, no-notify read-only opens included.
(`FMODE_STREAM` is set by `stream_open` after the open hook has run, so of the
two tests only the no-notify one can ever see its bit.) -/
theorem dynsecFileOpen_ignores_fmode (env : HookEnv) (file : File) :
    (∀ m, dynsecFileOpen env { file with fMode := m } = dynsecFileOpen env file) ∧
      (∀ ev gfp, Effect.alloc ev gfp ∈ (dynsecFileOpen env file).trace →
        ¬ HasFlag ev.reportFlags dynsecReportAudit) ∧
      (¬ hookDisabled env dynsecHookTypeOpen → env.stallTblEnabled = true →
        env.taskInConnectedTgid env.current = false → env.allocOk = true → env.fillOk = true →
        isRegularFile file = true →
        Effect.waitEvent ⟨.open, dynsecHookTypeOpen, dynsecReportStall, env.current.pid⟩ ∈
          (dynsecFileOpen env file).trace) := by
  refine ⟨fun _ => rfl, fun ev gfp h => ?_, fun hen htbl hself halloc hfill hreg => ?_⟩
  · rw [dynsecFileOpen_alloc_flags env file h, noStallOnSelf]
    split_ifs <;> decide
  · have hstall : HasFlag dynsecReportStall dynsecReportStall := by decide
    simp [dynsecFileOpen, hen, htbl, hself, halloc, hfill, hreg, allocAnd, allocDynsecEvent,
      fillAndReport, noStallOnSelf, hstall]

/-- A task outside the agent opens a regular file read-only with
`FMODE_NONOTIFY`, which the close hook would not report: the open hook stalls on
it all the same. -/
theorem dynsecFileOpen_ignores_fmode_nonotify :
    let env : HookEnv := ⟨dynsecHookTypeOpen, true, fun _ => false, ⟨100, 100, false⟩, true, true,
      1, ⟨true, false, none, false, 1000, fun _ => ⟨true, true, false, .timedOut, 1000⟩⟩, {}⟩
    let file : File := ⟨fmodeNonotify, some ⟨some ⟨sIfreg, 0, 0, 0⟩⟩⟩
    closeInteresting file = false ∧
      Effect.waitEvent ⟨.open, dynsecHookTypeOpen, dynsecReportStall, 100⟩ ∈
        (dynsecFileOpen env file).trace := by
  intro env file
  exact ⟨by decide, (dynsecFileOpen_ignores_fmode env file).2.2 (by decide) rfl rfl rfl rfl rfl⟩

/-! ## Ignore mode -/

/-- The environment with `ignore_mode` switched to `b`. -/
def HookEnv.withIgnoreMode (env : HookEnv) (b : Bool) : HookEnv :=
  { env with wait := { env.wait with ignoreMode := b } }

section IgnoreMode

variable (env : HookEnv) (b : Bool)

/-- `dynsec_wait_event_timeout` reads `ignore_mode` only for an event flagged
`IGNORE`. -/
theorem fillAndReport_withIgnoreMode (ev : DynsecEvent)
    (h : ¬ HasFlag ev.reportFlags dynsecReportIgnore) (lowPri : Bool) :
    fillAndReport (env.withIgnoreMode b) (some ev) lowPri = fillAndReport env (some ev) lowPri := by
  have hw : dynsecWaitEventTimeout (env.withIgnoreMode b).wait (some ev) =
      dynsecWaitEventTimeout env.wait (some ev) := by
    simp only [dynsecWaitEventTimeout, h, false_and, if_false]
    rfl
  simp only [fillAndReport, hw]
  rfl

/-- The stalling tail behind an allocation without `IGNORE` reads no
`ignore_mode`. -/
theorem allocAnd_report_withIgnoreMode (eventType : DynsecEventType) (hookType : UInt32)
    {reportFlags : UInt16} (h : ¬ HasFlag reportFlags dynsecReportIgnore) (tid : Nat)
    (mode : Gfp) (lowPri : Bool) :
    allocAnd (env.withIgnoreMode b) eventType hookType reportFlags tid mode
        (fun ev => fillAndReport (env.withIgnoreMode b) ev lowPri) =
      allocAnd env eventType hookType reportFlags tid mode fun ev => fillAndReport env ev lowPri := by
  show allocAnd env eventType hookType reportFlags tid mode
    (fun ev => fillAndReport (env.withIgnoreMode b) ev lowPri) = _
  unfold allocAnd
  split
  · rfl
  · next ev hev =>
    obtain ⟨-, rfl⟩ := (allocDynsecEvent_eq_some env _ _ _ _).mp hev
    simp only [fillAndReport_withIgnoreMode env b ⟨eventType, hookType, reportFlags, tid⟩ h]

theorem not_hasFlag_ignore_selfOrStall : ¬ HasFlag (selfOrStall env) dynsecReportIgnore := by
  unfold selfOrStall
  split_ifs <;> decide

theorem not_hasFlag_ignore_noStallOnSelf {reportFlags : UInt16}
    (h : reportFlags = dynsecReportStall ∨ reportFlags = dynsecReportAudit ∨
      reportFlags = dynsecReportAudit ||| dynsecReportStall) :
    ¬ HasFlag (noStallOnSelf env reportFlags) dynsecReportIgnore := by
  unfold noStallOnSelf
  rcases h with rfl | rfl | rfl <;> split_ifs <;> decide

theorem lsmStallHook_withIgnoreMode (hookType : UInt32) (eventType : DynsecEventType)
    (interesting : Bool) :
    lsmStallHook (env.withIgnoreMode b) hookType eventType interesting =
      lsmStallHook env hookType eventType interesting := by
  unfold lsmStallHook
  rw [allocAnd_report_withIgnoreMode _ _ _ _ (not_hasFlag_ignore_selfOrStall _)]
  rfl

theorem dynsecFileOpen_withIgnoreMode (file : File) :
    dynsecFileOpen (env.withIgnoreMode b) file = dynsecFileOpen env file := by
  unfold dynsecFileOpen
  dsimp only
  rw [allocAnd_report_withIgnoreMode _ _ _ _ (not_hasFlag_ignore_noStallOnSelf _ (.inl rfl))]
  rfl

theorem mmapReport_withIgnoreMode {reportFlags : UInt16}
    (h : reportFlags = dynsecReportAudit ∨ reportFlags = dynsecReportAudit ||| dynsecReportStall)
    (lowPri : Bool) :
    mmapReport (env.withIgnoreMode b) reportFlags lowPri = mmapReport env reportFlags lowPri := by
  unfold mmapReport
  rw [allocAnd_report_withIgnoreMode _ _ _ _ (not_hasFlag_ignore_noStallOnSelf _ (.inr h))]
  rfl

theorem dynsecMmapFile_withIgnoreMode (file : Option File) (prot flags : UInt64) :
    dynsecMmapFile (env.withIgnoreMode b) file prot flags = dynsecMmapFile env file prot flags := by
  unfold dynsecMmapFile
  rw [mmapReport_withIgnoreMode _ _ (.inl rfl), mmapReport_withIgnoreMode _ _ (.inr rfl),
    mmapReport_withIgnoreMode _ _ (.inl rfl), mmapReport_withIgnoreMode _ _ (.inr rfl)]
  rfl

end IgnoreMode

/-- **Ignore mode is dead code for the hooks.**  No hook of `part_000` sets
`DYNSEC_REPORT_IGNORE` on the event it allocates, so the test of
`ignore_mode_enabled()` in `dynsec_wait_event_timeout` never succeeds for them:
what every hook does and returns is the same with `ignore_mode` on and off. -/
theorem HookCall.run_withIgnoreMode (env : HookEnv) (c : HookCall) (b : Bool) :
    c.run (env.withIgnoreMode b) = c.run env := by
  cases c
  case fileOpen file => exact dynsecFileOpen_withIgnoreMode env b file
  case mmapFile file prot flags => exact dynsecMmapFile_withIgnoreMode env b file prot flags
  case bprmSetCreds | inodeUnlink | inodeRmdir | inodeRename | inodeSetattr | inodeMkdir |
      inodeCreate | inodeLink | inodeSymlink => exact lsmStallHook_withIgnoreMode _ _ _ _ _
  all_goals rfl

end Dynsec
