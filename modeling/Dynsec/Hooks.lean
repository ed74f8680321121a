import Dynsec.Stall

/-!
# The hooks of `part_000`

Every hook follows one skeleton: test whether its hook type is enabled, drop
events that are not interesting, test that the stall table is enabled, choose
the report flags, allocate an event, fill it, and then either stall on it
through `dynsec_wait_event_timeout` or enqueue it.  The model keeps the pieces
of that skeleton as definitions (`allocAnd`, `fillAndReport`,
`fillAndEnqueue`), writes the families of near-identical hooks as one
definition each (`lsmStallHook`, `lsmAuditHook`, `taskAuditHook`), and gives the
hooks that deviate (`dynsecFileOpen`, `dynsecPtraceAccessCheck`,
`dynsecMmapFile`) bodies of their own.

`HookCall` names every hook with its arguments, and `HookCall.shape` says what
shape each result has: no effect at all, or an allocation followed by one of the
two tails, with report flags that stall only when they do not carry `SELF` and
the current task is not the agent's.  The properties of `Dynsec.HookProperties`
are all proved from `shape`, never by unfolding a hook again.

## What the hooks call, and what is modelled from the spec

The outcome of each call a hook makes into code that is not among the sources
is part of the environment `HookEnv`: whether `alloc_dynsec_event` and the
`fill_in_*` filler succeed, what `enqueue_nonstall_event` returns, what
`task_in_connected_tgid` answers, and what `dynsec_wait_event_timeout` observes.
Two modelling choices stand for absent code:

* a filler handed a `NULL` event fails, and `free_dynsec_event(NULL)` does
  nothing, so a hook that does not test the allocation behaves like one that
  does;
* an event records the task it reports on (`tid`), which the fillers write.

The model is the build for kernels from 4.0 on.  Before 4.0 each LSM hook first
calls the security operation that was in place before the module
(`g_original_ops_ptr`) and returns its verdict when that is not `0`; that
chaining is not modelled.  The payload arguments that are only passed on to a
filler are left out.
-/

namespace Dynsec

/-- The module parameters that steer mmap events, with their initial values. -/
structure MmapPolicy where
  mmapReportMisc : Bool := true
  mmapStallMisc : Bool := false
  mmapStallOnExec : Bool := true
  mmapStallOnLdso : Bool := true
  deriving DecidableEq, Repr

/-- Everything a hook observes besides its arguments. -/
structure HookEnv where
  lsmHooksEnabled : UInt32
  stallTblEnabled : Bool
  taskInConnectedTgid : Task → Bool
  current : Task
  allocOk : Bool
  fillOk : Bool
  enqueueSize : Nat
  wait : WaitEnv
  mmap : MmapPolicy

/-- A hook's return value and the calls it made.  A `void` hook returns `0`. -/
structure HookResult where
  ret : Int
  trace : List Effect
  deriving DecidableEq, Repr

/-- The result of a hook that stops before allocating: `goto out`. -/
def HookResult.out : HookResult := ⟨0, []⟩

/-! ## The pieces of the skeleton -/

section Pieces

variable (env : HookEnv)

/-- Modelled from the spec: `alloc_dynsec_event` is not under `src/`.  An event
of the given kind, hook and report flags, or `NULL`. -/
def allocDynsecEvent (eventType : DynsecEventType) (hookType : UInt32) (reportFlags : UInt16)
    (tid : Nat) : Option DynsecEvent :=
  if env.allocOk then some ⟨eventType, hookType, reportFlags, tid⟩ else none

/-- Allocate an event and continue with it, recording the allocation. -/
def allocAnd (eventType : DynsecEventType) (hookType : UInt32) (reportFlags : UInt16)
    (tid : Nat) (mode : Gfp) (k : Option DynsecEvent → HookResult) : HookResult :=
  match allocDynsecEvent env eventType hookType reportFlags tid with
  | none => k none
  | some ev => ⟨(k (some ev)).ret, .alloc ev mode :: (k (some ev)).trace⟩

/-- What a hook returns after stalling: `ret = response` when
`dynsec_wait_event_timeout` returns `0`. -/
def stallRet (w : StallResult) : Int := if w.ret = 0 then w.response else 0

/-- The tail of every stalling hook: fill the event (freeing it if that fails),
then stall on it if its flags say so, else enqueue it, ignoring what the queue
returns.  The hooks call `dynsec_wait_event_timeout(event, &response, 1000,
GFP_KERNEL)`, one argument more than the definition in `hooks.h` takes; the
model follows that definition and drops the `1000`. -/
def fillAndReport (event : Option DynsecEvent) (lowPri : Bool) : HookResult :=
  match event with
  | none => .out
  | some ev =>
    if !env.fillOk then ⟨0, [.free ev]⟩
    else if HasFlag ev.reportFlags dynsecReportStall then
      let w := dynsecWaitEventTimeout env.wait (some ev)
      ⟨stallRet w, .waitEvent ev :: w.trace⟩
    else ⟨0, [.enqueue ev lowPri env.enqueueSize]⟩

/-- The tail of every hook that must not stall: fill, then enqueue. -/
def fillAndEnqueue (event : Option DynsecEvent) (lowPri : Bool) : HookResult :=
  match event with
  | none => .out
  | some ev =>
    if !env.fillOk then ⟨0, [.free ev]⟩
    else ⟨0, [.enqueue ev lowPri env.enqueueSize]⟩

/-- `AUDIT`, and `SELF` if the task belongs to the agent. -/
def selfFlag (t : Task) : UInt16 :=
  if env.taskInConnectedTgid t then dynsecReportAudit ||| dynsecReportSelf else dynsecReportAudit

/-- `AUDIT`, and `SELF` if the current task belongs to the agent, `STALL`
otherwise. -/
def selfOrStall : UInt16 :=
  if env.taskInConnectedTgid env.current then dynsecReportAudit ||| dynsecReportSelf
  else dynsecReportAudit ||| dynsecReportStall

/-- "Don't stall on ourself": `SELF` set and `STALL` cleared when the current
task belongs to the agent. -/
def noStallOnSelf (reportFlags : UInt16) : UInt16 :=
  if env.taskInConnectedTgid env.current then
    (reportFlags ||| dynsecReportSelf) &&& ~~~dynsecReportStall
  else reportFlags

/-- The hook type is disabled in `lsm_hooks_enabled`. -/
def hookDisabled (hookType : UInt32) : Prop := env.lsmHooksEnabled &&& hookType = 0

instance (hookType : UInt32) : Decidable (hookDisabled env hookType) :=
  inferInstanceAs (Decidable (_ = _))

end Pieces

/-! ## Filters -/

/-- The inode of a dentry is a symlink, a regular file or a directory. -/
def reportableInode (d : Dentry) : Bool :=
  match d.dInode with
  | some i => sIsLnk i.iMode || sIsReg i.iMode || sIsDir i.iMode
  | none => false

/-- The file's inode is a regular file. -/
def isRegularFile (f : File) : Bool :=
  match f.dentry with
  | some d => match d.dInode with
    | some i => sIsReg i.iMode
    | none => false
  | none => false

/-- The attribute mask `dynsec_inode_setattr` reports: mode, owner, group and
size changes, less the ones that change nothing, and less a size change that is
not a truncation of a non-empty file. -/
def setattrMask (inode : Inode) (attr : Iattr) : UInt32 :=
  let mask := attr.iaValid &&& (attrMode ||| attrUid ||| attrGid ||| attrSize)
  let mask := if mask &&& attrMode ≠ 0 ∧ attr.iaMode = inode.iMode then mask &&& ~~~attrMode
    else mask
  let mask := if mask &&& attrUid ≠ 0 ∧ attr.iaUid = inode.iUid then mask &&& ~~~attrUid
    else mask
  let mask := if mask &&& attrGid ≠ 0 ∧ attr.iaGid = inode.iGid then mask &&& ~~~attrGid
    else mask
  if mask &&& attrSize ≠ 0 ∧ (attr.iaSize ≠ 0 ∨ attr.iaSize = inode.iSize) then
    mask &&& ~~~attrSize
  else mask

/-- `dynsec_inode_setattr` goes on: dentry, inode and attributes present, and
some field really changes. -/
def setattrInteresting : Option Dentry → Option Iattr → Bool
  | some ⟨some inode⟩, some attr => setattrMask inode attr != 0
  | _, _ => false

/-- The no-notify / stream filter of `dynsec_file_free_security`, with its
regular-file test. -/
def closeInteresting (f : File) : Bool :=
  f.fMode &&& fmodeStream == 0 &&
    !(f.fMode &&& fmodeNonotify != 0 && f.fMode &&& fmodeWrite == 0) &&
    isRegularFile f

/-! ## The hooks -/

section Hooks

variable (env : HookEnv)

/-- The skeleton of the exec and inode hooks: enabled, interesting, table
enabled, `SELF` or `STALL`, allocate with `GFP_KERNEL`, fill, stall or enqueue.
The three tests before allocation read no state the others change, so their
order, which differs between the hooks, does not matter. -/
def lsmStallHook (hookType : UInt32) (eventType : DynsecEventType) (interesting : Bool) :
    HookResult :=
  if hookDisabled env hookType then .out
  else if !interesting then .out
  else if !env.stallTblEnabled then .out
  else allocAnd env eventType hookType (selfOrStall env) env.current.pid .kernel
    fun ev => fillAndReport env ev false

def dynsecBprmSetCreds (bprm : Option LinuxBinprm) : HookResult :=
  lsmStallHook env dynsecHookTypeExec .exec (bprm.any fun b => b.file.isSome)

def dynsecInodeUnlink (dentry : Dentry) : HookResult :=
  lsmStallHook env dynsecHookTypeUnlink .unlink (reportableInode dentry)

def dynsecInodeRmdir (dentry : Dentry) : HookResult :=
  lsmStallHook env dynsecHookTypeRmdir .rmdir (reportableInode dentry)

def dynsecInodeRename (oldDentry : Dentry) : HookResult :=
  lsmStallHook env dynsecHookTypeRename .rename (reportableInode oldDentry)

def dynsecInodeSetattr (dentry : Option Dentry) (attr : Option Iattr) : HookResult :=
  lsmStallHook env dynsecHookTypeSetattr .setattr (setattrInteresting dentry attr)

def dynsecInodeMkdir : HookResult := lsmStallHook env dynsecHookTypeMkdir .mkdir true

def dynsecInodeCreate : HookResult := lsmStallHook env dynsecHookTypeCreate .create true

def dynsecInodeLink : HookResult := lsmStallHook env dynsecHookTypeLink .link true

def dynsecInodeSymlink : HookResult := lsmStallHook env dynsecHookTypeSymlink .symlink true

-- the flags computed by the `STREAM` and `NONOTIFY` tests are a dead store in the source
set_option linter.unusedVariables false in
/-- `dynsec_file_open`.  The `STREAM` and `NONOTIFY` tests clear `STALL`, and
then the regular-file test assigns `report_flags = DYNSEC_REPORT_STALL`,
overwriting both them and `AUDIT`. -/
def dynsecFileOpen (file : File) : HookResult :=
  if hookDisabled env dynsecHookTypeOpen then .out
  else
    let reportFlags := dynsecReportAudit
    let reportFlags := if file.fMode &&& fmodeStream ≠ 0 then
      reportFlags &&& ~~~dynsecReportStall else reportFlags
    let reportFlags := if file.fMode &&& fmodeNonotify ≠ 0 ∧ file.fMode &&& fmodeWrite = 0 then
      reportFlags &&& ~~~dynsecReportStall else reportFlags
    if isRegularFile file then
      let reportFlags := dynsecReportStall
      if !env.stallTblEnabled then .out
      else allocAnd env .open dynsecHookTypeOpen (noStallOnSelf env reportFlags) env.current.pid
        .kernel fun ev => fillAndReport env ev false
    else .out

/-- The skeleton of the hooks that must not stall: enabled, interesting, table
enabled, `SELF` if the agent, allocate with `GFP_ATOMIC`, fill, enqueue. -/
def lsmAuditHook (hookType : UInt32) (eventType : DynsecEventType) (interesting : Bool) :
    HookResult :=
  if hookDisabled env hookType then .out
  else if !interesting then .out
  else if !env.stallTblEnabled then .out
  else allocAnd env eventType hookType (selfFlag env env.current) env.current.pid .atomic
    fun ev => fillAndEnqueue env ev false

/-- `dynsec_file_free_security`, which returns nothing. -/
def dynsecFileFreeSecurity (file : File) : HookResult :=
  lsmAuditHook env dynsecHookTypeClose .close (closeInteresting file)

def dynsecPtraceTraceme : HookResult := lsmAuditHook env dynsecHookTypePtrace .ptrace true

def dynsecTaskKill (sig : Int) : HookResult :=
  lsmAuditHook env dynsecHookTypeSignal .signal (sig != 0)

/-- `dynsec_ptrace_access_check`: only attaches, and not by a task outside the
agent on a task of the agent (the feedback guard). -/
def dynsecPtraceAccessCheck (child : Task) (mode : UInt32) : HookResult :=
  if hookDisabled env dynsecHookTypePtrace then .out
  else if mode &&& ptraceModeAttach = 0 then .out
  else if !env.stallTblEnabled then .out
  else if !env.taskInConnectedTgid env.current && env.taskInConnectedTgid child then .out
  else allocAnd env .ptrace dynsecHookTypePtrace (selfFlag env env.current) env.current.pid
    .atomic fun ev => fillAndEnqueue env ev false

/-- The skeleton of the process hooks: a process (not a thread), table enabled,
`SELF` as the caller decides, allocate, fill, enqueue at the given priority. -/
def taskAuditHook (hookType : UInt32) (eventType : DynsecEventType) (task : Option Task)
    (isSelf : Bool) (lowPri : Bool) (mode : Gfp) : HookResult :=
  match task with
  | none => .out
  | some t =>
    if t.tgid ≠ t.pid then .out
    else if !env.stallTblEnabled then .out
    else allocAnd env eventType hookType
      (if isSelf then dynsecReportAudit ||| dynsecReportSelf else dynsecReportAudit) t.pid mode
      fun ev => fillAndEnqueue env ev lowPri

def dynsecSchedProcessForkTp (parent : Task) (child : Option Task) : HookResult :=
  taskAuditHook env dynsecTpHookTypeClone .clone child (env.taskInConnectedTgid parent) false .atomic

/-- `__dynsec_task_exit`: no `SELF` test; the common exit event goes to the
low-priority queue, every other exit hook to the normal one. -/
def dynsecTaskExit (task : Option Task) (exitHookType : UInt32) (mode : Gfp) : HookResult :=
  taskAuditHook env exitHookType .exit task false (exitHookType == dynsecTpHookTypeExit) mode

def dynsecTaskFree (task : Option Task) : HookResult :=
  dynsecTaskExit env task dynsecHookTypeTaskFree .atomic

def dynsecSchedProcessExitTp (task : Option Task) : HookResult :=
  dynsecTaskExit env task dynsecTpHookTypeExit .atomic

def dynsecSchedProcessFreeTp (task : Option Task) : HookResult :=
  dynsecTaskExit env task dynsecTpHookTypeTaskFree .atomic

/-- The kprobe on `wake_up_new_task`: low priority, `SELF` by the real parent,
always returns `0`. -/
def dynsecWakeUpNewTask (p : Option Task) (realParent : Task) : HookResult :=
  taskAuditHook env dynsecTpHookTypeClone .clone p (env.taskInConnectedTgid realParent) true
    .atomic

/-- The end of `dynsec_mmap_file`: `SELF` clears `STALL`, then allocate with
`GFP_KERNEL`, fill, and stall or enqueue. -/
def mmapReport (reportFlags : UInt16) (lowPri : Bool) : HookResult :=
  allocAnd env .mmap dynsecHookTypeMmap (noStallOnSelf env reportFlags) env.current.pid .kernel
    fun ev => fillAndReport env ev lowPri

/-- `dynsec_mmap_file`.  It has no test of `lsm_hooks_enabled`. -/
def dynsecMmapFile (file : Option File) (prot flags : UInt64) : HookResult :=
  if prot &&& protExec = 0 then .out
  else if !env.stallTblEnabled then .out
  else if env.current.inExecve || file.any (fun f => f.fMode &&& fmodeExec == fmodeExec) then
    let execFlags := flags &&& (mapDenywrite ||| mapExecutable)
    if env.mmap.mmapStallOnExec ∧ execFlags &&& mapExecutable ≠ 0 then
      mmapReport env (dynsecReportAudit ||| dynsecReportStall) false
    else if env.mmap.mmapStallOnLdso then
      mmapReport env (dynsecReportAudit ||| dynsecReportStall) false
    else mmapReport env dynsecReportAudit false
  else if env.mmap.mmapStallMisc then mmapReport env (dynsecReportAudit ||| dynsecReportStall) true
  else if !env.mmap.mmapReportMisc then .out
  else mmapReport env dynsecReportAudit true

end Hooks

/-! ## What the pieces call -/

section Traces

variable (env : HookEnv) (eventType : DynsecEventType) (hookType : UInt32)
  (reportFlags : UInt16) (tid : Nat) (mode : Gfp)

@[simp] theorem allocAnd_ret (k : Option DynsecEvent → HookResult) :
    (allocAnd env eventType hookType reportFlags tid mode k).ret =
      (k (allocDynsecEvent env eventType hookType reportFlags tid)).ret := by
  unfold allocAnd; split <;> simp_all

/-- An allocation in front of the continuation's calls, if there was one. -/
theorem allocAnd_trace (k : Option DynsecEvent → HookResult) :
    (allocAnd env eventType hookType reportFlags tid mode k).trace =
      ((allocDynsecEvent env eventType hookType reportFlags tid).map (.alloc · mode)).toList ++
        (k (allocDynsecEvent env eventType hookType reportFlags tid)).trace := by
  unfold allocAnd; split <;> simp_all

theorem allocDynsecEvent_eq_some {ev : DynsecEvent} :
    allocDynsecEvent env eventType hookType reportFlags tid = some ev ↔
      env.allocOk = true ∧ ev = ⟨eventType, hookType, reportFlags, tid⟩ := by
  unfold allocDynsecEvent
  split_ifs with h
  · simp only [h, Option.some.injEq, true_and]; exact eq_comm
  · simp [h]

/-- A call of `allocAnd` is the allocation of the event `alloc_dynsec_event`
returned, or a call of the continuation. -/
theorem mem_allocAnd {k : Option DynsecEvent → HookResult} {x : Effect}
    (h : x ∈ (allocAnd env eventType hookType reportFlags tid mode k).trace) :
    (∃ ev, allocDynsecEvent env eventType hookType reportFlags tid = some ev ∧
      x = .alloc ev mode) ∨ x ∈ (k (allocDynsecEvent env eventType hookType reportFlags tid)).trace := by
  rw [allocAnd_trace, List.mem_append] at h
  rcases h with h | h
  · simp only [Option.mem_toList, Option.mem_def, Option.map_eq_some'] at h
    obtain ⟨ev, hev, rfl⟩ := h
    exact .inl ⟨ev, hev, rfl⟩
  · exact .inr h

/-- A fact about an event and a trace that the continuation establishes for the
event it is given, and that an allocation in front keeps, holds of every event
`allocAnd` allocates, provided the continuation allocates nothing itself. -/
theorem allocAnd_of_alloc_mem {k : Option DynsecEvent → HookResult}
    {P : DynsecEvent → List Effect → Prop} (hk : ∀ e, P e (k (some e)).trace)
    (hcons : ∀ e t, P e t → P e (.alloc e mode :: t))
    (hna : ∀ o e m, Effect.alloc e m ∉ (k o).trace) {ev : DynsecEvent} {m : Gfp}
    (h : Effect.alloc ev m ∈ (allocAnd env eventType hookType reportFlags tid mode k).trace) :
    P ev (allocAnd env eventType hookType reportFlags tid mode k).trace := by
  rcases mem_allocAnd env _ _ _ _ _ h with ⟨e, he, h⟩ | h
  · cases h
    rw [allocAnd_trace, he]
    exact hcons ev _ (hk ev)
  · exact absurd h (hna _ _ _)

variable {env}

theorem fillAndEnqueue_trace_mem {o : Option DynsecEvent} {lowPri : Bool} {x : Effect}
    (h : x ∈ (fillAndEnqueue env o lowPri).trace) :
    ∃ ev, o = some ev ∧ (x = .free ev ∨ x = .enqueue ev lowPri env.enqueueSize) := by
  unfold fillAndEnqueue at h
  split at h
  · simp [HookResult.out] at h
  · split_ifs at h <;> simp_all

theorem fillAndReport_trace_mem {o : Option DynsecEvent} {lowPri : Bool} {x : Effect}
    (h : x ∈ (fillAndReport env o lowPri).trace) :
    ∃ ev, o = some ev ∧ (x = .free ev ∨ x = .enqueue ev lowPri env.enqueueSize ∨
      (env.fillOk = true ∧ HasFlag ev.reportFlags dynsecReportStall ∧
        (fillAndReport env o lowPri).ret = stallRet (dynsecWaitEventTimeout env.wait (some ev)) ∧
        (x = .waitEvent ev ∨ x ∈ (dynsecWaitEventTimeout env.wait (some ev)).trace))) := by
  unfold fillAndReport at h ⊢
  split at h
  · simp [HookResult.out] at h
  · split_ifs at h with h1 h2 <;> simp_all

theorem alloc_not_mem_fillAndEnqueue (o : Option DynsecEvent) (lowPri : Bool) (e : DynsecEvent)
    (m : Gfp) : Effect.alloc e m ∉ (fillAndEnqueue env o lowPri).trace := fun h => by
  obtain ⟨_, -, h | h⟩ := fillAndEnqueue_trace_mem h <;> cases h

theorem alloc_not_mem_fillAndReport (o : Option DynsecEvent) (lowPri : Bool) (e : DynsecEvent)
    (m : Gfp) : Effect.alloc e m ∉ (fillAndReport env o lowPri).trace := fun h => by
  obtain ⟨_, -, h | h | ⟨-, -, -, h | h⟩⟩ := fillAndReport_trace_mem h
  · cases h
  · cases h
  · cases h
  · rcases dynsecWaitEventTimeout_trace_mem _ _ h with h | h | h | ⟨_, h⟩ | h <;> cases h

end Traces

/-! ## Every hook, by name -/

/-- The hooks of `part_000` with their arguments. -/
inductive HookCall where
  | bprmSetCreds (bprm : Option LinuxBinprm)
  | inodeUnlink (dentry : Dentry)
  | inodeRmdir (dentry : Dentry)
  | inodeRename (oldDentry : Dentry)
  | inodeSetattr (dentry : Option Dentry) (attr : Option Iattr)
  | inodeMkdir
  | inodeCreate
  | inodeLink
  | inodeSymlink
  | fileOpen (file : File)
  | fileFreeSecurity (file : File)
  | ptraceTraceme
  | ptraceAccessCheck (child : Task) (mode : UInt32)
  | taskKill (sig : Int)
  | schedProcessForkTp (parent : Task) (child : Option Task)
  | taskFree (task : Option Task)
  | schedProcessExitTp (task : Option Task)
  | schedProcessFreeTp (task : Option Task)
  | mmapFile (file : Option File) (prot flags : UInt64)
  | wakeUpNewTask (p : Option Task) (realParent : Task)
  deriving Repr

namespace HookCall

/-- Run a hook. -/
def run (env : HookEnv) : HookCall → HookResult
  | bprmSetCreds bprm => dynsecBprmSetCreds env bprm
  | inodeUnlink dentry => dynsecInodeUnlink env dentry
  | inodeRmdir dentry => dynsecInodeRmdir env dentry
  | inodeRename oldDentry => dynsecInodeRename env oldDentry
  | inodeSetattr dentry attr => dynsecInodeSetattr env dentry attr
  | inodeMkdir => dynsecInodeMkdir env
  | inodeCreate => dynsecInodeCreate env
  | inodeLink => dynsecInodeLink env
  | inodeSymlink => dynsecInodeSymlink env
  | fileOpen file => dynsecFileOpen env file
  | fileFreeSecurity file => dynsecFileFreeSecurity env file
  | ptraceTraceme => dynsecPtraceTraceme env
  | ptraceAccessCheck child mode => dynsecPtraceAccessCheck env child mode
  | taskKill sig => dynsecTaskKill env sig
  | schedProcessForkTp parent child => dynsecSchedProcessForkTp env parent child
  | taskFree task => dynsecTaskFree env task
  | schedProcessExitTp task => dynsecSchedProcessExitTp env task
  | schedProcessFreeTp task => dynsecSchedProcessFreeTp env task
  | mmapFile file prot flags => dynsecMmapFile env file prot flags
  | wakeUpNewTask p realParent => dynsecWakeUpNewTask env p realParent

/-- The hooks that only audit: CLOSE, both PTRACE hooks, SIGNAL, the two CLONE
hooks, and the EXIT and TASK_FREE hooks. -/
def auditOnly : HookCall → Bool
  | fileFreeSecurity _ | ptraceTraceme | ptraceAccessCheck _ _ | taskKill _
  | schedProcessForkTp _ _ | taskFree _ | schedProcessExitTp _ | schedProcessFreeTp _
  | wakeUpNewTask _ _ => true
  | _ => false

/-- The bit of `lsm_hooks_enabled` an LSM hook belongs to; the tracepoints and
the kprobe have none. -/
def lsmHookType : HookCall → Option UInt32
  | bprmSetCreds _ => some dynsecHookTypeExec
  | inodeUnlink _ => some dynsecHookTypeUnlink
  | inodeRmdir _ => some dynsecHookTypeRmdir
  | inodeRename _ => some dynsecHookTypeRename
  | inodeSetattr _ _ => some dynsecHookTypeSetattr
  | inodeMkdir => some dynsecHookTypeMkdir
  | inodeCreate => some dynsecHookTypeCreate
  | inodeLink => some dynsecHookTypeLink
  | inodeSymlink => some dynsecHookTypeSymlink
  | fileOpen _ => some dynsecHookTypeOpen
  | fileFreeSecurity _ => some dynsecHookTypeClose
  | ptraceTraceme | ptraceAccessCheck _ _ => some dynsecHookTypePtrace
  | taskKill _ => some dynsecHookTypeSignal
  | mmapFile _ _ _ => some dynsecHookTypeMmap
  | _ => none

end HookCall

/-! ## The shape of every hook's result -/

/-- The results a hook can have.  `out`: no call at all.  `enqueue`: allocate,
then fill and enqueue.  `report`: allocate with flags that stall only without
`SELF` and only for a task outside the agent, then fill and stall or enqueue;
only a hook that may stall (index `true`) has this shape. -/
inductive Shape (env : HookEnv) : Bool → HookResult → Prop
  | out (mayStall : Bool) : Shape env mayStall .out
  | enqueue (mayStall : Bool) (eventType : DynsecEventType) (hookType : UInt32)
      (reportFlags : UInt16) (tid : Nat) (mode : Gfp) (lowPri : Bool) :
      Shape env mayStall
        (allocAnd env eventType hookType reportFlags tid mode fun ev => fillAndEnqueue env ev lowPri)
  | report (eventType : DynsecEventType) (hookType : UInt32) (reportFlags : UInt16) (tid : Nat)
      (mode : Gfp) (lowPri : Bool)
      (guard : HasFlag reportFlags dynsecReportStall →
        ¬ HasFlag reportFlags dynsecReportSelf ∧ env.taskInConnectedTgid env.current = false) :
      Shape env true
        (allocAnd env eventType hookType reportFlags tid mode fun ev => fillAndReport env ev lowPri)

section Shapes

variable (env : HookEnv)

theorem selfOrStall_guard : HasFlag (selfOrStall env) dynsecReportStall →
    ¬ HasFlag (selfOrStall env) dynsecReportSelf ∧ env.taskInConnectedTgid env.current = false := by
  unfold selfOrStall; cases env.taskInConnectedTgid env.current <;> decide

/-- The guard after "don't stall on ourself", for the flags the hooks start from. -/
theorem noStallOnSelf_guard {reportFlags : UInt16}
    (hf : reportFlags = dynsecReportStall ∨ reportFlags = dynsecReportAudit ∨
      reportFlags = dynsecReportAudit ||| dynsecReportStall) :
    HasFlag (noStallOnSelf env reportFlags) dynsecReportStall →
      ¬ HasFlag (noStallOnSelf env reportFlags) dynsecReportSelf ∧
        env.taskInConnectedTgid env.current = false := by
  unfold noStallOnSelf
  rcases hf with rfl | rfl | rfl <;> cases env.taskInConnectedTgid env.current <;> decide

/-- A choice between two results of one shape has that shape: the shape of a
hook follows its tree of tests. -/
theorem Shape.ite {env : HookEnv} {b : Bool} {c : Prop} [Decidable c] {x y : HookResult}
    (hx : Shape env b x) (hy : Shape env b y) : Shape env b (if c then x else y) := by
  split <;> assumption

theorem lsmStallHook_shape (hookType : UInt32) (eventType : DynsecEventType)
    (interesting : Bool) : Shape env true (lsmStallHook env hookType eventType interesting) :=
  .ite (.out _) <| .ite (.out _) <| .ite (.out _) <| .report _ _ _ _ _ _ (selfOrStall_guard env)

theorem dynsecFileOpen_shape (file : File) : Shape env true (dynsecFileOpen env file) :=
  .ite (.out _) <|
    .ite (.ite (.out _) <| .report _ _ _ _ _ _ (noStallOnSelf_guard env (.inl rfl))) (.out _)

theorem lsmAuditHook_shape (hookType : UInt32) (eventType : DynsecEventType)
    (interesting : Bool) : Shape env false (lsmAuditHook env hookType eventType interesting) :=
  .ite (.out _) <| .ite (.out _) <| .ite (.out _) <| .enqueue _ _ _ _ _ _ _

theorem dynsecPtraceAccessCheck_shape (child : Task) (mode : UInt32) :
    Shape env false (dynsecPtraceAccessCheck env child mode) :=
  .ite (.out _) <| .ite (.out _) <| .ite (.out _) <| .ite (.out _) <| .enqueue _ _ _ _ _ _ _

theorem taskAuditHook_shape (hookType : UInt32) (eventType : DynsecEventType)
    (task : Option Task) (isSelf lowPri : Bool) (mode : Gfp) :
    Shape env false (taskAuditHook env hookType eventType task isSelf lowPri mode) := by
  cases task with
  | none => exact .out _
  | some t => exact .ite (.out _) <| .ite (.out _) <| .enqueue _ _ _ _ _ _ _

theorem mmapReport_shape {reportFlags : UInt16}
    (hf : reportFlags = dynsecReportAudit ∨ reportFlags = dynsecReportAudit ||| dynsecReportStall)
    (lowPri : Bool) : Shape env true (mmapReport env reportFlags lowPri) :=
  .report _ _ _ _ _ _ (noStallOnSelf_guard env (.inr hf))

theorem dynsecMmapFile_shape (file : Option File) (prot flags : UInt64) :
    Shape env true (dynsecMmapFile env file prot flags) :=
  .ite (.out _) <| .ite (.out _) <|
    .ite (.ite (mmapReport_shape env (.inr rfl) _) <|
        .ite (mmapReport_shape env (.inr rfl) _) (mmapReport_shape env (.inl rfl) _)) <|
      .ite (mmapReport_shape env (.inr rfl) _) <| .ite (.out _) (mmapReport_shape env (.inl rfl) _)

/-- **Every hook's result has a shape**, and a hook that only audits never has
the stalling one. -/
theorem HookCall.shape (c : HookCall) : Shape env (!c.auditOnly) (c.run env) := by
  cases c with
  | fileOpen file => exact dynsecFileOpen_shape env file
  | fileFreeSecurity file => exact lsmAuditHook_shape env _ _ _
  | ptraceTraceme => exact lsmAuditHook_shape env _ _ _
  | ptraceAccessCheck child mode => exact dynsecPtraceAccessCheck_shape env child mode
  | taskKill sig => exact lsmAuditHook_shape env _ _ _
  | mmapFile file prot flags => exact dynsecMmapFile_shape env file prot flags
  | schedProcessForkTp | taskFree | schedProcessExitTp | schedProcessFreeTp | wakeUpNewTask =>
    exact taskAuditHook_shape env _ _ _ _ _ _
  | _ => exact lsmStallHook_shape env _ _ _

end Shapes

end Dynsec
