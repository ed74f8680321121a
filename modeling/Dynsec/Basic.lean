import Mathlib.Tactic.Common
import Mathlib.Data.Nat.Defs
import Mathlib.Algebra.Group.Nat.Basic
import Mathlib.Algebra.Group.Int

/-!
# The data the stall engine and its hooks work on

`dynsec` mediates security-sensitive kernel operations.  A hook builds an event,
and either *stalls* the calling task until user space answers (or a timeout
passes), or *enqueues* the event for asynchronous delivery.  This file fixes the
vocabulary every other module of the development shares: the error numbers and
response codes, the report flags, hook and event types, the kernel objects the
hooks read, and the calls a hook makes, recorded as a trace.

## The dictionary

Names keep the source's words in lowerCamelCase: `DYNSEC_REPORT_STALL` is
`dynsecReportStall`, `S_ISREG` is `sIsReg`, `alloc_dynsec_event` is
`allocDynsecEvent`.  Fixed-width C types stay fixed width (`uint16_t` report
flags are `UInt16`, `fmode_t` is `UInt32`, `unsigned long` mmap arguments are
`UInt64`); identifiers that are only compared for equality (pids, uids) are
`Nat`.

`dynsec.h`, `lsm_mask.h` and `factory.c` are not among the sources.  Their
constants are modelled from the spec: response codes with `ALLOW = 0`, and report
flags and hook types as distinct bits.  Nothing below depends on which bits they
are, only on their being distinct; the kernel's own constants (`EPERM`,
`S_IFREG`, `FMODE_WRITE`, `PROT_EXEC`, ...) have the kernel's values.

## Traces

A hook's externally visible behaviour is the sequence of calls it makes:
allocating, freeing, enqueueing or stalling an event, and inside the stall
engine inserting, waiting on and removing a stall entry.  `Effect` names these
calls, and every modelled function returns the list of them it made.  Ownership
(`Dynsec.Hooks`), removal (`Dynsec.Stall`) and sleeping (`Dynsec.HookProperties`)
are all statements about these lists.
-/

namespace Dynsec

/-! ## Error numbers and response codes -/

/-- `EPERM`, "operation not permitted". -/
def ePerm : Int := 1

/-- `ECHILD`, which the stall engine returns when it gives up a stall. -/
def eChild : Int := 10

/-- `EINVAL`, "invalid argument". -/
def eInval : Int := 22

/-- Modelled from the spec: `dynsec.h` is not under `src/`.  `ALLOW = 0` (§6);
`DENY` and `CONTINUE` only need to differ from it and from each other. -/
def dynsecResponseAllow : Int := 0

/-- Modelled from the spec: the `DENY` response code (`DYNSEC_RESPONSE_EPERM`). -/
def dynsecResponseEperm : Int := 1

/-- Modelled from the spec: the `CONTINUE` response code. -/
def dynsecResponseContinue : Int := 2

/-- The cap on consecutive `CONTINUE` responses (`MAX_CONTINUE_RESPONSES`). -/
def maxContinueResponses : Nat := 256

/-! ## Report flags -/

/-- Modelled from the spec: the report flags of §3 as distinct bits of a
`uint16_t`. -/
def dynsecReportAudit : UInt16 := 0x0001

/-- Modelled from the spec: the event must stall its task. -/
def dynsecReportStall : UInt16 := 0x0002

/-- Modelled from the spec: the originator belongs to the agent itself. -/
def dynsecReportSelf : UInt16 := 0x0004

/-- Modelled from the spec: the event may be ignored in ignore mode. -/
def dynsecReportIgnore : UInt16 := 0x0008

/-- A report-flag set holds a flag. -/
def HasFlag (flags bit : UInt16) : Prop := flags &&& bit ≠ 0

instance (flags bit : UInt16) : Decidable (HasFlag flags bit) :=
  inferInstanceAs (Decidable (_ ≠ _))

/-! ## Hook types and event types -/

/-- Modelled from the spec: the hook-type bits of `lsm_hooks_enabled`
(`DYNSEC_HOOK_TYPE_*`), and the tracepoint hook types, all distinct. -/
def dynsecHookTypeExec : UInt32 := 0x00000001
def dynsecHookTypeRename : UInt32 := 0x00000002
def dynsecHookTypeUnlink : UInt32 := 0x00000004
def dynsecHookTypeRmdir : UInt32 := 0x00000008
def dynsecHookTypeMkdir : UInt32 := 0x00000010
def dynsecHookTypeCreate : UInt32 := 0x00000020
def dynsecHookTypeSetattr : UInt32 := 0x00000040
def dynsecHookTypeOpen : UInt32 := 0x00000080
def dynsecHookTypeLink : UInt32 := 0x00000100
def dynsecHookTypeSymlink : UInt32 := 0x00000200
def dynsecHookTypeSignal : UInt32 := 0x00000400
def dynsecHookTypePtrace : UInt32 := 0x00000800
def dynsecHookTypeMmap : UInt32 := 0x00001000
def dynsecHookTypeClose : UInt32 := 0x00002000
def dynsecHookTypeTaskFree : UInt32 := 0x00004000
def dynsecTpHookTypeClone : UInt32 := 0x00008000
def dynsecTpHookTypeExit : UInt32 := 0x00010000
def dynsecTpHookTypeTaskFree : UInt32 := 0x00020000

/-- The kind of an event (`enum dynsec_event_type`). -/
inductive DynsecEventType where
  | exec | unlink | rmdir | rename | setattr | mkdir | create | link | symlink
  | open | close | ptrace | signal | clone | exit | mmap
  deriving DecidableEq, Repr

/-- An event as the hooks see it: its kind, the hook that produced it, its
report flags, and the task it reports on.  The payload written by the
`fill_in_*` fillers is not modelled: no modelled function reads it. -/
structure DynsecEvent where
  eventType : DynsecEventType
  hookType : UInt32
  reportFlags : UInt16
  tid : Nat
  deriving DecidableEq, Repr

/-! ## Kernel objects, with the fields the hooks read -/

/-- A task: `pid`, `tgid` and `in_execve`. -/
structure Task where
  pid : Nat
  tgid : Nat
  inExecve : Bool
  deriving DecidableEq, Repr

/-- An inode: mode, owner, group and size. -/
structure Inode where
  iMode : UInt16
  iUid : Nat
  iGid : Nat
  iSize : Int
  deriving DecidableEq, Repr

/-- A dentry, whose inode may be missing (a negative dentry). -/
structure Dentry where
  dInode : Option Inode
  deriving DecidableEq, Repr

/-- An open file: `f_mode` and `f_path.dentry`. -/
structure File where
  fMode : UInt32
  dentry : Option Dentry
  deriving DecidableEq, Repr

/-- The attribute change `inode_setattr` is asked to make. -/
structure Iattr where
  iaValid : UInt32
  iaMode : UInt16
  iaUid : Nat
  iaGid : Nat
  iaSize : Int
  deriving DecidableEq, Repr

/-- `struct linux_binprm`, of which the exec hook reads the file. -/
structure LinuxBinprm where
  file : Option File
  deriving DecidableEq, Repr

/-! ## Kernel constants -/

def sIfmt : UInt16 := 0o170000
def sIfreg : UInt16 := 0o100000
def sIfdir : UInt16 := 0o040000
def sIflnk : UInt16 := 0o120000

/-- `S_ISREG`. -/
def sIsReg (m : UInt16) : Bool := m &&& sIfmt == sIfreg
/-- `S_ISDIR`. -/
def sIsDir (m : UInt16) : Bool := m &&& sIfmt == sIfdir
/-- `S_ISLNK`. -/
def sIsLnk (m : UInt16) : Bool := m &&& sIfmt == sIflnk

def fmodeWrite : UInt32 := 0x2
def fmodeExec : UInt32 := 0x20
def fmodeStream : UInt32 := 0x200000
def fmodeNonotify : UInt32 := 0x4000000

def protExec : UInt64 := 0x4
def mapDenywrite : UInt64 := 0x0800
def mapExecutable : UInt64 := 0x1000

def ptraceModeAttach : UInt32 := 0x02

def attrMode : UInt32 := 1
def attrUid : UInt32 := 2
def attrGid : UInt32 := 4
def attrSize : UInt32 := 8

/-- The allocation context an event is allocated in. -/
inductive Gfp where
  | kernel
  | atomic
  deriving DecidableEq, Repr

/-! ## The calls a hook makes -/

/-- One externally visible call.  `enqueue` records which queue and the size the
queue returned (`0` when it rejected the event); `waitEvent` is a call of
`dynsec_wait_event_timeout`; `insert` is `stall_tbl_insert` publishing the event;
`wait` is one `wait_event_interruptible_timeout` with its timeout in
milliseconds; `removeEntry` and `kfreeEntry` are `stall_tbl_remove_entry` and
the `kfree` of the stall entry. -/
inductive Effect where
  | alloc (event : DynsecEvent) (mode : Gfp)
  | free (event : DynsecEvent)
  | enqueue (event : DynsecEvent) (lowPri : Bool) (size : Nat)
  | waitEvent (event : DynsecEvent)
  | insert (event : DynsecEvent)
  | wait (timeout : Nat)
  | removeEntry
  | kfreeEntry
  deriving DecidableEq, Repr

/-- The calls that end a hook's ownership of an event: freeing it, a queue
accepting it (a non-zero size), and `stall_tbl_insert` publishing it. -/
def Effect.disposes (ev : DynsecEvent) : Effect → Bool
  | .free e => e == ev
  | .enqueue e _ size => e == ev && size != 0
  | .insert e => e == ev
  | _ => false

/-- How many times a trace disposes of an event. -/
def disposals (ev : DynsecEvent) (trace : List Effect) : Nat :=
  trace.countP (Effect.disposes ev)

end Dynsec
