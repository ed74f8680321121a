import Dynsec.Basic

/-!
# The configuration and `handle_stall_ioc`

`handle_stall_ioc` is the one writer of the stall configuration.  A request
carries a flags word selecting which of four settings it changes
(`DYNSEC_STALL_MODE_SET`, `DYNSEC_STALL_DEFAULT_TIMEOUT`,
`DYNSEC_STALL_CONTINUE_TIMEOUT`, `DYNSEC_STALL_DEFAULT_DENY`), and the handler
runs four independent blocks, one per flag, in that order.  The model keeps the
four blocks as four functions (`iocStallMode`, `iocDefaultTimeout`,
`iocContinueTimeout`, `iocDefaultDeny`), each with its field lemmas, so that a
statement about one setting never unfolds the other three.

## What is a parameter

`MIN_WAIT_TIMEOUT_MS`, `MAX_WAIT_TIMEOUT_MS` and `MAX_EXTENDED_TIMEOUT_MS` live
in `config.h`, which is not among the sources; they are the fields of
`TimeoutLimits`, and every result states what it assumes of them.  The two
caches are not among the sources either; only their `clear` is called here, so a
cache is the list of keys it holds.

## The invariant the continuation clamp assumes

The `CONTINUE_TIMEOUT` block raises the continuation timeout to at least the
stall timeout ("Ensure our continuation timeout as at least as long as the
regular timeout").  The `DEFAULT_TIMEOUT` block does not look at the
continuation timeout at all, so a request that raises only the stall timeout
leaves it above the continuation timeout (`handleStallIoc_breaks_continue_le`).
The other three bounds of §3 do survive every run of requests
(`runIoc_bounds`), and any request carrying `CONTINUE_TIMEOUT` restores the
fourth (`handleStallIoc_restores_continue_le`).

## The configure step against the spec

`configureSpec` states a successful request in the words of §3: each setting
whose flag is set takes its clamped request value, every other field keeps its
own, and the caches are flushed exactly when stall mode changes.  Each block has
one equation for the whole state it leaves (`iocStallMode_eq`, ...), composing
them gives `configureSpec` (`iocBlocks_eq_configureSpec`), and
`handleStallIoc_configures` adds the two rejections.

## Sending a request twice

After the four blocks have run, each of them asks for what is in force: the
mode the request names, the clamped timeouts, the default-deny it names.  A
block that asks for what is in force changes nothing and flushes no cache
(`iocStallMode_of_stallMode`, ...), so a request sent twice has the effect of
one (`handleStallIoc_idem`).
-/

namespace Dynsec

/-- The timeout bounds of `config.h`, in milliseconds. -/
structure TimeoutLimits where
  minWaitTimeoutMs : Nat
  maxWaitTimeoutMs : Nat
  maxExtendedTimeoutMs : Nat
  deriving DecidableEq, Repr

/-- The stall configuration (`global_config`).  The modes are the on/off of §3:
`DEFAULT_DISABLED` is `false`, `DEFAULT_ENABLED` is `true`. -/
structure DynsecConfig where
  stallMode : Bool
  bypassMode : Bool
  ignoreMode : Bool
  stallTimeout : Nat
  stallTimeoutContinue : Nat
  stallTimeoutDeny : Bool
  deriving DecidableEq, Repr

/-- The configuration together with the two verdict caches it flushes. -/
structure DynsecState where
  config : DynsecConfig
  taskCache : List Nat
  inodeCache : List Nat
  deriving DecidableEq, Repr

/-- A control request (`struct dynsec_stall_ioc_hdr`). -/
structure DynsecStallIocHdr where
  flags : UInt32
  stallMode : UInt32
  stallTimeout : UInt32
  stallTimeoutContinue : UInt32
  stallTimeoutDeny : UInt32
  deriving DecidableEq, Repr

/-- Modelled from the spec: the four request flags, as distinct bits. -/
def dynsecStallModeSet : UInt32 := 0x1
def dynsecStallDefaultTimeout : UInt32 := 0x2
def dynsecStallContinueTimeout : UInt32 := 0x4
def dynsecStallDefaultDeny : UInt32 := 0x8

/-- The flags `handle_stall_ioc` recognises; it masks the request's flags with
them first. -/
def dynsecStallIocFlags : UInt32 :=
  dynsecStallModeSet ||| dynsecStallDefaultTimeout ||| dynsecStallContinueTimeout |||
    dynsecStallDefaultDeny

/-- Masking first does not change a test of a recognised flag. -/
theorem masked_and (f : UInt32) {b : UInt32} (hb : dynsecStallIocFlags &&& b = b) :
    (f &&& dynsecStallIocFlags) &&& b = f &&& b := by
  apply UInt32.eq_of_toBitVec_eq
  have h : dynsecStallIocFlags.toBitVec &&& b.toBitVec = b.toBitVec :=
    UInt32.toBitVec_eq_of_eq hb
  show (f.toBitVec &&& dynsecStallIocFlags.toBitVec) &&& b.toBitVec = f.toBitVec &&& b.toBitVec
  rw [BitVec.and_assoc, h]

/-- `DEFAULT_DISABLED` as a request field. -/
def defaultDisabled : UInt32 := 0

/-- `task_cache_clear(); inode_cache_clear();` -/
def clearCaches (s : DynsecState) : DynsecState :=
  { s with taskCache := [], inodeCache := [] }

/-- A state with its configuration replaced. -/
def DynsecState.setConfig (s : DynsecState) (c : DynsecConfig) : DynsecState :=
  { s with config := c }

@[simp] theorem clearCaches_config (s : DynsecState) : (clearCaches s).config = s.config := rfl

@[simp] theorem setConfig_config (s : DynsecState) (c : DynsecConfig) :
    (s.setConfig c).config = c := rfl

/-! ## The four blocks -/

section Blocks

variable (lim : TimeoutLimits) (hdr : DynsecStallIocHdr) (flags : UInt32)

/-- The `DYNSEC_STALL_MODE_SET` block: a change of stall mode flushes both
caches; a request that does not change the mode leaves everything alone. -/
def iocStallMode (s : DynsecState) : DynsecState :=
  if flags &&& dynsecStallModeSet ≠ 0 then
    if s.config.stallMode then
      if hdr.stallMode = defaultDisabled then
        clearCaches (s.setConfig { s.config with stallMode := false })
      else s
    else
      if hdr.stallMode ≠ defaultDisabled then
        clearCaches (s.setConfig { s.config with stallMode := true })
      else s
  else s

/-- The `DYNSEC_STALL_DEFAULT_TIMEOUT` block: the request's timeout, clamped
into `[MIN_WAIT_TIMEOUT_MS, MAX_WAIT_TIMEOUT_MS]`. -/
def iocDefaultTimeout (s : DynsecState) : DynsecState :=
  if flags &&& dynsecStallDefaultTimeout ≠ 0 then
    let timeoutMs :=
      if hdr.stallTimeout.toNat < lim.maxWaitTimeoutMs then hdr.stallTimeout.toNat
      else lim.maxWaitTimeoutMs
    let timeoutMs :=
      if timeoutMs < lim.minWaitTimeoutMs then lim.minWaitTimeoutMs else timeoutMs
    s.setConfig { s.config with stallTimeout := timeoutMs }
  else s

/-- The `DYNSEC_STALL_CONTINUE_TIMEOUT` block: the request's continuation
timeout, raised to the current stall timeout and capped at
`MAX_EXTENDED_TIMEOUT_MS`. -/
def iocContinueTimeout (s : DynsecState) : DynsecState :=
  if flags &&& dynsecStallContinueTimeout ≠ 0 then
    let timeoutMs :=
      if hdr.stallTimeoutContinue.toNat > s.config.stallTimeout then
        hdr.stallTimeoutContinue.toNat
      else s.config.stallTimeout
    let timeoutMs :=
      if timeoutMs > lim.maxExtendedTimeoutMs then lim.maxExtendedTimeoutMs else timeoutMs
    s.setConfig { s.config with stallTimeoutContinue := timeoutMs }
  else s

/-- The `DYNSEC_STALL_DEFAULT_DENY` block. -/
def iocDefaultDeny (s : DynsecState) : DynsecState :=
  if flags &&& dynsecStallDefaultDeny ≠ 0 then
    if s.config.stallTimeoutDeny then
      if hdr.stallTimeoutDeny = defaultDisabled then
        s.setConfig { s.config with stallTimeoutDeny := false }
      else s
    else
      if hdr.stallTimeoutDeny ≠ defaultDisabled then
        s.setConfig { s.config with stallTimeoutDeny := true }
      else s
  else s

/-! ### What each block leaves -/

/-- The `STALL_MODE_SET` block as a whole: it leaves the mode the request asks
for, and flushes both caches exactly when that mode is new. -/
theorem iocStallMode_eq (s : DynsecState) :
    iocStallMode hdr flags s =
      let m := if flags &&& dynsecStallModeSet ≠ 0 then hdr.stallMode != defaultDisabled
        else s.config.stallMode
      ⟨{ s.config with stallMode := m }, if m != s.config.stallMode then [] else s.taskCache,
        if m != s.config.stallMode then [] else s.inodeCache⟩ := by
  rcases s with ⟨⟨m, b, i, t, tc, dn⟩, tcache, icache⟩
  unfold iocStallMode
  split_ifs <;> simp_all [← bne_iff_ne, clearCaches, DynsecState.setConfig]

/-- The `DEFAULT_TIMEOUT` block as a whole: it writes the request's timeout,
clamped into `[MIN_WAIT_TIMEOUT_MS, MAX_WAIT_TIMEOUT_MS]`, and nothing else. -/
theorem iocDefaultTimeout_eq (s : DynsecState) :
    iocDefaultTimeout lim hdr flags s = s.setConfig { s.config with stallTimeout :=
      (if flags &&& dynsecStallDefaultTimeout ≠ 0 then
        max lim.minWaitTimeoutMs (min hdr.stallTimeout.toNat lim.maxWaitTimeoutMs)
      else s.config.stallTimeout) } := by
  unfold iocDefaultTimeout
  by_cases h : flags &&& dynsecStallDefaultTimeout ≠ 0
  · simp only [if_pos h]; congr 2; split_ifs <;> omega
  · simp only [if_neg h]; rfl

/-- The `CONTINUE_TIMEOUT` block as a whole: it writes the request's
continuation timeout, raised to the stall timeout and capped at
`MAX_EXTENDED_TIMEOUT_MS`, and nothing else. -/
theorem iocContinueTimeout_eq (s : DynsecState) :
    iocContinueTimeout lim hdr flags s = s.setConfig { s.config with stallTimeoutContinue :=
      (if flags &&& dynsecStallContinueTimeout ≠ 0 then
        min (max hdr.stallTimeoutContinue.toNat s.config.stallTimeout) lim.maxExtendedTimeoutMs
      else s.config.stallTimeoutContinue) } := by
  unfold iocContinueTimeout
  by_cases h : flags &&& dynsecStallContinueTimeout ≠ 0
  · simp only [if_pos h]; congr 2; split_ifs <;> omega
  · simp only [if_neg h]; rfl

/-- The `DEFAULT_DENY` block as a whole: it leaves default-deny as the request
asks, and writes nothing else. -/
theorem iocDefaultDeny_eq (s : DynsecState) :
    iocDefaultDeny hdr flags s = s.setConfig { s.config with stallTimeoutDeny :=
      (if flags &&& dynsecStallDefaultDeny ≠ 0 then hdr.stallTimeoutDeny != defaultDisabled
      else s.config.stallTimeoutDeny) } := by
  rcases s with ⟨⟨m, b, i, t, tc, dn⟩, tcache, icache⟩
  unfold iocDefaultDeny
  split_ifs <;> simp_all [DynsecState.setConfig, ← bne_iff_ne]

/-! ### One field at a time -/

@[simp] theorem iocStallMode_stallTimeout (s : DynsecState) :
    (iocStallMode hdr flags s).config.stallTimeout = s.config.stallTimeout := by
  rw [iocStallMode_eq]

@[simp] theorem iocStallMode_stallTimeoutContinue (s : DynsecState) :
    (iocStallMode hdr flags s).config.stallTimeoutContinue =
      s.config.stallTimeoutContinue := by
  rw [iocStallMode_eq]

@[simp] theorem iocDefaultTimeout_stallTimeoutContinue (s : DynsecState) :
    (iocDefaultTimeout lim hdr flags s).config.stallTimeoutContinue =
      s.config.stallTimeoutContinue := by
  rw [iocDefaultTimeout_eq]; rfl

@[simp] theorem iocContinueTimeout_stallTimeout (s : DynsecState) :
    (iocContinueTimeout lim hdr flags s).config.stallTimeout = s.config.stallTimeout := by
  rw [iocContinueTimeout_eq]; rfl

@[simp] theorem iocDefaultDeny_stallTimeout (s : DynsecState) :
    (iocDefaultDeny hdr flags s).config.stallTimeout = s.config.stallTimeout := by
  rw [iocDefaultDeny_eq]; rfl

@[simp] theorem iocDefaultDeny_stallTimeoutContinue (s : DynsecState) :
    (iocDefaultDeny hdr flags s).config.stallTimeoutContinue =
      s.config.stallTimeoutContinue := by
  rw [iocDefaultDeny_eq]; rfl

@[simp] theorem iocDefaultTimeout_stallMode (s : DynsecState) :
    (iocDefaultTimeout lim hdr flags s).config.stallMode = s.config.stallMode := by
  rw [iocDefaultTimeout_eq]; rfl

@[simp] theorem iocContinueTimeout_stallMode (s : DynsecState) :
    (iocContinueTimeout lim hdr flags s).config.stallMode = s.config.stallMode := by
  rw [iocContinueTimeout_eq]; rfl

@[simp] theorem iocDefaultDeny_stallMode (s : DynsecState) :
    (iocDefaultDeny hdr flags s).config.stallMode = s.config.stallMode := by
  rw [iocDefaultDeny_eq]; rfl

/-- A `STALL_MODE_SET` block leaves stall mode enabled exactly when the request
asks for it, whatever the mode was. -/
theorem iocStallMode_stallMode (s : DynsecState) (h : flags &&& dynsecStallModeSet ≠ 0) :
    (iocStallMode hdr flags s).config.stallMode = (hdr.stallMode != defaultDisabled) := by
  rw [iocStallMode_eq]
  exact if_pos h

/-- What a `DEFAULT_TIMEOUT` block writes: the request's timeout clamped into
`[MIN_WAIT_TIMEOUT_MS, MAX_WAIT_TIMEOUT_MS]`. -/
theorem iocDefaultTimeout_stallTimeout (s : DynsecState) :
    (iocDefaultTimeout lim hdr flags s).config.stallTimeout =
      if flags &&& dynsecStallDefaultTimeout ≠ 0 then
        max lim.minWaitTimeoutMs (min hdr.stallTimeout.toNat lim.maxWaitTimeoutMs)
      else s.config.stallTimeout := by
  rw [iocDefaultTimeout_eq]; rfl

/-- What a `CONTINUE_TIMEOUT` block writes: the request's continuation timeout,
raised to the stall timeout, capped at `MAX_EXTENDED_TIMEOUT_MS`. -/
theorem iocContinueTimeout_stallTimeoutContinue (s : DynsecState) :
    (iocContinueTimeout lim hdr flags s).config.stallTimeoutContinue =
      if flags &&& dynsecStallContinueTimeout ≠ 0 then
        min (max hdr.stallTimeoutContinue.toNat s.config.stallTimeout)
          lim.maxExtendedTimeoutMs
      else s.config.stallTimeoutContinue := by
  rw [iocContinueTimeout_eq]; rfl

/-- The stall timeout a `DEFAULT_TIMEOUT` block writes lies in
`[MIN_WAIT_TIMEOUT_MS, MAX_WAIT_TIMEOUT_MS]` when that interval is not empty. -/
theorem iocDefaultTimeout_stallTimeout_mem (s : DynsecState)
    (hmin : lim.minWaitTimeoutMs ≤ lim.maxWaitTimeoutMs)
    (hs : lim.minWaitTimeoutMs ≤ s.config.stallTimeout ∧
      s.config.stallTimeout ≤ lim.maxWaitTimeoutMs) :
    lim.minWaitTimeoutMs ≤ (iocDefaultTimeout lim hdr flags s).config.stallTimeout ∧
      (iocDefaultTimeout lim hdr flags s).config.stallTimeout ≤ lim.maxWaitTimeoutMs := by
  rw [iocDefaultTimeout_stallTimeout]
  split_ifs <;> omega

/-- The continuation timeout a `CONTINUE_TIMEOUT` block writes is at least the
stall timeout and at most `MAX_EXTENDED_TIMEOUT_MS`, provided the stall timeout
is itself below that cap. -/
theorem iocContinueTimeout_stallTimeoutContinue_mem (s : DynsecState)
    (hs : s.config.stallTimeout ≤ lim.maxExtendedTimeoutMs)
    (hc : s.config.stallTimeoutContinue ≤ lim.maxExtendedTimeoutMs) :
    (flags &&& dynsecStallContinueTimeout ≠ 0 →
      s.config.stallTimeout ≤
        (iocContinueTimeout lim hdr flags s).config.stallTimeoutContinue) ∧
      (iocContinueTimeout lim hdr flags s).config.stallTimeoutContinue ≤
        lim.maxExtendedTimeoutMs := by
  rw [iocContinueTimeout_stallTimeoutContinue]
  split_ifs with h
  · omega
  · exact ⟨fun h' => absurd h' h, hc⟩

/-! ### Blocks that ask for what is in force -/

@[simp] theorem iocDefaultDeny_stallTimeoutDeny (s : DynsecState) :
    (iocDefaultDeny hdr flags s).config.stallTimeoutDeny =
      if flags &&& dynsecStallDefaultDeny ≠ 0 then hdr.stallTimeoutDeny != defaultDisabled
      else s.config.stallTimeoutDeny := by
  rw [iocDefaultDeny_eq]; rfl

/-- A `STALL_MODE_SET` block asking for the mode in force changes nothing, and
in particular flushes no cache. -/
theorem iocStallMode_of_stallMode (s : DynsecState)
    (h : flags &&& dynsecStallModeSet ≠ 0 →
      s.config.stallMode = (hdr.stallMode != defaultDisabled)) :
    iocStallMode hdr flags s = s := by
  have hm : (if flags &&& dynsecStallModeSet ≠ 0 then hdr.stallMode != defaultDisabled
      else s.config.stallMode) = s.config.stallMode := by
    split_ifs with hf
    · exact (h hf).symm
    · rfl
  rw [iocStallMode_eq]
  simp only [hm, bne_self_eq_false, Bool.false_eq_true, if_false]

theorem iocDefaultTimeout_of_stallTimeout (s : DynsecState)
    (h : flags &&& dynsecStallDefaultTimeout ≠ 0 → s.config.stallTimeout =
      max lim.minWaitTimeoutMs (min hdr.stallTimeout.toNat lim.maxWaitTimeoutMs)) :
    iocDefaultTimeout lim hdr flags s = s := by
  rw [iocDefaultTimeout_eq]
  split_ifs with hf
  · rw [← h hf]; rfl
  · rfl

theorem iocContinueTimeout_of_stallTimeoutContinue (s : DynsecState)
    (h : flags &&& dynsecStallContinueTimeout ≠ 0 → s.config.stallTimeoutContinue =
      min (max hdr.stallTimeoutContinue.toNat s.config.stallTimeout) lim.maxExtendedTimeoutMs) :
    iocContinueTimeout lim hdr flags s = s := by
  rw [iocContinueTimeout_eq]
  split_ifs with hf
  · rw [← h hf]; rfl
  · rfl

theorem iocDefaultDeny_of_stallTimeoutDeny (s : DynsecState)
    (h : flags &&& dynsecStallDefaultDeny ≠ 0 →
      s.config.stallTimeoutDeny = (hdr.stallTimeoutDeny != defaultDisabled)) :
    iocDefaultDeny hdr flags s = s := by
  rw [iocDefaultDeny_eq]
  split_ifs with hf
  · rw [← h hf]; rfl
  · rfl

/-- The four blocks leave a state in which each of them asks for what is in
force, so running them again changes nothing. -/
theorem iocBlocks_idem (s : DynsecState) :
    let blocks := fun s => iocDefaultDeny hdr flags (iocContinueTimeout lim hdr flags
      (iocDefaultTimeout lim hdr flags (iocStallMode hdr flags s)))
    blocks (blocks s) = blocks s := by
  intro blocks
  simp only [blocks]
  rw [iocStallMode_of_stallMode hdr flags _ fun hf => by simp [iocStallMode_stallMode _ _ _ hf],
    iocDefaultTimeout_of_stallTimeout lim hdr flags _ fun hf => by
      simp [iocDefaultTimeout_stallTimeout, hf],
    iocContinueTimeout_of_stallTimeoutContinue lim hdr flags _ fun hf => by
      simp [iocContinueTimeout_stallTimeoutContinue, hf],
    iocDefaultDeny_of_stallTimeoutDeny hdr flags _ fun hf => by simp [hf]]

end Blocks

/-! ## The handler -/

/-- `handle_stall_ioc`: reject a missing request or one with no recognised flag
(`-EINVAL`), reject an unprivileged caller (`-EPERM`), and otherwise run the
four blocks in order and return `0`. -/
def handleStallIoc (lim : TimeoutLimits) (hdr : Option DynsecStallIocHdr)
    (capable : Bool) (s : DynsecState) : Int × DynsecState :=
  match hdr with
  | none => (-eInval, s)
  | some hdr =>
    let flags := hdr.flags &&& dynsecStallIocFlags
    if flags = 0 then (-eInval, s)
    else if !capable then (-ePerm, s)
    else (0, iocDefaultDeny hdr flags (iocContinueTimeout lim hdr flags
      (iocDefaultTimeout lim hdr flags (iocStallMode hdr flags s))))

/-- Every outcome of the handler: it leaves the state alone, or it is the four
blocks applied in order with the masked flags. -/
theorem handleStallIoc_cases (lim : TimeoutLimits) (hdr : Option DynsecStallIocHdr)
    (capable : Bool) (s : DynsecState) :
    (handleStallIoc lim hdr capable s).2 = s ∨
      ∃ h flags, hdr = some h ∧ (handleStallIoc lim hdr capable s).2 =
        iocDefaultDeny h flags (iocContinueTimeout lim h flags
          (iocDefaultTimeout lim h flags (iocStallMode h flags s))) := by
  unfold handleStallIoc
  rcases hdr with _ | h
  · exact .inl rfl
  · dsimp only
    split_ifs
    · exact .inl rfl
    · exact .inl rfl
    · exact .inr ⟨h, _, rfl, rfl⟩

/-! ## The configure step as the spec states it -/

/-- The configure step of §3 in the spec's words, for a privileged request with
a recognised flag: each setting whose flag the request carries takes the request's
value, the stall timeout clamped into `[MIN_WAIT_TIMEOUT_MS, MAX_WAIT_TIMEOUT_MS]`
and the continuation timeout raised to the new stall timeout and capped at
`MAX_EXTENDED_TIMEOUT_MS`; every other field keeps its value; and both caches
are flushed exactly when stall mode changes. -/
def configureSpec (lim : TimeoutLimits) (hdr : DynsecStallIocHdr) (s : DynsecState) :
    DynsecState :=
  let stallMode :=
    if hdr.flags &&& dynsecStallModeSet ≠ 0 then hdr.stallMode != defaultDisabled
    else s.config.stallMode
  let stallTimeout :=
    if hdr.flags &&& dynsecStallDefaultTimeout ≠ 0 then
      min (max hdr.stallTimeout.toNat lim.minWaitTimeoutMs) lim.maxWaitTimeoutMs
    else s.config.stallTimeout
  let stallTimeoutContinue :=
    if hdr.flags &&& dynsecStallContinueTimeout ≠ 0 then
      min (max hdr.stallTimeoutContinue.toNat stallTimeout) lim.maxExtendedTimeoutMs
    else s.config.stallTimeoutContinue
  let stallTimeoutDeny :=
    if hdr.flags &&& dynsecStallDefaultDeny ≠ 0 then hdr.stallTimeoutDeny != defaultDisabled
    else s.config.stallTimeoutDeny
  let flush := stallMode != s.config.stallMode
  { config := { s.config with stallMode, stallTimeout, stallTimeoutContinue, stallTimeoutDeny }
    taskCache := if flush then [] else s.taskCache
    inodeCache := if flush then [] else s.inodeCache }

/-- The four blocks, run with the masked flags, are the configure step of the
spec, once `MIN_WAIT_TIMEOUT_MS ≤ MAX_WAIT_TIMEOUT_MS` makes the handler's
two-sided clamp the usual one. -/
theorem iocBlocks_eq_configureSpec {lim : TimeoutLimits}
    (hmin : lim.minWaitTimeoutMs ≤ lim.maxWaitTimeoutMs) (h : DynsecStallIocHdr) (s : DynsecState) :
    iocDefaultDeny h (h.flags &&& dynsecStallIocFlags)
      (iocContinueTimeout lim h (h.flags &&& dynsecStallIocFlags)
        (iocDefaultTimeout lim h (h.flags &&& dynsecStallIocFlags)
          (iocStallMode h (h.flags &&& dynsecStallIocFlags) s))) = configureSpec lim h s := by
  have hclamp : max lim.minWaitTimeoutMs (min h.stallTimeout.toNat lim.maxWaitTimeoutMs) =
      min (max h.stallTimeout.toNat lim.minWaitTimeoutMs) lim.maxWaitTimeoutMs := by omega
  rw [iocDefaultDeny_eq, iocContinueTimeout_eq, iocDefaultTimeout_eq, iocStallMode_eq,
    @masked_and h.flags dynsecStallModeSet (by decide),
    @masked_and h.flags dynsecStallDefaultTimeout (by decide),
    @masked_and h.flags dynsecStallContinueTimeout (by decide),
    @masked_and h.flags dynsecStallDefaultDeny (by decide)]
  simp only [configureSpec, DynsecState.setConfig, hclamp]

/-- **The configure step.**  When `MIN_WAIT_TIMEOUT_MS ≤ MAX_WAIT_TIMEOUT_MS`,
every request is rejected with the state left as it was, with `-EINVAL` when it
is missing or carries no recognised flag and with `-EPERM` when the caller lacks
`CAP_SYS_ADMIN`; or it returns `0` and leaves exactly `configureSpec`. -/
theorem handleStallIoc_configures {lim : TimeoutLimits}
    (hmin : lim.minWaitTimeoutMs ≤ lim.maxWaitTimeoutMs)
    (hdr : Option DynsecStallIocHdr) (capable : Bool) (s : DynsecState) :
    (handleStallIoc lim hdr capable s = (-eInval, s) ∧
        (hdr = none ∨ ∃ h, hdr = some h ∧ h.flags &&& dynsecStallIocFlags = 0)) ∨
      (handleStallIoc lim hdr capable s = (-ePerm, s) ∧ capable = false) ∨
      ∃ h, hdr = some h ∧ h.flags &&& dynsecStallIocFlags ≠ 0 ∧ capable = true ∧
        handleStallIoc lim hdr capable s = (0, configureSpec lim h s) := by
  rcases hdr with _ | h
  · exact .inl ⟨rfl, .inl rfl⟩
  · by_cases hf : h.flags &&& dynsecStallIocFlags = 0
    · exact .inl ⟨by simp [handleStallIoc, hf], .inr ⟨h, rfl, hf⟩⟩
    · cases capable
      · exact .inr (.inl ⟨by simp [handleStallIoc, hf], rfl⟩)
      · refine .inr (.inr ⟨h, rfl, hf, rfl, ?_⟩)
        simp only [handleStallIoc, hf, if_false, Bool.not_true, Bool.false_eq_true]
        rw [iocBlocks_eq_configureSpec hmin]

/-- A privileged request that enables stall mode and asks for a stall timeout
above the maximum: stall mode on, both caches flushed, the timeout clamped. -/
theorem handleStallIoc_configures_enable :
    let lim : TimeoutLimits := ⟨1000, 30000, 300000⟩
    let s : DynsecState := ⟨⟨false, false, false, 1000, 1000, false⟩, [7], [8]⟩
    let h : DynsecStallIocHdr :=
      ⟨dynsecStallModeSet ||| dynsecStallDefaultTimeout, 1, 500000, 0, 0⟩
    handleStallIoc lim (some h) true s = (0, ⟨⟨true, false, false, 30000, 1000, false⟩, [], []⟩) := by
  intro lim s h
  rcases @handleStallIoc_configures lim (by decide) (some h) true s with
    ⟨-, hn | ⟨h', he, hf⟩⟩ | ⟨-, hc⟩ | ⟨h', he, -, -, hr⟩
  · cases hn
  · cases he; exact absurd hf (by decide)
  · cases hc
  · cases he; rw [hr]; decide

/-- A run of control requests, each with its caller's privilege. -/
def runIoc (lim : TimeoutLimits) :
    List (Option DynsecStallIocHdr × Bool) → DynsecState → DynsecState
  | [], s => s
  | (hdr, capable) :: reqs, s => runIoc lim reqs (handleStallIoc lim hdr capable s).2

/-! ## What the handler keeps, and what it does not -/

/-- The constraints of §3 on a configuration. -/
structure ConfigInv (lim : TimeoutLimits) (c : DynsecConfig) : Prop where
  min_le_stallTimeout : lim.minWaitTimeoutMs ≤ c.stallTimeout
  stallTimeout_le_max : c.stallTimeout ≤ lim.maxWaitTimeoutMs
  stallTimeout_le_continue : c.stallTimeout ≤ c.stallTimeoutContinue
  continue_le_maxExtended : c.stallTimeoutContinue ≤ lim.maxExtendedTimeoutMs

/-- The three constraints that do not relate the two timeouts to each other. -/
structure ConfigBounds (lim : TimeoutLimits) (c : DynsecConfig) : Prop where
  min_le_stallTimeout : lim.minWaitTimeoutMs ≤ c.stallTimeout
  stallTimeout_le_max : c.stallTimeout ≤ lim.maxWaitTimeoutMs
  continue_le_maxExtended : c.stallTimeoutContinue ≤ lim.maxExtendedTimeoutMs

section Limits

variable {lim : TimeoutLimits}

theorem ConfigInv.bounds {c : DynsecConfig} (h : ConfigInv lim c) : ConfigBounds lim c :=
  ⟨h.min_le_stallTimeout, h.stallTimeout_le_max, h.continue_le_maxExtended⟩

/-- One request keeps the three bounds. -/
theorem handleStallIoc_bounds (hmin : lim.minWaitTimeoutMs ≤ lim.maxWaitTimeoutMs)
    (hext : lim.maxWaitTimeoutMs ≤ lim.maxExtendedTimeoutMs)
    (hdr : Option DynsecStallIocHdr) (capable : Bool) {s : DynsecState}
    (hs : ConfigBounds lim s.config) :
    ConfigBounds lim (handleStallIoc lim hdr capable s).2.config := by
  rcases handleStallIoc_cases lim hdr capable s with h | ⟨h, flags, -, hres⟩
  · rwa [h]
  · rw [hres]
    have ht := iocDefaultTimeout_stallTimeout_mem lim h flags (iocStallMode h flags s) hmin
      (by simpa using ⟨hs.1, hs.2⟩)
    have hc := (iocContinueTimeout_stallTimeoutContinue_mem lim h flags
      (iocDefaultTimeout lim h flags (iocStallMode h flags s)) (by omega) (by simpa using hs.3)).2
    exact ⟨by simpa using ht.1, by simpa using ht.2, by simpa using hc⟩

/-- **The three bounds hold along every run of requests.** -/
theorem runIoc_bounds (hmin : lim.minWaitTimeoutMs ≤ lim.maxWaitTimeoutMs)
    (hext : lim.maxWaitTimeoutMs ≤ lim.maxExtendedTimeoutMs) :
    ∀ (reqs : List (Option DynsecStallIocHdr × Bool)) (s : DynsecState),
      ConfigBounds lim s.config → ConfigBounds lim (runIoc lim reqs s).config
  | [], _, hs => hs
  | (hdr, capable) :: reqs, _, hs =>
    runIoc_bounds hmin hext reqs _ (handleStallIoc_bounds hmin hext hdr capable hs)

/-- A `DEFAULT_TIMEOUT` request above the maximum, from the initial
configuration: the bounds hold after it. -/
theorem runIoc_bounds_clamped :
    let lim : TimeoutLimits := ⟨1000, 30000, 300000⟩
    let s : DynsecState := ⟨⟨true, false, false, 1000, 1000, false⟩, [], []⟩
    let reqs : List (Option DynsecStallIocHdr × Bool) :=
      [(some ⟨dynsecStallDefaultTimeout, 0, 500000, 0, 0⟩, true)]
    ConfigBounds lim (runIoc lim reqs s).config := by
  intro lim s reqs
  exact runIoc_bounds (by decide) (by decide) reqs s ⟨by decide, by decide, by decide⟩

/-- A successful request carrying `CONTINUE_TIMEOUT` leaves the stall timeout at
most the continuation timeout, whatever it did to the stall timeout. -/
theorem handleStallIoc_restores_continue_le
    (hmin : lim.minWaitTimeoutMs ≤ lim.maxWaitTimeoutMs)
    (hext : lim.maxWaitTimeoutMs ≤ lim.maxExtendedTimeoutMs) (h : DynsecStallIocHdr)
    (hc : h.flags &&& dynsecStallContinueTimeout ≠ 0) {s : DynsecState}
    (hs : ConfigBounds lim s.config) :
    (handleStallIoc lim (some h) true s).2.config.stallTimeout ≤
      (handleStallIoc lim (some h) true s).2.config.stallTimeoutContinue := by
  have hc' : (h.flags &&& dynsecStallIocFlags) &&& dynsecStallContinueTimeout ≠ 0 := by
    rwa [masked_and h.flags (by decide)]
  have hmask : h.flags &&& dynsecStallIocFlags ≠ 0 := fun h0 => hc' (by rw [h0]; decide)
  have ht := iocDefaultTimeout_stallTimeout_mem lim h (h.flags &&& dynsecStallIocFlags)
    (iocStallMode h (h.flags &&& dynsecStallIocFlags) s) hmin (by simpa using ⟨hs.1, hs.2⟩)
  simp only [handleStallIoc, hmask, if_false, Bool.not_true, Bool.false_eq_true,
    iocDefaultDeny_stallTimeout,
    iocDefaultDeny_stallTimeoutContinue, iocContinueTimeout_stallTimeout,
    iocContinueTimeout_stallTimeoutContinue, hc', if_true, ne_eq, not_false_eq_true]
  omega

/-- Lowering both timeouts in one request keeps them ordered. -/
theorem handleStallIoc_restores_continue_le_both :
    let lim : TimeoutLimits := ⟨1000, 30000, 300000⟩
    let s : DynsecState := ⟨⟨true, false, false, 20000, 20000, false⟩, [], []⟩
    let h : DynsecStallIocHdr :=
      ⟨dynsecStallDefaultTimeout ||| dynsecStallContinueTimeout, 0, 5000, 2000, 0⟩
    (handleStallIoc lim (some h) true s).2.config.stallTimeout ≤
      (handleStallIoc lim (some h) true s).2.config.stallTimeoutContinue := by
  intro lim s h
  exact handleStallIoc_restores_continue_le (by decide) (by decide) h (by decide)
    ⟨by decide, by decide, by decide⟩

end Limits

/-- **A `DEFAULT_TIMEOUT` request alone breaks `stall_timeout ≤
stall_timeout_continue`.**  Whenever `MIN_WAIT_TIMEOUT_MS < MAX_WAIT_TIMEOUT_MS`,
start from the configuration with both timeouts at `MIN_WAIT_TIMEOUT_MS`, which
satisfies all four constraints, and send a privileged request with only
`DEFAULT_TIMEOUT` set and `stall_timeout = MAX_WAIT_TIMEOUT_MS`: the stall
timeout becomes `MAX_WAIT_TIMEOUT_MS` and the continuation timeout stays at
`MIN_WAIT_TIMEOUT_MS`. -/
theorem handleStallIoc_breaks_continue_le (lim : TimeoutLimits)
    (hlt : lim.minWaitTimeoutMs < lim.maxWaitTimeoutMs)
    (hext : lim.maxWaitTimeoutMs ≤ lim.maxExtendedTimeoutMs)
    (hfit : lim.maxWaitTimeoutMs < UInt32.size) :
    ConfigInv lim ⟨true, false, false, lim.minWaitTimeoutMs, lim.minWaitTimeoutMs, false⟩ ∧
      ¬ ConfigInv lim (runIoc lim
        [(some ⟨dynsecStallDefaultTimeout, 0, UInt32.ofNat lim.maxWaitTimeoutMs, 0, 0⟩, true)]
        ⟨⟨true, false, false, lim.minWaitTimeoutMs, lim.minWaitTimeoutMs, false⟩, [],
          []⟩).config := by
  refine ⟨⟨Nat.le_refl _, Nat.le_of_lt hlt, Nat.le_refl _, by show lim.minWaitTimeoutMs ≤ _; omega⟩,
    fun hinv => ?_⟩
  have hle := hinv.stallTimeout_le_continue
  have hflags : dynsecStallDefaultTimeout &&& dynsecStallIocFlags = dynsecStallDefaultTimeout :=
    by decide
  have hne : dynsecStallDefaultTimeout ≠ 0 := by decide
  have hset : dynsecStallDefaultTimeout &&& dynsecStallDefaultTimeout ≠ 0 := by decide
  have hclear : dynsecStallDefaultTimeout &&& dynsecStallContinueTimeout = 0 := by decide
  simp only [runIoc, handleStallIoc, hflags, iocDefaultDeny_stallTimeout,
    iocDefaultDeny_stallTimeoutContinue, iocContinueTimeout_stallTimeout,
    iocDefaultTimeout_stallTimeout, iocContinueTimeout_stallTimeoutContinue,
    iocDefaultTimeout_stallTimeoutContinue, iocStallMode_stallTimeoutContinue,
    iocStallMode_stallTimeout, UInt32.toNat_ofNat_of_lt hfit, hne, hset, hclear, if_true,
    ne_eq, not_true_eq_false, if_false, Bool.not_true, Bool.false_eq_true,
    not_false_eq_true] at hle
  omega

/-- The defect at limits `1000 < 30000 ≤ 300000`. -/
theorem handleStallIoc_breaks_continue_le_at_defaults :
    (1000 < 30000 ∧ 30000 ≤ 300000 ∧ 30000 < UInt32.size) ∧
      ConfigInv ⟨1000, 30000, 300000⟩ ⟨true, false, false, 1000, 1000, false⟩ ∧
      ¬ ConfigInv ⟨1000, 30000, 300000⟩ (runIoc ⟨1000, 30000, 300000⟩
        [(some ⟨dynsecStallDefaultTimeout, 0, UInt32.ofNat 30000, 0, 0⟩, true)]
        ⟨⟨true, false, false, 1000, 1000, false⟩, [], []⟩).config :=
  ⟨⟨by decide, by decide, by decide⟩,
    handleStallIoc_breaks_continue_le ⟨1000, 30000, 300000⟩ (by decide) (by decide) (by decide)⟩

/-! ## Sending a request twice -/

/-- **Control requests are idempotent.**  The same request sent again with the
same privilege returns what it returned the first time and changes nothing
more: the second one flushes no cache and moves no setting, whatever the state
the first one found. -/
theorem handleStallIoc_idem (lim : TimeoutLimits) (hdr : Option DynsecStallIocHdr)
    (capable : Bool) (s : DynsecState) :
    handleStallIoc lim hdr capable (handleStallIoc lim hdr capable s).2 =
      handleStallIoc lim hdr capable s := by
  rcases hdr with _ | h
  · rfl
  · unfold handleStallIoc
    dsimp only
    split_ifs
    · rfl
    · rfl
    · exact congrArg (Prod.mk 0) (iocBlocks_idem lim h _ s)

end Dynsec
