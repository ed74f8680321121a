import Dynsec.HookProperties

/-!
# Delivery of queued events

A hook that does not stall hands its event to `enqueue_nonstall_event` or to
`enqueue_nonstall_event_low_pri`, and the delivery surface later drains the
queues.  Neither the queues nor the drain are among the sources; they are
modelled from the spec (§4.2): a shard keeps two FIFOs, *normal* and
*low-priority*, an enqueue appends to the FIFO of its priority, and
`dequeue_batch` drains all normal events before any low-priority one.  One shard
is enough to say what the order guarantees, and a batch is a sequence of single
dequeues.

The system is a run of hooks and dequeues (`DeliveryAction`).  A hook's
contribution is read off its own trace, `queued`: every enqueue the queue
accepted, in order.  `delivered` records the delivery stream.

Draining a shard delivers its normal FIFO and then its low-priority FIFO
(`Delivery.run_drain`).  Which FIFO an event goes to is the code's choice, and
`__dynsec_task_exit` makes the wrong one for the common exit event.  Its comment
says that event "should have to be high priority as the task free event is
always last", but it queues `sched_process_exit` at low priority and the
task-free events at normal priority.  So after a process's exit and task-free
tracepoints, a drain delivers the task-free event first, from any state of the
queues (`task_free_delivered_before_exit`).
-/

namespace Dynsec

/-- The events a hook's calls put on the queues, with their priority: every
enqueue the queue accepted (a non-zero size). -/
def queued : List Effect → List (DynsecEvent × Bool)
  | [] => []
  | .enqueue ev lowPri size :: t => if size = 0 then queued t else (ev, lowPri) :: queued t
  | _ :: t => queued t

/-- Modelled from the spec: one shard's two FIFOs of queued events, and the
delivery stream so far, each event with the priority it was queued at (`true`
for low). -/
structure Delivery where
  normal : List DynsecEvent
  low : List DynsecEvent
  delivered : List (DynsecEvent × Bool)
  deriving DecidableEq, Repr

namespace Delivery

/-- Empty queues, nothing delivered. -/
def empty : Delivery := ⟨[], [], []⟩

/-- Modelled from the spec: `enqueue_nonstall` appends to the FIFO of its
priority. -/
def enqueueNonstallEvent (d : Delivery) (ev : DynsecEvent) (lowPri : Bool) : Delivery :=
  if lowPri then { d with low := d.low ++ [ev] } else { d with normal := d.normal ++ [ev] }

/-- Enqueue a list of events in order. -/
def enqueueAll (d : Delivery) : List (DynsecEvent × Bool) → Delivery
  | [] => d
  | (ev, lowPri) :: t => (d.enqueueNonstallEvent ev lowPri).enqueueAll t

/-- Modelled from the spec: one event of `dequeue_batch`, the head of the normal
FIFO if there is one, else the head of the low-priority FIFO. -/
def dequeueEvent (d : Delivery) : Delivery :=
  match d.normal, d.low with
  | ev :: rest, _ => { d with normal := rest, delivered := d.delivered ++ [(ev, false)] }
  | [], ev :: rest => { d with low := rest, delivered := d.delivered ++ [(ev, true)] }
  | [], [] => d

end Delivery

/-- One action of the system: a hook runs, or the delivery surface takes one
event. -/
inductive DeliveryAction where
  | hook (env : HookEnv) (c : HookCall)
  | dequeue

namespace Delivery

/-- One step: a hook's accepted enqueues, or one dequeue. -/
def step (d : Delivery) : DeliveryAction → Delivery
  | .hook env c => d.enqueueAll (queued (c.run env).trace)
  | .dequeue => d.dequeueEvent

/-- A run of the system. -/
def run (d : Delivery) : List DeliveryAction → Delivery
  | [] => d
  | a :: acts => (d.step a).run acts

/-- Dequeueing from empty queues changes nothing. -/
theorem dequeueEvent_of_nil {d : Delivery} (hn : d.normal = []) (hl : d.low = []) :
    d.dequeueEvent = d := by
  simp [dequeueEvent, hn, hl]

/-- With the normal FIFO empty, draining delivers the low-priority FIFO. -/
theorem run_drain_low : ∀ (low : List DynsecEvent) (d : Delivery), d.normal = [] → d.low = low →
    (d.run (List.replicate low.length .dequeue)).delivered = d.delivered ++ low.map (·, true)
  | [], d, _, _ => by simp [Delivery.run]
  | ev :: rest, d, hn, hl => by
    have h := run_drain_low rest { d with low := rest, delivered := d.delivered ++ [(ev, true)] }
      hn rfl
    simp only [List.length_cons, List.replicate_succ, Delivery.run, step, dequeueEvent, hn, hl] at h ⊢
    simp [h]

/-- **Draining a shard delivers its normal FIFO, then its low-priority FIFO.** -/
theorem run_drain : ∀ (normal : List DynsecEvent) (d : Delivery), d.normal = normal →
    (d.run (List.replicate (normal.length + d.low.length) .dequeue)).delivered =
      d.delivered ++ normal.map (·, false) ++ d.low.map (·, true)
  | [], d, hn => by simpa using run_drain_low d.low d hn rfl
  | ev :: rest, d, hn => by
    have h := run_drain rest { d with normal := rest, delivered := d.delivered ++ [(ev, false)] } rfl
    rw [List.length_cons, Nat.add_right_comm, List.replicate_succ]
    simp only [Delivery.run, step, dequeueEvent, hn] at h ⊢
    simp [h]

end Delivery

/-- The two tracepoints at the end of a process, run on a process with the
table enabled and every allocation, fill and enqueue succeeding: the exit event
goes to the low-priority FIFO, the task-free event to the normal one. -/
theorem run_exit_free (env : HookEnv) (t : Task) (d : Delivery) (hproc : t.tgid = t.pid)
    (htbl : env.stallTblEnabled = true) (halloc : env.allocOk = true) (hfill : env.fillOk = true)
    (hsize : env.enqueueSize ≠ 0) :
    d.run [.hook env (.schedProcessExitTp (some t)), .hook env (.schedProcessFreeTp (some t))] =
      { d with
        normal := d.normal ++ [⟨.exit, dynsecTpHookTypeTaskFree, dynsecReportAudit, t.pid⟩]
        low := d.low ++ [⟨.exit, dynsecTpHookTypeExit, dynsecReportAudit, t.pid⟩] } := by
  have hfree : (dynsecTpHookTypeTaskFree == dynsecTpHookTypeExit) = false := by decide
  simp [Delivery.run, Delivery.step, HookCall.run, dynsecSchedProcessExitTp,
    dynsecSchedProcessFreeTp, dynsecTaskExit, taskAuditHook, allocAnd, allocDynsecEvent,
    fillAndEnqueue, queued, Delivery.enqueueAll, Delivery.enqueueNonstallEvent, hproc, htbl,
    halloc, hfill, hsize, hfree]

/-- **The task-free event overtakes the exit event.**  From any state of the
queues, when a process's `sched_process_exit` and `sched_process_free`
tracepoints both queue their events and the shard is then drained, the
task-free event is delivered before the exit event, against the comment in
`__dynsec_task_exit` that wants the exit event ahead because the task-free
event is always last.  The LSM task-free hook queues at normal priority too. -/
theorem task_free_delivered_before_exit (env : HookEnv) (t : Task) (d : Delivery)
    (hproc : t.tgid = t.pid) (htbl : env.stallTblEnabled = true) (halloc : env.allocOk = true)
    (hfill : env.fillOk = true) (hsize : env.enqueueSize ≠ 0) :
    let d' := d.run [.hook env (.schedProcessExitTp (some t)),
      .hook env (.schedProcessFreeTp (some t))]
    List.Sublist [(⟨.exit, dynsecTpHookTypeTaskFree, dynsecReportAudit, t.pid⟩, false),
      (⟨.exit, dynsecTpHookTypeExit, dynsecReportAudit, t.pid⟩, true)]
      (d'.run (List.replicate (d'.normal.length + d'.low.length) .dequeue)).delivered := by
  intro d'
  rw [Delivery.run_drain _ d' rfl]
  simp only [d', run_exit_free env t d hproc htbl halloc hfill hsize, List.map_append,
    List.map_cons, List.map_nil]
  exact (List.singleton_sublist.mpr (by simp)).append (List.singleton_sublist.mpr (by simp))

/-- A process's exit and task-free tracepoints from empty queues, then two
dequeues: the task-free event, queued at normal priority, is delivered before
the exit event, queued at low priority. -/
theorem task_free_overtakes_exit :
    let env : HookEnv := ⟨0, true, fun _ => false, ⟨1, 1, false⟩, true, true, 1,
      ⟨true, false, none, false, 1000, fun _ => ⟨true, true, false, .timedOut, 1000⟩⟩, {}⟩
    let t : Task := ⟨100, 100, false⟩
    (Delivery.empty.run [.hook env (.schedProcessExitTp (some t)),
        .hook env (.schedProcessFreeTp (some t)), .dequeue, .dequeue]).delivered =
      [(⟨.exit, dynsecTpHookTypeTaskFree, dynsecReportAudit, 100⟩, false),
        (⟨.exit, dynsecTpHookTypeExit, dynsecReportAudit, 100⟩, true)] ∧
    t.tgid = t.pid ∧ env.stallTblEnabled = true ∧ env.allocOk = true ∧ env.fillOk = true ∧
      env.enqueueSize ≠ 0 ∧
      let d' := Delivery.empty.run [.hook env (.schedProcessExitTp (some t)),
        .hook env (.schedProcessFreeTp (some t))]
      List.Sublist [(⟨.exit, dynsecTpHookTypeTaskFree, dynsecReportAudit, t.pid⟩, false),
        (⟨.exit, dynsecTpHookTypeExit, dynsecReportAudit, t.pid⟩, true)]
        (d'.run (List.replicate (d'.normal.length + d'.low.length) .dequeue)).delivered := by
  intro env t
  exact ⟨by decide, rfl, rfl, rfl, rfl, by decide,
    task_free_delivered_before_exit env t Delivery.empty rfl rfl rfl rfl (by decide)⟩

end Dynsec
