import SourceGuard.Shutdown
import SourceGuard.Window

/-!
# What a shutdown reports

The tasks end at their own times, in any order, while they are awaited in the order in which they
were registered. To see what is reported, look at them at every instant of the grace period: each
look takes the tasks at the head that have ended by then, and reports those that failed. A later look
takes what an earlier one would have taken, so all looks together are the last one, and the waiting
gets as far as the first task that outlasts the grace period.

Whether all tasks ended in time is therefore reported as it is. The failures are not: a task that
failed in time is not reported if it was registered behind one that outlasts the grace period.

## Main definitions

* `Waiting`: the tasks still to be awaited, and what was reported
* `Waiting.look`, `Waiting.run`: one look at the tasks, and looks at every instant

## Main results

* `Waiting.look_look_of_le`, `Waiting.run_eq_look`: all looks together are the last one
* `Shutdown.await_eq_run`: waiting for tasks one after another is looking at every instant
* `Shutdown.reports_exact`: what is reported, and which failures are not
* `Shutdown.swallowed_behind_sleeper`: a failure that is not reported
-/

namespace SourceGuard

/-- A task that ends in a grace period ends in a longer one. -/
theorem Ending.isWithin_mono {grace longer : Span} (h : grace ≤ longer) {ending : Ending}
    (hwithin : ending.isWithin grace = true) : ending.isWithin longer = true := by
  cases ending with
  | before => rfl
  | after time => exact decide_eq_true (Nat.lt_of_lt_of_le (of_decide_eq_true hwithin) h)
  | never => cases hwithin

namespace Task

/-- Whether a task fails before a grace period is over. -/
def failsWithin (task : Task) (grace : Span) : Bool :=
  task.endsWithin grace && task.failure?.isSome

/-- A task is reported as one error if it failed, and not at all otherwise. -/
theorem countP_events (task : Task) :
    task.events.countP (·.level = .error) = if task.failure?.isSome then 1 else 0 := by
  unfold events
  cases task.failure? <;> rfl

/-- Of tasks that end in time, those that fail are reported as one error each. -/
theorem countP_flatMap_events {grace : Span} {tasks : List Task}
    (h : ∀ task ∈ tasks, task.endsWithin grace = true) :
    (tasks.flatMap events).countP (·.level = .error) = tasks.countP (·.failsWithin grace) := by
  induction tasks with
  | nil => rfl
  | cons task rest ih =>
    obtain ⟨htask, hrest⟩ := List.forall_mem_cons.mp h
    rw [List.flatMap_cons, List.countP_append, ih hrest, countP_events, List.countP_cons,
      Nat.add_comm, failsWithin, htask, Bool.true_and]

end Task

/-! ## Looking at the tasks -/

/-- Where the waiting stands. -/
structure Waiting where
  /-- The tasks still to be awaited, in the order in which they were registered. -/
  pending : List Task
  /-- What was reported. -/
  log : List Event := []

namespace Waiting

/-- One look at the tasks when some time has passed: it takes the tasks at the head that have ended
by then, and reports those that failed. -/
def look (passed : Span) (w : Waiting) : Waiting where
  pending := w.pending.dropWhile (·.endsWithin passed)
  log := w.log ++ (w.pending.takeWhile (·.endsWithin passed)).flatMap Task.events

/-- Looks at every instant, as long as tasks are pending and time is left. -/
def run : (left passed : Span) → Waiting → Waiting
  | 0, passed, w => w.look passed
  | left + 1, passed, w =>
    if (w.look passed).pending = [] then w.look passed else run left (passed + 1) (w.look passed)

/-- What two tests take from the head of a list one after the other, if the second one is weaker. -/
theorem takeWhile_append_takeWhile_of_imp {α : Type} {p q : α → Bool}
    (h : ∀ a, p a = true → q a = true) (l : List α) :
    l.takeWhile p ++ (l.dropWhile p).takeWhile q = l.takeWhile q := by
  induction l with
  | nil => rfl
  | cons a l ih =>
    by_cases hp : p a = true
    · rw [List.takeWhile_cons_of_pos hp, List.dropWhile_cons_of_pos hp,
        List.takeWhile_cons_of_pos (h a hp), List.cons_append, ih]
    · rw [List.takeWhile_cons_of_neg hp, List.dropWhile_cons_of_neg hp, List.nil_append]

/-- **A later look** takes and reports what it would have taken and reported without an earlier
one. -/
theorem look_look_of_le {earlier passed : Span} (h : earlier ≤ passed) (w : Waiting) :
    (w.look earlier).look passed = w.look passed := by
  have hended : ∀ task : Task, task.endsWithin earlier = true → task.endsWithin passed = true :=
    fun task => Ending.isWithin_mono h
  unfold look
  rw [Window.dropWhile_dropWhile_of_imp hended, List.append_assoc, ← List.flatMap_append,
    takeWhile_append_takeWhile_of_imp hended]

/-- Once no task is pending, a look finds nothing. -/
theorem look_of_pending_eq_nil {w : Waiting} (h : w.pending = []) (passed : Span) :
    w.look passed = w := by
  obtain ⟨pending, log⟩ := w
  obtain rfl : pending = [] := h
  simp [look]

/-- **All looks together** are the last one. -/
theorem run_eq_look (left passed : Span) (w : Waiting) :
    w.run left passed = w.look (passed + left) := by
  induction left generalizing passed w with
  | zero => rfl
  | succ left ih =>
    rw [run]
    split
    · rename_i hdone
      rw [← look_look_of_le (Nat.le_add_right passed (left + 1)) w, look_of_pending_eq_nil hdone]
    · rw [ih, Nat.add_right_comm, Nat.add_assoc, look_look_of_le (Nat.le_add_right passed (left + 1))]

end Waiting

namespace Shutdown

/-- **Waiting for tasks one after another** is looking at them at every instant. -/
theorem await_eq_run (grace : Span) (tasks : List Task) :
    let waited := Waiting.run grace 0 { pending := tasks }
    await grace tasks = (waited.log, waited.pending.isEmpty) := by
  simp only [Waiting.run_eq_look, Nat.zero_add, Waiting.look, List.nil_append]
  induction tasks with
  | nil => rfl
  | cons task rest ih =>
    by_cases h : task.endsWithin grace = true <;> simp [await, h, ih]

/-! ## What is reported -/

/-- The report of the end is no error. -/
theorem countP_endEvent (inTime : Bool) :
    [endEvent inTime].countP (·.level = .error) = 0 := by
  cases inTime <;> rfl

/-- **What a shutdown reports.** The tasks come apart at the first one that outlasts the grace
period, if there is any; that is where looks at every instant get to. Those before it are awaited:
each of them that failed is reported as one error, in the order in which they were registered. The
end is reported as graceful exactly if all tasks ended in time. So every failure in time is reported,
unless a task failed in time that was registered behind one that outlasts the grace period. -/
theorem reports_exact (grace : Span) (tasks : List Task) :
    ∃ awaited behind, tasks = awaited ++ behind ∧
      (∀ task ∈ awaited, task.endsWithin grace = true) ∧
      (∀ task, behind.head? = some task → task.endsWithin grace = false) ∧
      Waiting.run grace 0 { pending := tasks } = ⟨behind, awaited.flatMap Task.events⟩ ∧
      events grace tasks = awaited.flatMap Task.events ++ [endEvent behind.isEmpty] ∧
      (behind.isEmpty = true ↔ ∀ task ∈ tasks, task.endsWithin grace = true) ∧
      ((events grace tasks).countP (·.level = .error) = tasks.countP (·.failsWithin grace) ↔
        ∀ task ∈ behind, task.failsWithin grace = false) := by
  let awaited := tasks.takeWhile (·.endsWithin grace)
  let behind := tasks.dropWhile (·.endsWithin grace)
  have hsplit : awaited ++ behind = tasks := List.takeWhile_append_dropWhile
  have hawaited : ∀ task ∈ awaited, task.endsWithin grace = true :=
    List.all_eq_true.mp List.all_takeWhile
  have hbehind : ∀ task, behind.head? = some task → task.endsWithin grace = false := by
    intro task htask
    have hhead := List.head?_dropWhile_not (·.endsWithin grace) tasks
    rw [show tasks.dropWhile (·.endsWithin grace) = behind from rfl, htask] at hhead
    exact hhead
  have hrun : Waiting.run grace 0 { pending := tasks } = ⟨behind, awaited.flatMap Task.events⟩ := by
    rw [Waiting.run_eq_look, Nat.zero_add]
    rfl
  have hevents : events grace tasks = awaited.flatMap Task.events ++ [endEvent behind.isEmpty] := by
    rw [events, await_eq_run, hrun]
  refine ⟨awaited, behind, hsplit.symm, hawaited, hbehind, hrun, hevents, ?_, ?_⟩
  · rw [← List.all_eq_true, ← snd_await, await_eq_run, hrun]
  · -- the errors are those of the tasks awaited, so the others must not have failed in time
    have herrors : (events grace tasks).countP (·.level = .error) =
        awaited.countP (·.failsWithin grace) := by
      rw [hevents, List.countP_append, countP_endEvent, Nat.add_zero,
        Task.countP_flatMap_events hawaited]
    have hall : tasks.countP (·.failsWithin grace) =
        awaited.countP (·.failsWithin grace) + behind.countP (·.failsWithin grace) := by
      rw [← List.countP_append, hsplit]
    rw [herrors, hall, Nat.left_eq_add, List.countP_eq_zero]
    simp only [Bool.not_eq_true]

/-- **A failure that is not reported**: of two tasks the first one sleeps for a minute, and the second
one fails at once. The grace period of a tenth of a second is over before the failure is looked at. -/
theorem swallowed_behind_sleeper :
    let grace := Span.ofMillis 100
    let tasks : List Task := [⟨.after (Span.ofSeconds 60), none⟩, ⟨.after 0, some "panicked"⟩]
    (∀ task ∈ tasks, task.ending ≠ .after grace) ∧ tasks.countP (·.failsWithin grace) = 1 ∧
      (events grace tasks).countP (·.level = .error) = 0 ∧
      events grace tasks =
        [⟨.warn, "⏱️  Shutdown timeout: Some tasks did not complete", []⟩] := by
  decide +kernel

end Shutdown

end SourceGuard
