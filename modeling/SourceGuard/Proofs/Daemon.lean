import SourceGuard.Proofs.Capture.Polling
import SourceGuard.Proofs.Execution
import SourceGuard.Setup

/-!
# The tasks of the daemon

Whatever the order in which the tasks of the daemon take their steps, its evaluation loop goes
through an execution: the packets that the captures read and the ticks, in the order in which they
come, and then what the loop does after its cancellation. Packets may come even later, from captures
that have not yet seen the cancellation, and then the monitor accounts them, but nobody is blocked
any more. So what holds of executions holds of the daemon, and a daemon that has left has released
every block. A signal always leads to that end.

## Main definitions

* `Daemon.Goes`, `Daemon.Moves`: what the main task does next, and what an occurrence does
* `Daemon.heard`: the packets and ticks that the evaluation loop hears of
* `Daemon.Follows`: the evaluation loop of a daemon goes through an execution
* `Daemon.Sound`: what cancels the daemon, and what its main task waits for
* `Daemon.ofReads`: what happens while a capture task makes reads and nothing else goes on

## Main results

* `Daemon.moves_step`: everything that an occurrence can do
* `Daemon.follows_run`: the evaluation loop goes through an execution of what it hears
* `Daemon.cleared_of_left`: a daemon that has left has released every block
* `Daemon.exists_left`: after a signal the daemon can leave
* `Daemon.exists_of_code?_eq_zero`: a daemon exits with code zero only after a signal
* `Daemon.run_ofReads`: a capture task by itself is the capture loop
-/

namespace SourceGuard

open Emission (calls)

variable {σ : Type}

namespace EvaluationLoop

/-- Events and one more event. -/
theorem drive_concat (E : Enforcer σ) (events : List LoopEvent) (event : LoopEvent)
    (loop : EvaluationLoop) (s : σ) :
    drive E (events ++ [event]) loop s = (drive E events loop >>= fun l => l.step E event) s := by
  induction events generalizing loop s with
  | nil =>
    change Outcome.mk _ _ ((loop.step E event s).trace ++ []) = _
    rw [List.append_nil]
    rfl
  | cons first rest ih =>
    let next := loop.step E first s
    have hrest := ih next.value next.firewall
    change Outcome.mk (drive E (rest ++ [event]) next.value next.firewall).value
      (drive E (rest ++ [event]) next.value next.firewall).firewall
      (next.trace ++ (drive E (rest ++ [event]) next.value next.firewall).trace) = _
    rw [hrest]
    exact congrArg (Outcome.mk _ _) (List.append_assoc ..).symm

end EvaluationLoop

namespace Daemon

/-! ## One occurrence -/

/-- What the main task does when it goes on: the events that it logs, and where it comes to. -/
inductive Goes (d : Daemon) : List Event → MainStage → Prop where
  /-- It waits on, as what it waits for has not come, or it has left. -/
  | stays : (∀ reason, d.main ≠ .stopping reason) →
      (∀ reason, d.main = .releasing reason → d.released? = none) → Goes d [] d.main
  /-- A cancellation has come. -/
  | stops : d.main = .waiting → d.cancelled = true →
      Goes d [Shutdown.reasonEvent .internal] (.stopping .internal)
  /-- The captures have ended, or the grace period is over. -/
  | releases {reason : ShutdownReason} : d.main = .stopping reason →
      Goes d [Shutdown.endEvent (d.captures.all (·.stage.hasEnded))] (.releasing reason)
  /-- The evaluation loop has ended. -/
  | leaves {reason : ShutdownReason} {released : Nat} : d.main = .releasing reason →
      d.released? = some released →
      Goes d [releasedEvent released, countsEvent d.loop.monitor]
        (.left (if d.failed then .internal else reason))

/-- What the main task does next moves nothing but itself. -/
theorem goes_proceed (d : Daemon) :
    d.Goes d.proceed.1 d.proceed.2.main ∧ d.proceed.2 = { d with main := d.proceed.2.main } := by
  unfold proceed
  split
  · rename_i hmain
    split
    · rename_i hcancelled
      refine ⟨.stops hmain hcancelled, ?_⟩
      rw [stop, ← hcancelled]
    · exact ⟨.stays (by simp [hmain]) (by simp [hmain]), rfl⟩
  · rename_i reason hmain
    exact ⟨.releases hmain, rfl⟩
  · rename_i reason hmain
    split
    · rename_i hworking
      exact ⟨.stays (by simp [hmain]) fun _ _ => hworking, rfl⟩
    · rename_i released hreleased
      exact ⟨.leaves hmain hreleased, rfl⟩
  · rename_i reason hmain
    exact ⟨.stays (by simp [hmain]) (by simp [hmain]), rfl⟩

/-- What an occurrence makes of a daemon and of the firewall. -/
inductive Moves (E : Enforcer σ) (d : Daemon) (s : σ) : Occurrence → Outcome σ Daemon → Prop where
  /-- A capture task begins, or looks at the cancellation. -/
  | turn {task : Nat} {capture : CaptureTask} : d.captures[task]? = some capture →
      Moves E d s (.turn task)
        ⟨d.place task (capture.stage.turn d.cancelled), s,
          (turnEvents d.cancelled capture).map .event⟩
  /-- There is no such task. -/
  | absent {task : Nat} : d.captures[task]? = none → Moves E d s (.turn task) ⟨d, s, []⟩
  /-- A read yields a packet. -/
  | packet {task : Nat} {reading : Reading} {interface : String} {r : Record} :
      d.captures[task]? = some ⟨interface, .reading⟩ →
      reading.polled interface d.tcpOnly = .packet r →
      Moves E d s (.read task reading)
        ⟨{ d.place task .looking with loop.monitor := (d.loop.monitor.ingest r).2 }, s, []⟩
  /-- A read yields nothing. -/
  | nothing {task : Nat} {reading : Reading} {interface : String} :
      d.captures[task]? = some ⟨interface, .reading⟩ →
      reading.polled interface d.tcpOnly = .nothing →
      Moves E d s (.read task reading) ⟨d.place task .looking, s, []⟩
  /-- A read fails and cancels everything. -/
  | failed {task : Nat} {reading : Reading} {interface : String} {e : CaptureError} :
      d.captures[task]? = some ⟨interface, .reading⟩ →
      reading.polled interface d.tcpOnly = .failed e →
      Moves E d s (.read task reading)
        ⟨{ d.place task (.failed e) with failed := true, cancelled := true }, s,
          [.event (CaptureRun.failedEvent interface e)]⟩
  /-- No read of the task waits. -/
  | unread {task : Nat} {reading : Reading} :
      (∀ interface, d.captures[task]? ≠ some ⟨interface, .reading⟩) →
      Moves E d s (.read task reading) ⟨d, s, []⟩
  /-- The evaluation loop ticks. -/
  | tick {now : Instant} {failure : Option FileFault} : d.released? = none →
      Moves E d s (.tick now failure)
        ⟨{ d with loop := (d.loop.step E (.tick now failure) s).value },
          (d.loop.step E (.tick now failure) s).firewall,
          (d.loop.step E (.tick now failure) s).trace⟩
  /-- The evaluation loop ticks no more. -/
  | late {now : Instant} {failure : Option FileFault} : d.released? ≠ none →
      Moves E d s (.tick now failure) ⟨d, s, []⟩
  /-- The evaluation loop ends. -/
  | finish : d.cancelled = true → d.released? = none →
      Moves E d s .finish
        ⟨{ d with
            loop := (d.loop.finish E s).value.2
            released? := some (d.loop.finish E s).value.1 },
          (d.loop.finish E s).firewall, (d.loop.finish E s).trace⟩
  /-- The evaluation loop need not end, or has ended. -/
  | unfinished : (d.cancelled = true → d.released? ≠ none) → Moves E d s .finish ⟨d, s, []⟩
  /-- A signal is seen. -/
  | signal : d.main = .waiting →
      Moves E d s .signal
        ⟨{ d with cancelled := true, main := .stopping .signal }, s,
          [.event (Shutdown.reasonEvent .signal)]⟩
  /-- A signal comes too late. -/
  | ignored : d.main ≠ .waiting → Moves E d s .signal ⟨d, s, []⟩
  /-- The main task goes on. -/
  | proceed {events : List Event} {stage : MainStage} : d.Goes events stage →
      Moves E d s .proceed ⟨{ d with main := stage }, s, events.map .event⟩

theorem moves_read (E : Enforcer σ) (d : Daemon) (task : Nat) (reading : Reading) (s : σ) :
    d.Moves E s (.read task reading) (report (d.read task reading) s) := by
  rw [Daemon.read]
  cases hcapture : d.captures[task]? with
  | none => exact .unread (by simp [hcapture])
  | some capture =>
    obtain ⟨interface, stage⟩ := capture
    dsimp only
    by_cases hstage : stage = .reading
    case neg =>
      rw [if_neg hstage]
      exact .unread (by simp [hcapture, hstage])
    case pos =>
      subst hstage
      rw [if_pos rfl]
      cases hpolled : reading.polled interface d.tcpOnly with
      | packet r => exact .packet hcapture hpolled
      | nothing => exact .nothing hcapture hpolled
      | failed e => exact .failed hcapture hpolled

/-- **Everything that an occurrence can do.** -/
theorem moves_step (E : Enforcer σ) (d : Daemon) (x : Occurrence) (s : σ) :
    d.Moves E s x (d.step E x s) := by
  cases x with
  | turn task =>
    change d.Moves E s _ (report (d.turn task) s)
    rw [Daemon.turn]
    cases hcapture : d.captures[task]? with
    | none => exact .absent hcapture
    | some capture => exact .turn hcapture
  | read task reading => exact moves_read E d task reading s
  | tick now failure =>
    by_cases hended : d.released?.isSome = true
    case pos =>
      rw [step, if_pos hended]
      exact .late (Option.isSome_iff_ne_none.mp hended)
    case neg =>
      have hticked : d.step E (.tick now failure) s =
          ⟨{ d with loop := (d.loop.step E (.tick now failure) s).value },
            (d.loop.step E (.tick now failure) s).firewall,
            (d.loop.step E (.tick now failure) s).trace⟩ := by
        rw [step, if_neg hended]
        exact congrArg (Outcome.mk _ _) (List.append_nil _)
      rw [hticked]
      exact .tick (by simpa using hended)
  | finish =>
    by_cases hfinish : (d.cancelled && d.released?.isNone) = true
    case pos =>
      obtain ⟨hcancelled, hworking⟩ : d.cancelled = true ∧ d.released? = none := by
        simpa using hfinish
      have hfinished : d.step E .finish s =
          ⟨{ d with
              loop := (d.loop.finish E s).value.2
              released? := some (d.loop.finish E s).value.1 },
            (d.loop.finish E s).firewall, (d.loop.finish E s).trace⟩ := by
        rw [step, if_pos hfinish]
        exact congrArg (Outcome.mk _ _) (List.append_nil _)
      rw [hfinished]
      exact .finish hcancelled hworking
    case neg =>
      rw [step, if_neg hfinish]
      refine .unfinished fun hcancelled hworking => hfinish ?_
      rw [hcancelled, hworking]
      rfl
  | signal =>
    change d.Moves E s _ (report (if d.main = .waiting then d.stop .signal else ([], d)) s)
    split
    · rename_i hmain
      exact .signal hmain
    · rename_i hmain
      exact .ignored hmain
  | proceed =>
    obtain ⟨hgoes, hnext⟩ := d.goes_proceed
    change d.Moves E s _ ⟨d.proceed.2, s, d.proceed.1.map .event⟩
    rw [hnext]
    exact .proceed hgoes

/-! ## What the evaluation loop hears -/

/-- What an occurrence is to the evaluation loop: a packet that a capture was waiting for, a tick
before the end of the loop, or nothing. -/
def eventOf? (d : Daemon) : Occurrence → Option LoopEvent
  | .read task reading => do
    let capture ← d.captures[task]?
    guard (capture.stage = .reading)
    let r ← (Poll.mk (reading.polled capture.interface d.tcpOnly) d.cancelled).packet?
    return .packet r
  | .tick now failure => if d.released?.isSome then none else some (.tick now failure)
  | .turn _ | .finish | .signal | .proceed => none

/-- What the evaluation loop hears of occurrences, in their order. -/
def heard (E : Enforcer σ) : List Occurrence → Daemon → σ → List LoopEvent
  | [], _, _ => []
  | x :: rest, d, s =>
    (d.eventOf? x).toList ++ heard E rest (d.step E x s).value (d.step E x s).firewall

theorem eventOf?_read {d : Daemon} {task : Nat} {interface : String}
    (h : d.captures[task]? = some ⟨interface, .reading⟩) (reading : Reading) :
    d.eventOf? (.read task reading) =
      (Poll.mk (reading.polled interface d.tcpOnly) d.cancelled).packet?.map .packet := by
  rw [eventOf?, h, Option.map_eq_bind]
  rfl

theorem eventOf?_of_unread {d : Daemon} {task : Nat}
    (h : ∀ interface, d.captures[task]? ≠ some ⟨interface, .reading⟩) (reading : Reading) :
    d.eventOf? (.read task reading) = none := by
  rw [eventOf?]
  cases hcapture : d.captures[task]? with
  | none => rfl
  | some capture =>
    obtain ⟨interface, stage⟩ := capture
    have hstage : stage ≠ .reading := by
      rintro rfl
      exact h interface hcapture
    simp [hstage, guard]

/-- What an occurrence makes of the evaluation loop of a daemon, if it is this to it. -/
inductive Stirs (E : Enforcer σ) (d : Daemon) (s : σ) (out : Outcome σ Daemon) :
    Option LoopEvent → Prop where
  /-- Nothing. -/
  | idle : out.value.loop = d.loop → out.value.released? = d.released? → out.firewall = s →
      calls out.trace = [] → Stirs E d s out none
  /-- An event, which is a packet if the loop has ended. -/
  | event {event : LoopEvent} : (d.released? ≠ none → ∃ r, event = .packet r) →
      out.value.loop = (d.loop.step E event s).value → out.value.released? = d.released? →
      out.firewall = (d.loop.step E event s).firewall →
      calls out.trace = calls (d.loop.step E event s).trace → Stirs E d s out (some event)
  /-- Its end, after a cancellation. -/
  | finish : d.cancelled = true → d.released? = none →
      out.value.loop = (d.loop.finish E s).value.2 →
      out.value.released? = some (d.loop.finish E s).value.1 →
      out.firewall = (d.loop.finish E s).firewall →
      calls out.trace = calls (d.loop.finish E s).trace → Stirs E d s out none

/-- **An occurrence** is no matter of the evaluation loop, an event of it, or its end. -/
theorem Moves.stirs {E : Enforcer σ} {d : Daemon} {s : σ} {x : Occurrence} {out : Outcome σ Daemon}
    (h : d.Moves E s x out) : Stirs E d s out (d.eventOf? x) := by
  cases h with
  | turn | proceed => exact .idle rfl rfl rfl (Emission.calls_map_event _)
  | absent | unfinished | ignored => exact .idle rfl rfl rfl rfl
  | signal => exact .idle rfl rfl rfl rfl
  | packet hcapture hpolled =>
    rw [eventOf?_read hcapture, hpolled]
    exact .event (fun _ => ⟨_, rfl⟩) rfl rfl rfl rfl
  | nothing hcapture hpolled | failed hcapture hpolled =>
    rw [eventOf?_read hcapture, hpolled]
    exact .idle rfl rfl rfl rfl
  | unread hunread =>
    rw [eventOf?_of_unread hunread]
    exact .idle rfl rfl rfl rfl
  | tick hworking =>
    rw [eventOf?, if_neg (by simp [hworking])]
    exact .event (fun hended => absurd hworking hended) rfl rfl rfl rfl
  | late hended =>
    rw [eventOf?, if_pos (Option.isSome_iff_ne_none.mpr hended)]
    exact .idle rfl rfl rfl rfl
  | finish hcancelled hworking => exact .finish hcancelled hworking rfl rfl rfl rfl

/-! ## The evaluation loop of a daemon -/

/-- What became of a daemon that began with an evaluation loop and heard some events: the loop goes
through an execution, and packets may come after its end. -/
inductive Follows (E : Enforcer σ) (loop : EvaluationLoop) (s : σ) (out : Outcome σ Daemon) :
    List LoopEvent → Prop where
  /-- The loop is at work. -/
  | driven {events : List LoopEvent} : out.value.released? = none →
      out.value.loop = (loop.drive E events s).value →
      out.firewall = (loop.drive E events s).firewall →
      calls out.trace = calls (loop.drive E events s).trace → Follows E loop s out events
  /-- The loop has ended. -/
  | ended {events : List LoopEvent} {packets : List Record} :
      out.value.released? = some (loop.run E events s).value.1 →
      out.value.loop =
        { (loop.run E events s).value.2 with
          monitor := (loop.run E events s).value.2.monitor.ingestAll packets } →
      out.firewall = (loop.run E events s).firewall →
      calls out.trace = calls (loop.run E events s).trace →
      Follows E loop s out (events ++ packets.map .packet)

/-- An occurrence keeps the evaluation loop on its way. -/
theorem Follows.step {E : Enforcer σ} {loop : EvaluationLoop} {s : σ} {out : Outcome σ Daemon}
    {past : List LoopEvent} (h : Follows E loop s out past) {next : Outcome σ Daemon}
    {event? : Option LoopEvent} (hnext : Stirs E out.value out.firewall next event?) :
    Follows E loop s ⟨next.value, next.firewall, out.trace ++ next.trace⟩
      (past ++ event?.toList) := by
  cases h with
  | driven hworking hloop hfirewall hcalls =>
    cases hnext with
    | idle hloop' hreleased' hfirewall' hcalls' =>
      rw [Option.toList_none, List.append_nil]
      refine .driven (hreleased'.trans hworking) (hloop'.trans hloop)
        (hfirewall'.trans hfirewall) ?_
      rw [Emission.calls_append, hcalls', List.append_nil, hcalls]
    | @event event _ hloop' hreleased' hfirewall' hcalls' =>
      rw [hloop, hfirewall] at hloop' hfirewall' hcalls'
      have hdrive := EvaluationLoop.drive_concat E past event loop s
      refine .driven (hreleased'.trans hworking) ?_ ?_ ?_
      · rw [Option.toList_some, hdrive]; exact hloop'
      · rw [Option.toList_some, hdrive]; exact hfirewall'
      · rw [Option.toList_some, hdrive, Emission.calls_append, hcalls, hcalls', Action.trace_bind,
          Emission.calls_append]
    | finish _ _ hloop' hreleased' hfirewall' hcalls' =>
      rw [hloop, hfirewall] at hloop' hreleased' hfirewall' hcalls'
      have hrun := EvaluationLoop.run_apply E past loop s
      have hended : Follows E loop s ⟨next.value, next.firewall, out.trace ++ next.trace⟩
          (past ++ ([] : List Record).map .packet) := by
        refine .ended ?_ ?_ ?_ ?_
        · rw [hrun]; exact hreleased'
        · rw [hrun]; exact hloop'
        · rw [hrun]; exact hfirewall'
        · rw [hrun, Emission.calls_append, hcalls, hcalls', Action.trace_bind,
            Emission.calls_append]
      exact hended
  | @ended events packets hreleased hloop hfirewall hcalls =>
    cases hnext with
    | idle hloop' hreleased' hfirewall' hcalls' =>
      rw [Option.toList_none, List.append_nil]
      refine .ended (hreleased'.trans hreleased) (hloop'.trans hloop)
        (hfirewall'.trans hfirewall) ?_
      rw [Emission.calls_append, hcalls', List.append_nil, hcalls]
    | event hpacket hloop' hreleased' hfirewall' hcalls' =>
      -- after the end only packets come, which ask the firewall nothing
      obtain ⟨r, rfl⟩ := hpacket (by rw [hreleased]; exact Option.some_ne_none _)
      have hlater : events ++ packets.map .packet ++ (some (LoopEvent.packet r)).toList =
          events ++ (packets ++ [r]).map .packet := by
        rw [Option.toList_some, List.map_append, List.append_assoc]
        rfl
      rw [hlater]
      refine .ended (hreleased'.trans hreleased) ?_ (hfirewall'.trans hfirewall) ?_
      · rw [hloop', hloop, Monitor.ingestAll_append]
        rfl
      · rw [Emission.calls_append, hcalls', hcalls]
        exact List.append_nil _
    | finish _ hworking => rw [hreleased] at hworking; cases hworking

/-- Occurrences keep it on its way. -/
theorem Follows.run {E : Enforcer σ} {loop : EvaluationLoop} {s : σ} (xs : List Occurrence)
    {out : Outcome σ Daemon} {past : List LoopEvent} (h : Follows E loop s out past) :
    Follows E loop s
      ⟨(out.value.run E xs out.firewall).value, (out.value.run E xs out.firewall).firewall,
        out.trace ++ (out.value.run E xs out.firewall).trace⟩
      (past ++ out.value.heard E xs out.firewall) := by
  induction xs generalizing out past with
  | nil =>
    change Follows E loop s ⟨out.value, out.firewall, out.trace ++ []⟩ (past ++ [])
    rw [List.append_nil, List.append_nil]
    exact h
  | cons x later ih =>
    have hlater := ih (h.step (moves_step E out.value x out.firewall).stirs)
    dsimp only at hlater
    rw [List.append_assoc, List.append_assoc] at hlater
    exact hlater

/-- **The evaluation loop of a daemon** goes through an execution of what it hears, in whatever
order its tasks take their steps. -/
theorem follows_run (E : Enforcer σ) {d : Daemon} (hworking : d.released? = none)
    (xs : List Occurrence) (s : σ) : Follows E d.loop s (d.run E xs s) (d.heard E xs s) := by
  have hbegin : Follows E d.loop s ⟨d, s, []⟩ [] := .driven hworking rfl rfl rfl
  exact hbegin.run xs

/-! ## The cancellation and the main task -/

/-- What holds of a daemon at every time. -/
structure Sound (d : Daemon) : Prop where
  /-- Everything is cancelled once the main task waits no longer. -/
  cancelled_of_main : d.main ≠ .waiting → d.cancelled = true
  /-- Everything is cancelled once a capture has failed. -/
  cancelled_of_failed : d.failed = true → d.cancelled = true
  /-- The evaluation loop ends before the main task leaves. -/
  released_of_left : ∀ reason, d.main = .left reason → d.released? ≠ none

/-- A daemon that has not begun. -/
structure Fresh (d : Daemon) : Prop where
  /-- The main task waits. -/
  main : d.main = .waiting
  /-- The evaluation loop has not ended. -/
  released : d.released? = none
  /-- No capture has failed. -/
  failed : d.failed = false

/-- The daemon of a configuration has not begun. -/
theorem fresh_ofConfig (c : Config) (start : Instant) : (ofConfig c start).Fresh :=
  ⟨rfl, rfl, rfl⟩

theorem Fresh.sound {d : Daemon} (h : d.Fresh) : d.Sound where
  cancelled_of_main hmain := absurd h.main hmain
  cancelled_of_failed hfailed := by rw [h.failed] at hfailed; cases hfailed
  released_of_left reason hleft := by rw [h.main] at hleft; cases hleft

/-- **Every occurrence** keeps a daemon sound. -/
theorem Sound.moves {E : Enforcer σ} {d : Daemon} (h : d.Sound) {s : σ} {x : Occurrence}
    {out : Outcome σ Daemon} (hmoves : d.Moves E s x out) : out.value.Sound := by
  obtain ⟨hmain, hfailed, hleft⟩ := h
  cases hmoves with
  | turn | absent | packet | nothing | unread => exact ⟨hmain, hfailed, hleft⟩
  | tick | late | unfinished | ignored => exact ⟨hmain, hfailed, hleft⟩
  | failed => exact ⟨fun _ => rfl, fun _ => rfl, hleft⟩
  | finish => exact ⟨hmain, hfailed, fun _ _ => Option.some_ne_none _⟩
  | signal => exact ⟨fun _ => rfl, fun _ => rfl, nofun⟩
  | proceed hgoes =>
    cases hgoes with
    | stays => exact ⟨hmain, hfailed, hleft⟩
    | stops _ hcancelled => exact ⟨fun _ => hcancelled, fun _ => hcancelled, nofun⟩
    | releases hstopping =>
      have hcancelled := hmain (by rw [hstopping]; nofun)
      exact ⟨fun _ => hcancelled, fun _ => hcancelled, nofun⟩
    | leaves hreleasing hreleased =>
      have hcancelled := hmain (by rw [hreleasing]; nofun)
      exact ⟨fun _ => hcancelled, fun _ => hcancelled, fun _ _ => by simp [hreleased]⟩

/-- **A daemon is sound at every time.** -/
theorem Sound.run {d : Daemon} (h : d.Sound) (E : Enforcer σ) (xs : List Occurrence) (s : σ) :
    (d.run E xs s).value.Sound := by
  induction xs generalizing d s with
  | nil => exact h
  | cons x rest ih => exact ih (h.moves (moves_step E d x s)) _

/-- **A daemon that has left** has released every block: it made the calls of a whole execution of
its evaluation loop and left the firewall as that does, it logged the number of blocks that there
were at the end, and nobody is blocked any more. -/
theorem cleared_of_left (E : Enforcer σ) {d : Daemon} (hfresh : d.Fresh) (xs : List Occurrence)
    (s : σ) {reason : ShutdownReason} (hleft : (d.run E xs s).value.main = .left reason) :
    let out := d.run E xs s
    ∃ (events : List LoopEvent) (packets : List Record),
      d.heard E xs s = events ++ packets.map .packet ∧
      calls out.trace = calls (d.loop.run E events s).trace ∧
      out.firewall = (d.loop.run E events s).firewall ∧
      out.value.released? = some (d.loop.run E events s).value.1 ∧
      out.value.loop.monitor.blocks.table = .empty := by
  intro out
  have hended := (hfresh.sound.run E xs s).released_of_left reason hleft
  have hfollows := follows_run E hfresh.released xs s
  generalize hheard : d.heard E xs s = past at hfollows
  cases hfollows with
  | driven hworking => exact absurd hworking hended
  | @ended events packets hreleased hloop hfirewall hcalls =>
    refine ⟨events, packets, rfl, hcalls, hfirewall, hreleased, ?_⟩
    have hempty : (d.loop.run E events s).value.2.monitor.blocks.table = .empty := by
      rw [EvaluationLoop.run_apply]
      exact (EvaluationLoop.value_finish E _ _).2
    rw [hloop, ← hempty]
    exact congrArg Blocks.table (Monitor.blocks_ingestAll _ packets)

/-! ## The end -/

/-- The main task is beyond its wait for the captures. -/
def Beyond (stage : MainStage) : Prop :=
  ∃ reason, stage = .releasing reason ∨ stage = .left reason

theorem Goes.beyond {d : Daemon} {events : List Event} {stage : MainStage} (h : d.Goes events stage)
    (hmain : d.main ≠ .waiting) : Beyond stage := by
  cases h with
  | stays hstopping _ =>
    cases h : d.main with
    | waiting => exact absurd h hmain
    | stopping reason => exact absurd h (hstopping reason)
    | releasing reason => exact ⟨reason, Or.inl rfl⟩
    | left reason => exact ⟨reason, Or.inr rfl⟩
  | stops hwaiting => exact absurd hwaiting hmain
  | releases _ => exact ⟨_, Or.inl rfl⟩
  | leaves _ _ => exact ⟨_, Or.inr rfl⟩

theorem Goes.left {d : Daemon} {events : List Event} {stage : MainStage} (h : d.Goes events stage)
    (hmain : Beyond d.main) (hended : d.released? ≠ none) : ∃ reason, stage = .left reason := by
  obtain ⟨reason, hreleasing | hleft⟩ := hmain
  · cases h with
    | stays _ hworking => exact absurd (hworking reason hreleasing) hended
    | leaves _ _ => exact ⟨_, rfl⟩
    | stops h | releases h => rw [hreleasing] at h; cases h
  · cases h with
    | stays _ _ => exact ⟨reason, hleft⟩
    | stops h | releases h | leaves h _ => rw [hleft] at h; cases h

/-- A signal ends the wait of the main task. -/
theorem Moves.main_signal {E : Enforcer σ} {d : Daemon} {s : σ} {out : Outcome σ Daemon}
    (h : d.Moves E s .signal out) : out.value.main ≠ .waiting := by
  cases h with
  | signal _ => nofun
  | ignored hmain => exact hmain

/-- The evaluation loop can end once everything is cancelled. -/
theorem Moves.released_finish {E : Enforcer σ} {d : Daemon} {s : σ} {out : Outcome σ Daemon}
    (h : d.Moves E s .finish out) (hcancelled : d.cancelled = true) :
    out.value.main = d.main ∧ out.value.released? ≠ none := by
  cases h with
  | finish _ _ => exact ⟨rfl, Option.some_ne_none _⟩
  | unfinished hended => exact ⟨rfl, hended hcancelled⟩

/-- The main task goes on from where it is. -/
theorem Moves.goes_proceed {E : Enforcer σ} {d : Daemon} {s : σ} {out : Outcome σ Daemon}
    (h : d.Moves E s .proceed out) : ∃ events, d.Goes events out.value.main := by
  cases h with
  | proceed hgoes => exact ⟨_, hgoes⟩

/-- What closes a daemon: a signal, and then steps of the main task and of the evaluation loop,
whether the captures have ended or not. -/
def closing : List Occurrence := [.signal, .proceed, .finish, .proceed]

/-- **After a signal the daemon can leave**, whatever has happened before. -/
theorem exists_left (E : Enforcer σ) {d : Daemon} (hfresh : d.Fresh) (xs : List Occurrence)
    (s : σ) :
    let out := d.run E xs s
    ∃ reason, (out.value.run E closing out.firewall).value.main = .left reason := by
  intro out
  have hsound : out.value.Sound := hfresh.sound.run E xs s
  -- the main task stops waiting, goes beyond the captures, and waits for the evaluation loop
  let first := out.value.step E .signal out.firewall
  have hfirst := moves_step E out.value .signal out.firewall
  let second := first.value.step E .proceed first.firewall
  have hsecond := moves_step E first.value .proceed first.firewall
  have hbeyond : Beyond second.value.main :=
    have ⟨_, hgoes⟩ := hsecond.goes_proceed
    hgoes.beyond hfirst.main_signal
  have hcancelled : second.value.cancelled = true := by
    refine ((hsound.moves hfirst).moves hsecond).cancelled_of_main fun hwaiting => ?_
    obtain ⟨reason, hmain | hmain⟩ := hbeyond <;> rw [hwaiting] at hmain <;> cases hmain
  let third := second.value.step E .finish second.firewall
  obtain ⟨hmain, hended⟩ :=
    (moves_step E second.value .finish second.firewall).released_finish hcancelled
  have hthird : Beyond third.value.main := hmain ▸ hbeyond
  obtain ⟨_, hgoes⟩ := (moves_step E third.value .proceed third.firewall).goes_proceed
  exact hgoes.left hthird hended

theorem Goes.reason? {d : Daemon} {events : List Event} {stage : MainStage}
    (h : d.Goes events stage) (hsignal : stage.reason? = some .signal) :
    d.main.reason? = some .signal := by
  cases h with
  | stays _ _ => exact hsignal
  | stops _ => cases hsignal
  | releases hmain => rwa [hmain]
  | leaves hmain _ =>
    rw [hmain]
    cases hfailed : d.failed with
    | true => rw [hfailed] at hsignal; cases hsignal
    | false => rwa [hfailed] at hsignal

theorem Goes.code? {d : Daemon} {events : List Event} {stage : MainStage} (h : d.Goes events stage)
    (hzero : stage.code? = some 0) :
    d.main.code? = some 0 ∨ d.failed = false ∧ d.main.reason? = some .signal := by
  cases h with
  | stays _ _ => exact Or.inl hzero
  | stops _ | releases _ => cases hzero
  | @leaves reason _ hmain _ =>
    rw [hmain]
    cases hfailed : d.failed with
    | true => rw [hfailed] at hzero; cases hzero
    | false =>
      rw [hfailed] at hzero
      cases reason with
      | signal => exact Or.inr ⟨rfl, rfl⟩
      | internal => cases hzero

/-- After an occurrence the main task has a signal as its reason only if it had it before or one
came. -/
theorem Moves.reason? {E : Enforcer σ} {d : Daemon} {s : σ} {x : Occurrence}
    {out : Outcome σ Daemon} (h : d.Moves E s x out)
    (hsignal : out.value.main.reason? = some .signal) :
    d.main.reason? = some .signal ∨ x = .signal := by
  cases h with
  | signal => exact Or.inr rfl
  | proceed hgoes => exact Or.inl (hgoes.reason? hsignal)
  | turn | absent | packet | nothing | failed | unread => exact Or.inl hsignal
  | tick | late | finish | unfinished | ignored => exact Or.inl hsignal

/-- After an occurrence the exit code is zero only if it was before or the main task left. -/
theorem Moves.code? {E : Enforcer σ} {d : Daemon} {s : σ} {x : Occurrence} {out : Outcome σ Daemon}
    (h : d.Moves E s x out) (hzero : out.value.main.code? = some 0) :
    d.main.code? = some 0 ∨
      x = .proceed ∧ d.failed = false ∧ d.main.reason? = some .signal := by
  cases h with
  | signal => cases hzero
  | proceed hgoes => exact (hgoes.code? hzero).imp_right fun hleft => ⟨rfl, hleft⟩
  | turn | absent | packet | nothing | failed | unread => exact Or.inl hzero
  | tick | late | finish | unfinished | ignored => exact Or.inl hzero

/-- **A daemon exits with code zero** only after a signal, and only if no capture had failed by the
time it left. -/
theorem exists_of_code?_eq_zero (E : Enforcer σ) {d : Daemon} (hfresh : d.Fresh)
    (xs : List Occurrence) (s : σ) (h : (d.run E xs s).value.main.code? = some 0) :
    ∃ past later, xs = past ++ .proceed :: later ∧ .signal ∈ past ∧
      (d.run E past s).value.failed = false := by
  -- for any daemon on its way: it had left before, or it had its reason before or gets it now
  have hall : ∀ (xs : List Occurrence) (d : Daemon) (s : σ),
      (d.run E xs s).value.main.code? = some 0 → d.main.code? = some 0 ∨
        ∃ past later, xs = past ++ .proceed :: later ∧
          (d.main.reason? = some .signal ∨ .signal ∈ past) ∧
            (d.run E past s).value.failed = false := by
    intro xs
    induction xs with
    | nil => exact fun d s h => Or.inl h
    | cons x rest ih =>
      intro d s h
      rcases ih (d.step E x s).value (d.step E x s).firewall h with hzero | hlater
      · refine ((moves_step E d x s).code? hzero).imp_right fun ⟨hproceed, hfailed, hreason⟩ => ?_
        exact ⟨[], rest, by rw [hproceed]; rfl, Or.inl hreason, hfailed⟩
      · obtain ⟨past, later, rfl, hreason, hfailed⟩ := hlater
        refine Or.inr ⟨x :: past, later, rfl, ?_, hfailed⟩
        rcases hreason with hreason | hpast
        · refine ((moves_step E d x s).reason? hreason).imp_right fun hsignal => ?_
          rw [hsignal]
          exact List.mem_cons_self
        · exact Or.inr (List.mem_cons_of_mem _ hpast)
  rcases hall xs d s h with hzero | ⟨past, later, hxs, hreason, hfailed⟩
  · rw [hfresh.main] at hzero; cases hzero
  · refine ⟨past, later, hxs, hreason.resolve_left fun hsignal => ?_, hfailed⟩
    rw [hfresh.main] at hsignal; cases hsignal

/-! ## A capture task by itself -/

/-- What happens while a capture task makes reads and nothing else goes on but for a signal, which
may come while a read waits. -/
def ofReads (task : Nat) : List (Reading × Bool) → List Occurrence
  | [] => [.turn task]
  | (reading, cancels) :: rest =>
    .turn task :: ((if cancels then [.signal] else []) ++ .read task reading :: ofReads task rest)

/-- How a capture task stands where the capture loop stands. -/
def stageOf : CaptureEnd → CaptureStage
  | .stopped => .stopped
  | .failed e => .failed e
  | .waiting => .reading

section Alone

variable (E : Enforcer σ) {d : Daemon} {task : Nat} {interface : String}

theorem captures_place (d : Daemon) (task : Nat) (stage : CaptureStage) :
    (d.place task stage).captures[task]? = d.captures[task]?.map ({ · with stage }) := by
  simp [place]

/-- A capture task that has ended rests, whatever would be its turn. -/
theorem Moves.rests {E : Enforcer σ} {s : σ} {x : Occurrence} {out : Outcome σ Daemon}
    (h : d.Moves E s x out) {capture : CaptureTask} (hcapture : d.captures[task]? = some capture)
    (hended : capture.stage.hasEnded = true)
    (hx : x = .turn task ∨ (∃ reading, x = .read task reading) ∨ x = .signal) :
    out.value.captures[task]? = some capture ∧ out.value.loop = d.loop := by
  obtain ⟨interface, stage⟩ := capture
  rcases hx with rfl | ⟨reading, rfl⟩ | rfl
  · cases h with
    | turn hturned =>
      rw [hcapture] at hturned
      cases hturned
      refine ⟨?_, rfl⟩
      rw [captures_place, hcapture]
      cases stage with
      | stopped | failed e => rfl
      | spawned | looking | reading => cases hended
    | absent habsent => rw [hcapture] at habsent; cases habsent
  · cases h with
    | packet hreading _ | nothing hreading _ | failed hreading _ =>
      rw [hcapture] at hreading
      cases hreading
      cases hended
    | unread _ => exact ⟨hcapture, rfl⟩
  · cases h with
    | signal _ | ignored _ => exact ⟨hcapture, rfl⟩

theorem rests_run {xs : List Occurrence} {capture : CaptureTask}
    (hcapture : d.captures[task]? = some capture) (hended : capture.stage.hasEnded = true)
    (hxs : ∀ x ∈ xs, x = .turn task ∨ (∃ reading, x = .read task reading) ∨ x = .signal) (s : σ) :
    (d.run E xs s).value.captures[task]? = some capture ∧ (d.run E xs s).value.loop = d.loop := by
  induction xs generalizing d s with
  | nil => exact ⟨hcapture, rfl⟩
  | cons x rest ih =>
    obtain ⟨hx, hrest⟩ := List.forall_mem_cons.mp hxs
    obtain ⟨hnext, hloop⟩ := (moves_step E d x s).rests hcapture hended hx
    rw [← hloop]
    exact ih hnext hrest _

theorem mem_ofReads {script : List (Reading × Bool)} {x : Occurrence}
    (h : x ∈ ofReads task script) :
    x = .turn task ∨ (∃ reading, x = .read task reading) ∨ x = .signal := by
  induction script with
  | nil => exact Or.inl (List.mem_singleton.mp h)
  | cons first rest ih =>
    obtain ⟨reading, cancels⟩ := first
    rw [ofReads, List.mem_cons, List.mem_append, List.mem_cons] at h
    rcases h with rfl | hsignal | rfl | hrest
    · exact Or.inl rfl
    · cases cancels with
      | true => exact Or.inr (Or.inr (List.mem_singleton.mp hsignal))
      | false => cases hsignal
    · exact Or.inr (Or.inl ⟨reading, rfl⟩)
    · exact ih hrest

theorem turn_of_looking (hcapture : d.captures[task]? = some ⟨interface, .looking⟩) :
    (d.turn task).2 = d.place task (if d.cancelled then .stopped else .reading) := by
  rw [turn, hcapture]
  rfl

/-- A capture task that finds everything cancelled ends without a read, as the capture loop does. -/
theorem run_ofReads_of_cancelled (hcapture : d.captures[task]? = some ⟨interface, .looking⟩)
    (hcancelled : d.cancelled = true) (script : List (Reading × Bool)) (polls : List Poll) (s : σ) :
    let ran := capture d.cancelled polls d.loop.monitor
    let out := d.run E (ofReads task script) s
    out.value.captures[task]? = some ⟨interface, stageOf ran.ended⟩ ∧
      out.value.loop = { d.loop with monitor := ran.monitor } := by
  intro ran out
  have hran : ran = ⟨.stopped, 0, true, d.loop.monitor⟩ := by
    change capture d.cancelled polls d.loop.monitor = _
    rw [hcancelled, capture_true]
  have hturned : (d.turn task).2 = d.place task .stopped := by
    rw [turn_of_looking hcapture, hcancelled]
    rfl
  have hstopped : (d.place task .stopped).captures[task]? = some ⟨interface, .stopped⟩ := by
    rw [captures_place, hcapture]
    rfl
  obtain ⟨rest, hxs⟩ : ∃ rest, ofReads task script = .turn task :: rest := by
    cases script <;> exact ⟨_, rfl⟩
  have hrests : ∀ x ∈ rest,
      x = .turn task ∨ (∃ reading, x = .read task reading) ∨ x = .signal := fun x hx =>
    mem_ofReads (hxs ▸ List.mem_cons_of_mem _ hx : x ∈ ofReads task script)
  have hout : out.value = ((d.place task .stopped).run E rest s).value := by
    change (d.run E (ofReads task script) s).value = _
    rw [hxs, ← hturned]
    rfl
  rw [hran, hout]
  exact rests_run E hstopped rfl hrests s

/-- What comes before a read returns: the task looks, and a signal may come. -/
theorem run_until_read (hcapture : d.captures[task]? = some ⟨interface, .looking⟩)
    (hopen : d.cancelled = false) (hmain : d.main = .waiting) (cancels : Bool)
    (xs : List Occurrence) (s : σ) :
    ∃ d' : Daemon, (d.run E (.turn task :: ((if cancels then [.signal] else []) ++ xs)) s).value =
        (d'.run E xs s).value ∧
      d'.captures[task]? = some ⟨interface, .reading⟩ ∧ d'.loop = d.loop ∧
      d'.tcpOnly = d.tcpOnly ∧ d'.cancelled = cancels ∧
      (d'.cancelled = false → d'.main = .waiting) := by
  let looked := d.place task .reading
  have hlooked : (d.turn task).2 = looked := by
    rw [turn_of_looking hcapture, hopen]
    rfl
  have hreading : looked.captures[task]? = some ⟨interface, .reading⟩ := by
    rw [captures_place, hcapture]
    rfl
  have hrun : ∀ ys, (d.run E (.turn task :: ys) s).value = (looked.run E ys s).value := by
    intro ys
    change ((d.turn task).2.run E ys s).value = _
    rw [hlooked]
  cases cancels with
  | false => exact ⟨looked, hrun xs, hreading, rfl, rfl, hopen, fun _ => hmain⟩
  | true =>
    have hwaiting : looked.main = .waiting := hmain
    have hsignal : (looked.step E .signal s).value = (looked.stop .signal).2 := by
      change (if looked.main = .waiting then looked.stop .signal else ([], looked)).2 = _
      rw [if_pos hwaiting]
    refine ⟨(looked.stop .signal).2, (hrun (.signal :: xs)).trans ?_, hreading, rfl, rfl, rfl,
      nofun⟩
    change ((looked.step E .signal s).value.run E xs s).value = _
    rw [hsignal]

/-- **A capture task by itself** is the capture loop: it ends as the loop does, and leaves the
monitor as the loop does. -/
theorem run_ofReads (hcapture : d.captures[task]? = some ⟨interface, .looking⟩)
    (hmain : d.cancelled = false → d.main = .waiting) (script : List (Reading × Bool)) (s : σ) :
    let polls := script.map fun read => (⟨read.1.polled interface d.tcpOnly, read.2⟩ : Poll)
    let ran := capture d.cancelled polls d.loop.monitor
    let out := d.run E (ofReads task script) s
    out.value.captures[task]? = some ⟨interface, stageOf ran.ended⟩ ∧
      out.value.loop = { d.loop with monitor := ran.monitor } := by
  induction script generalizing d s with
  | nil =>
    by_cases hopen : d.cancelled = false
    case neg => exact run_ofReads_of_cancelled E hcapture (by simpa using hopen) [] [] s
    case pos =>
      have hlooked : (d.turn task).2 = d.place task .reading := by
        rw [turn_of_looking hcapture, hopen]
        rfl
      change (d.turn task).2.captures[task]? =
        some ⟨interface, stageOf (capture d.cancelled [] d.loop.monitor).ended⟩ ∧
        (d.turn task).2.loop =
          { d.loop with monitor := (capture d.cancelled [] d.loop.monitor).monitor }
      rw [hopen, hlooked, captures_place, hcapture]
      exact ⟨rfl, rfl⟩
  | cons first rest ih =>
    obtain ⟨reading, cancels⟩ := first
    by_cases hopen : d.cancelled = false
    case neg => exact run_ofReads_of_cancelled E hcapture (by simpa using hopen) _ _ s
    case pos =>
      obtain ⟨d', hrun, hreading, hloop, htcp, hcancels, hmain'⟩ :=
        run_until_read E hcapture hopen (hmain hopen) cancels
          (.read task reading :: ofReads task rest) s
      -- the read hands on what it yields, and after it the rest goes on from what that leaves
      have hrest : (d'.run E (.read task reading :: ofReads task rest) s).value =
          ((d'.read task reading).2.run E (ofReads task rest) s).value := rfl
      have hplaced : ∀ stage, (d'.place task stage).captures[task]? = some ⟨interface, stage⟩ := by
        intro stage
        rw [captures_place, hreading]
        rfl
      dsimp only
      rw [ofReads, hrun, hrest, hopen]
      cases hpolled : reading.polled interface d.tcpOnly with
      | packet r =>
        let next : Daemon :=
          { d'.place task .looking with loop.monitor := (d'.loop.monitor.ingest r).2 }
        have hread : (d'.read task reading).2 = next := by
          simp only [read, hreading, htcp, hpolled, if_true]
          rfl
        have hlater := ih (show next.captures[task]? = _ from hplaced .looking) hmain' s
        simp only [next, place, htcp, hcancels, hloop] at hlater hread
        rw [hread, List.map_cons, hpolled]
        exact hlater
      | nothing =>
        let next := d'.place task .looking
        have hread : (d'.read task reading).2 = next := by
          simp only [read, hreading, htcp, hpolled, if_true]
          rfl
        have hlater := ih (show next.captures[task]? = _ from hplaced .looking) hmain' s
        simp only [next, place, htcp, hcancels, hloop] at hlater hread
        rw [hread, List.map_cons, hpolled]
        exact hlater
      | failed e =>
        -- the task has ended, and whatever would be its turns does nothing
        let next : Daemon := { d'.place task (.failed e) with failed := true, cancelled := true }
        have hread : (d'.read task reading).2 = next := by
          simp only [read, hreading, htcp, hpolled, if_true]
          rfl
        have hrests := rests_run E (show next.captures[task]? = _ from hplaced (.failed e)) rfl
          (fun x hx => mem_ofReads hx : ∀ x ∈ ofReads task rest, _) s
        rw [hread, List.map_cons, hpolled]
        exact ⟨hrests.1, hrests.2.trans hloop⟩

end Alone

end Daemon

end SourceGuard
