import SourceGuard.Capture
import SourceGuard.Proofs.Watch

/-!
# What the capture loop does with a script

The loop goes on as long as a poll neither fails nor finds it cancelled. So a script comes apart in
two: the polls that were made, of which all but the last let the loop go on, and the rest, which the
loop never sees. What it leaves is told by the first part alone. Every packet of it is handed to the
monitor once and in order, also one that comes together with the cancellation, and an error ends the
loop without undoing anything and without cancelling it for others.

## Main definitions

* `Poll.packet?`, `Poll.error?`, `Poll.goesOn`: what a poll yields, and whether the loop goes on
* `Monitor.ingestAll`: the monitor after packets, one after another
* `Concluded`: how polls that were made and polls that were not end the loop

## Main results

* `capture_append`: polls after which the loop goes on
* `exists_concluded`, `capture_of_concluded`: every script comes apart, and what the loop does then
* `Monitor.window_ingestAll`: what packets put into the window
* `capture_exact`: the loop, by the polls that it made
-/

namespace SourceGuard

/-! ## Polls -/

namespace Poll

/-- The packet that a poll yields. -/
def packet? (poll : Poll) : Option Record :=
  match poll.yields with
  | .packet r => some r
  | .nothing | .failed _ => none

/-- The error that a poll yields. -/
def error? (poll : Poll) : Option CaptureError :=
  match poll.yields with
  | .failed e => some e
  | .packet _ | .nothing => none

/-- Whether the loop goes on after a poll: it did not fail, and the loop is not cancelled. -/
def goesOn (poll : Poll) : Bool := poll.error?.isNone && !poll.cancels

/-- A poll that fails yields no packet. -/
theorem packet?_of_error? {poll : Poll} {e : CaptureError} (h : poll.error? = some e) :
    poll.packet? = none := by
  obtain ⟨yields, cancels⟩ := poll
  cases yields with
  | packet | nothing => cases h
  | failed => rfl

end Poll

/-- How the loop comes to stand as it does, by the polls that were made and those that were not. -/
inductive Concluded (cancelled : Bool) : (made unread : List Poll) → CaptureEnd → Prop where
  /-- It was cancelled from the start. -/
  | never {unread : List Poll} : cancelled = true → Concluded cancelled [] unread .stopped
  /-- It saw the cancellation after the last poll, which did not fail. -/
  | stopped {past unread : List Poll} {last : Poll} : cancelled = false →
      (∀ poll ∈ past, poll.goesOn = true) → last.error? = none → last.cancels = true →
      Concluded cancelled (past ++ [last]) unread .stopped
  /-- The last poll failed. -/
  | failed {past unread : List Poll} {last : Poll} {e : CaptureError} : cancelled = false →
      (∀ poll ∈ past, poll.goesOn = true) → last.error? = some e →
      Concluded cancelled (past ++ [last]) unread (.failed e)
  /-- The script is at its end, and the loop would go on. -/
  | waiting {made : List Poll} : cancelled = false → (∀ poll ∈ made, poll.goesOn = true) →
      Concluded cancelled made [] .waiting

/-- **Every script comes apart** at the first poll after which the loop does not go on. -/
theorem exists_concluded (cancelled : Bool) (script : List Poll) :
    ∃ made unread ended, script = made ++ unread ∧ Concluded cancelled made unread ended := by
  cases hcancelled : cancelled with
  | true => exact ⟨[], script, .stopped, rfl, .never rfl⟩
  | false =>
    let past := script.takeWhile Poll.goesOn
    have hpast : ∀ poll ∈ past, poll.goesOn = true := List.all_eq_true.mp List.all_takeWhile
    have hsplit : past ++ script.dropWhile Poll.goesOn = script := List.takeWhile_append_dropWhile
    cases hrest : script.dropWhile Poll.goesOn with
    | nil => exact ⟨past, [], .waiting, by rw [← hrest, hsplit], .waiting rfl hpast⟩
    | cons last unread =>
      have hlast : last.goesOn = false := by
        have hne : script.dropWhile Poll.goesOn ≠ [] := by simp [hrest]
        have := List.head_dropWhile_not Poll.goesOn hne
        simpa [hrest] using this
      have hscript : script = past ++ [last] ++ unread := by
        rw [List.append_assoc, List.singleton_append, ← hrest, hsplit]
      cases herror : last.error? with
      | some e => exact ⟨past ++ [last], unread, .failed e, hscript, .failed rfl hpast herror⟩
      | none =>
        have hcancels : last.cancels = true := by simpa [Poll.goesOn, herror] using hlast
        exact ⟨past ++ [last], unread, .stopped, hscript, .stopped rfl hpast herror hcancels⟩

/-- What comes after the polls that were made makes no difference, unless the loop waits for it. -/
theorem Concluded.unread {cancelled : Bool} {made unread : List Poll} {ended : CaptureEnd}
    (h : Concluded cancelled made unread ended) (hended : ended ≠ .waiting) (other : List Poll) :
    Concluded cancelled made other ended := by
  cases h with
  | never hcancelled => exact .never hcancelled
  | stopped hopen hpast herror hcancels => exact .stopped hopen hpast herror hcancels
  | failed hopen hpast herror => exact .failed hopen hpast herror
  | waiting => exact absurd rfl hended

/-! ## Packets -/

namespace Monitor

/-- The monitor after packets, one after another. -/
def ingestAll (m : Monitor) (packets : List Record) : Monitor :=
  packets.foldl (fun m r => (m.ingest r).2) m

theorem ingestAll_append (m : Monitor) (packets packets' : List Record) :
    m.ingestAll (packets ++ packets') = (m.ingestAll packets).ingestAll packets' :=
  List.foldl_append

/-- Packets leave the blocks as they are. -/
theorem blocks_ingestAll (m : Monitor) (packets : List Record) :
    (m.ingestAll packets).blocks = m.blocks := by
  induction packets generalizing m with
  | nil => rfl
  | cons r rest ih => exact (ih (m.ingest r).2).trans (blocks_ingest m r)

/-- Packets leave the settings as they are. -/
theorem settings_ingestAll (m : Monitor) (packets : List Record) :
    (m.ingestAll packets).settings = m.settings := by
  induction packets generalizing m with
  | nil => rfl
  | cons r rest ih => exact (ih (m.ingest r).2).trans (settings_next m (.ingest r))

/-- **What packets put into the window**: those whose source has no entry, in their order. -/
theorem window_ingestAll (m : Monitor) (packets : List Record) :
    (m.ingestAll packets).window.records =
      m.window.records ++ packets.filter fun r => !m.blocks.isBlocked r.source := by
  induction packets generalizing m with
  | nil => exact (List.append_nil _).symm
  | cons r rest ih =>
    refine (ih (m.ingest r).2).trans ?_
    rw [blocks_ingest, window_ingest, List.filter_cons]
    cases m.blocks.isBlocked r.source <;> simp

/-- Every packet is counted once. -/
theorem counts_ingestAll (m : Monitor) (packets : List Record) :
    (m.ingestAll packets).accepted =
        m.accepted + UInt64.ofNat (packets.countP fun r => !m.blocks.isBlocked r.source) ∧
      (m.ingestAll packets).discarded =
        m.discarded + UInt64.ofNat (packets.countP fun r => m.blocks.isBlocked r.source) := by
  induction packets generalizing m with
  | nil => exact ⟨(UInt64.add_zero _).symm, (UInt64.add_zero _).symm⟩
  | cons r rest ih =>
    obtain ⟨haccepted, hdiscarded⟩ := ih (m.ingest r).2
    rw [blocks_ingest] at haccepted hdiscarded
    have hone : ∀ (x : UInt64) (n : Nat), x + 1 + UInt64.ofNat n = x + UInt64.ofNat (n + 1) := by
      intro x n
      rw [UInt64.ofNat_add, UInt64.add_comm (UInt64.ofNat n), UInt64.add_assoc]
      rfl
    refine ⟨haccepted.trans ?_, hdiscarded.trans ?_⟩ <;>
      rw [List.countP_cons, ingest] <;> cases m.blocks.isBlocked r.source <;> simp [hone]

end Monitor

/-! ## The loop -/

/-- **A poll that does not fail**: its packet is ingested, and the loop looks at the cancellation. -/
theorem capture_cons_of_error?_eq_none {poll : Poll} (h : poll.error? = none) (rest : List Poll)
    (m : Monitor) :
    capture false (poll :: rest) m =
      let run := capture poll.cancels rest (m.ingestAll poll.packet?.toList)
      { run with polls := run.polls + 1 } := by
  obtain ⟨yields, cancels⟩ := poll
  cases yields with
  | packet r => rfl
  | nothing => rfl
  | failed e => cases h

/-- A poll that fails ends the loop. -/
theorem capture_cons_of_error? {poll : Poll} {e : CaptureError} (h : poll.error? = some e)
    (rest : List Poll) (m : Monitor) :
    capture false (poll :: rest) m = ⟨.failed e, 1, poll.cancels, m⟩ := by
  obtain ⟨yields, cancels⟩ := poll
  cases yields with
  | packet | nothing => cases h
  | failed e' =>
    obtain rfl : e' = e := Option.some.inj h
    rfl

/-- A loop that is cancelled makes no poll. -/
theorem capture_true (script : List Poll) (m : Monitor) :
    capture true script m = ⟨.stopped, 0, true, m⟩ := by
  cases script <;> rfl

/-- **Polls after which the loop goes on**: their packets are ingested, and then comes the rest. -/
theorem capture_append {past : List Poll} (h : ∀ poll ∈ past, poll.goesOn = true)
    (rest : List Poll) (m : Monitor) :
    capture false (past ++ rest) m =
      let run := capture false rest (m.ingestAll (past.filterMap Poll.packet?))
      { run with polls := past.length + run.polls } := by
  induction past generalizing m with
  | nil =>
    change _ = { capture false rest m with polls := 0 + (capture false rest m).polls }
    rw [Nat.zero_add]
    rfl
  | cons poll past ih =>
    obtain ⟨hpoll, hpast⟩ := List.forall_mem_cons.mp h
    obtain ⟨herror, hcancels⟩ : poll.error? = none ∧ poll.cancels = false := by
      simpa [Poll.goesOn] using hpoll
    rw [List.cons_append, capture_cons_of_error?_eq_none herror, hcancels, ih hpast,
      filterMap_cons_toList, Monitor.ingestAll_append, List.length_cons]
    dsimp only
    rw [Nat.add_right_comm]

/-- Polls after which the loop goes on do not cancel it. -/
theorem any_cancels_of_goesOn {polls : List Poll} (h : ∀ poll ∈ polls, poll.goesOn = true) :
    polls.any (·.cancels) = false := by
  refine List.any_eq_false.mpr fun poll hpoll => ?_
  have := h poll hpoll
  simp only [Poll.goesOn, Bool.and_eq_true] at this
  simpa using this.2

/-- **What the loop does**, by how it comes to stand as it does. -/
theorem capture_of_concluded {cancelled : Bool} {made unread : List Poll} {ended : CaptureEnd}
    (h : Concluded cancelled made unread ended) (m : Monitor) :
    capture cancelled (made ++ unread) m =
      ⟨ended, made.length, cancelled || made.any (·.cancels),
        m.ingestAll (made.filterMap Poll.packet?)⟩ := by
  cases h with
  | never hcancelled =>
    rw [hcancelled]
    exact capture_true unread m
  | @stopped past unread last hopen hpast herror hcancels =>
    rw [hopen, List.append_assoc, capture_append hpast, List.singleton_append,
      capture_cons_of_error?_eq_none herror, hcancels, capture_true]
    simp [hcancels, filterMap_cons_toList, Monitor.ingestAll_append]
  | @failed past unread last e hopen hpast herror =>
    rw [hopen, List.append_assoc, capture_append hpast, List.singleton_append,
      capture_cons_of_error? herror]
    have hcancels := any_cancels_of_goesOn hpast
    have hpacket := Poll.packet?_of_error? herror
    simp [hcancels, hpacket]
  | waiting hopen hpast =>
    rw [hopen, capture_append hpast]
    simp [capture, any_cancels_of_goesOn hpast]

/-- **The loop, by the polls that it made.** They are the beginning of the script, up to the first
poll that failed or found the loop cancelled, and none if it was cancelled from the start. The loop
stands as they say and is cancelled only if it was or one of them found it so, which an error alone
does not bring about. The monitor has ingested their packets, each once and in order: those whose
source has no entry are in the window and counted as accepted, the others are counted as discarded.
Once the loop has ended, the rest of the script makes no difference. -/
theorem capture_exact (cancelled : Bool) (script : List Poll) (m : Monitor) :
    let run := capture cancelled script m
    ∃ made unread packets, script = made ++ unread ∧ packets = made.filterMap Poll.packet? ∧
      Concluded cancelled made unread run.ended ∧
      run.polls = made.length ∧ run.cancelled = (cancelled || made.any (·.cancels)) ∧
      run.monitor = packets.foldl (fun m r => (m.ingest r).2) m ∧
      run.monitor.blocks = m.blocks ∧
      run.monitor.window.records =
        m.window.records ++ packets.filter (fun r => !m.blocks.isBlocked r.source) ∧
      run.monitor.accepted =
        m.accepted + UInt64.ofNat (packets.countP fun r => !m.blocks.isBlocked r.source) ∧
      run.monitor.discarded =
        m.discarded + UInt64.ofNat (packets.countP fun r => m.blocks.isBlocked r.source) ∧
      (run.ended ≠ .waiting → ∀ other, capture cancelled (made ++ other) m = run) := by
  obtain ⟨made, unread, ended, hscript, hended⟩ := exists_concluded cancelled script
  have hrun := capture_of_concluded hended m
  rw [← hscript] at hrun
  obtain ⟨haccepted, hdiscarded⟩ := Monitor.counts_ingestAll m (made.filterMap Poll.packet?)
  simp only [hrun]
  refine ⟨made, unread, _, hscript, rfl, hended, rfl, rfl, rfl, Monitor.blocks_ingestAll m _,
    Monitor.window_ingestAll m _, haccepted, hdiscarded, fun hwaiting other => ?_⟩
  exact capture_of_concluded (hended.unread hwaiting other) m

-- A packet that comes together with the cancellation is the last one.
example (r r' : Record) (m : Monitor) :
    capture false [⟨.packet r, true⟩, ⟨.packet r', false⟩] m =
      ⟨.stopped, 1, true, (m.ingest r).2⟩ := rfl

end SourceGuard
