import Mathlib.Data.Finset.Basic
import Mathlib.Data.Finset.Dedup
import Mathlib.Data.List.Forall2
import SourceGuard.Proofs.Address.RoundTrip
import SourceGuard.Proofs.Blocks.Lifecycle

/-!
# The log as an audit trail

Whoever reads nothing but the log knows who is blocked. A source is blocked from the event that says
so, whether the firewall accepted the block or refused it, to the event that says that it is not any
more. The firewall is assumed to report nothing itself; its failures are arbitrary, and each of them
is reported by exactly one error.

## Main definitions

* `Change`, `Event.change?`: what an event says about who is blocked
* `Audit.replay`: who is blocked, by the events so far
* `Event.Tells`, `Logged`: an event that reports a call, and a trace in which every call is reported
* `Audited`: what holds of the log of a run

## Main results

* `Monitor.logged_operate`: every operation reports its calls
* `Logged.changes_eq`, `Logged.complaints`: what the events of such a trace say
* `Monitor.held_operate`: the events of an operation lead from the sources blocked before it to
  those blocked after it
* `Monitor.audited_run`: the log of every run is an audit trail
-/

namespace SourceGuard

open Emission (asked calls events)

variable {σ : Type}

/-! ## What events say -/

/-- What an event says about who is blocked. -/
inductive Change where
  /-- A source is blocked now. -/
  | begun (source : Address)
  /-- A source is not blocked any more. -/
  | ended (source : Address)
deriving DecidableEq

namespace Change

/-- The source that a change is about. -/
def source : Change → Address
  | begun source | ended source => source

/-- Whether the source is blocked after a change. -/
def isBegun : Change → Bool
  | begun _ => true
  | ended _ => false

/-- The blocked sources after a change. -/
def apply (c : Change) (held : Finset Address) : Finset Address :=
  match c with
  | begun source => insert source held
  | ended source => held.erase source

/-- A change blocks or unblocks the source that it is about, and no other. -/
theorem mem_apply (c : Change) (held : Finset Address) (source : Address) :
    source ∈ c.apply held ↔ if c.source = source then c.isBegun = true else source ∈ held := by
  cases c with
  | begun target =>
    rw [apply, Finset.mem_insert]
    by_cases h : target = source
    · simp [Change.source, isBegun, h]
    · simp [Change.source, h, Ne.symm h]
  | ended target =>
    rw [apply, Finset.mem_erase]
    by_cases h : target = source
    · simp [Change.source, isBegun, h]
    · simp [Change.source, h, Ne.symm h]

end Change

namespace Event

/-- Whether an event has a level and a message that opens with some words. -/
def announces (e : Event) (level : Level) (opening : String) : Bool :=
  e.level = level && opening.toList.isPrefixOf e.message.toList

/-- The source that an event is about. -/
def subject? (e : Event) : Option Address :=
  (e.fields.find? (·.1 = "source")).bind fun field =>
    match field.2 with
    | .plain text => Address.ofText? text
    | _ => none

/-- What an event says about who is blocked: a block that was accepted and one that was refused both
begin, and a block whose removal was accepted and one whose removal was refused both end. -/
def change? (e : Event) : Option Change :=
  if e.announces .warn "🚫 Blocked source" || e.announces .error "❌ Failed to block source" then
    e.subject?.map .begun
  else if e.announces .info "✅ Unblocked source" || e.announces .error "❌ Failed to remove block" then
    e.subject?.map .ended
  else none

end Event

namespace Audit

/-- Who is blocked by the events so far, if some sources were blocked before them. -/
def replay (held : Finset Address) (events : List Event) : Finset Address :=
  (events.filterMap Event.change?).foldl (fun held c => c.apply held) held

theorem replay_append (held : Finset Address) (es es' : List Event) :
    replay held (es ++ es') = replay (replay held es) es' := by
  rw [replay, List.filterMap_append, List.foldl_append]
  rfl

/-- Whether a source is blocked in the end can be read off the changes that are about it. -/
theorem mem_foldl_apply (source : Address) (changes : List Change) (held : Finset Address) :
    source ∈ changes.foldl (fun held c => c.apply held) held ↔
      (changes.filter (·.source = source)).foldl (fun _ c => c.isBegun) (decide (source ∈ held)) =
        true := by
  induction changes generalizing held with
  | nil => exact decide_eq_true_iff.symm
  | cons c rest ih =>
    rw [List.foldl_cons, ih]
    simp only [Change.mem_apply]
    by_cases h : c.source = source
    · rw [List.filter_cons_of_pos (by simpa using h), List.foldl_cons]
      simp only [h, if_true, Bool.decide_eq_true]
    · rw [List.filter_cons_of_neg (by simpa using h)]
      simp only [h, if_false]

end Audit

/-! ## Reported calls -/

namespace Move

/-- What a move changes about who is blocked. -/
def change? : Move → Address → Option Change
  | block, source => some (.begun source)
  | reassert, _ => none
  | unblock, source => some (.ended source)

/-- The words with which the refusal of a move is reported. -/
def complaint : Move → String
  | block => "❌ Failed to block source"
  | reassert => "❌ Failed to re-assert block"
  | unblock => "❌ Failed to remove block"

end Move

/-- An error reports that a call failed: it says what was asked and for whom, and gives the reason. -/
structure Event.Complains (e : Event) (move : Move) (c : Call) (failure : EnforcementError) :
    Prop where
  /-- It says what was asked. -/
  announced : e.announces .error move.complaint = true
  /-- It says for whom. -/
  subject : e.subject? = some c.source
  /-- It gives the reason of the failure. -/
  reason : failure.message.toList <:+ e.message.toList

/-- An event reports a call, as the begin or the end of a block or as neither. -/
structure Event.Tells (e : Event) (move : Move) (c : Call) (failure : Option EnforcementError) :
    Prop where
  /-- It says what the call changed. -/
  change : e.change? = move.change? c.source
  /-- It is an error only if the call failed. -/
  content : failure = none → e.level ≠ .error
  /-- If the call failed, it is an error that reports the failure. -/
  complains : ∀ f, failure = some f → e.Complains move c f

/-- A trace in which every call is reported by the event after it, other than re-assertions that
were accepted, and in which the events that report no call say nothing. -/
inductive Logged (op : Operation) : List Emission → Prop where
  /-- Nothing was asked. -/
  | nil : Logged op []
  /-- A call and the event that reports it. -/
  | call {c : Call} {failure : Option EnforcementError} {e : Event} {t : List Emission} :
      e.Tells (op.move c) c failure → Logged op t → Logged op (.call c failure :: .event e :: t)
  /-- A re-assertion that was accepted. -/
  | reasserted {c : Call} {t : List Emission} :
      op.move c = .reassert → Logged op t → Logged op (.call c none :: t)
  /-- An event that reports no call. -/
  | aside {e : Event} {t : List Emission} :
      e.change? = none → e.level ≠ .error → Logged op t → Logged op (.event e :: t)

/-- What the events of a trace say about who is blocked. -/
def Emission.changes (trace : List Emission) : List Change := (events trace).filterMap Event.change?

/-- The failed calls of a trace, with their reasons. -/
def Emission.refusals (trace : List Emission) : List (Call × EnforcementError) :=
  (calls trace).filterMap fun x => x.2.map (x.1, ·)

/-- The errors of a trace. -/
def Emission.errors (trace : List Emission) : List Event :=
  (events trace).filter (·.level = .error)

namespace Logged

open Emission (changes refusals errors)

variable {op : Operation} {t t' : List Emission}

theorem append (h : Logged op t) (h' : Logged op t') : Logged op (t ++ t') := by
  induction h with
  | nil => exact h'
  | call htells _ ih => exact .call htells ih
  | reasserted hmove _ ih => exact .reasserted hmove ih
  | aside hchange hlevel _ ih => exact .aside hchange hlevel ih

/-- **The events of a trace** say what its calls changed. -/
theorem changes_eq (h : Logged op t) :
    changes t = (asked t).filterMap fun c => (op.move c).change? c.source := by
  induction h with
  | nil => rfl
  | @call c failure e t htells _ ih =>
    change (e :: events t).filterMap Event.change? =
      (c :: asked t).filterMap fun c => (op.move c).change? c.source
    rw [filterMap_cons_toList, filterMap_cons_toList, htells.change, ← ih]
    rfl
  | @reasserted c t hmove _ ih =>
    change changes t = (c :: asked t).filterMap fun c => (op.move c).change? c.source
    rw [filterMap_cons_toList, hmove, ← ih]
    rfl
  | @aside e t hchange _ _ ih =>
    change (e :: events t).filterMap Event.change? = (asked t).filterMap _
    rw [filterMap_cons_toList, hchange, ← ih]
    rfl

/-- **The errors of a trace** report its failed calls, one by one. -/
theorem complaints (h : Logged op t) :
    List.Forall₂ (fun x e => Event.Complains e (op.move x.1) x.1 x.2) (refusals t) (errors t) := by
  induction h with
  | nil => exact .nil
  | @call c failure e t htells _ ih =>
    change List.Forall₂ _ (((c, failure) :: calls t).filterMap fun x => x.2.map (x.1, ·))
      ((e :: events t).filter (·.level = .error))
    rw [filterMap_cons_toList]
    cases failure with
    | none =>
      rw [List.filter_cons_of_neg (by simpa using htells.content rfl)]
      exact ih
    | some f =>
      have hcomplains := htells.complains f rfl
      have hlevel : e.level = .error := by
        have hannounced := hcomplains.announced
        simp only [Event.announces, Bool.and_eq_true, decide_eq_true_eq] at hannounced
        exact hannounced.1
      rw [List.filter_cons_of_pos (by simpa using hlevel)]
      exact .cons hcomplains ih
  | @reasserted c t hmove _ ih => exact ih
  | @aside e t _ hlevel _ ih =>
    change List.Forall₂ _ (refusals t) ((e :: events t).filter (·.level = .error))
    rw [List.filter_cons_of_neg (by simpa using hlevel)]
    exact ih

end Logged

/-! ## Events of the table -/

namespace Event

variable {e : Event} {source : Address}

/-- What a message opens with is decided by its first words, if there are enough of them. -/
theorem announces_of_words {words rest : String} (hmessage : e.message = words ++ rest)
    {opening : String} (hlength : opening.toList.length ≤ words.toList.length) (level : Level) :
    e.announces level opening = (decide (e.level = level) && opening.toList.isPrefixOf words.toList) := by
  have hprefix : opening.toList <+: words.toList ++ rest.toList ↔ opening.toList <+: words.toList :=
    ⟨fun h => List.prefix_of_prefix_length_le h (List.prefix_append _ _) hlength,
      fun h => h.trans (List.prefix_append _ _)⟩
  rw [announces, hmessage, String.toList_append]
  congr 1
  rw [Bool.eq_iff_iff, List.isPrefixOf_iff_prefix, List.isPrefixOf_iff_prefix]
  exact hprefix

/-- What an event about a source says. -/
theorem subject?_of_fields {more : List (String × FieldValue)}
    (h : e.fields = ("source", .plain source.toText) :: more) : e.subject? = some source := by
  rw [subject?, h, List.find?_cons_of_pos (by rfl), Option.bind_some]
  exact Address.ofText?_toText source

/-- An event that is neither a warning, an error nor an information says nothing about who is
blocked. -/
theorem change?_of_quiet (hwarn : e.level ≠ .warn) (herror : e.level ≠ .error)
    (hinfo : e.level ≠ .info) : e.change? = none := by
  simp [change?, announces, *]

/-- What an error says that opens with the complaint about a move. -/
theorem change?_of_complaint {move : Move} {words rest : String} (hlevel : e.level = .error)
    (hsubject : e.subject? = some source) (hmessage : e.message = words ++ rest)
    (hopening : move.complaint.toList.isPrefixOf words.toList = true) :
    e.change? = move.change? source := by
  have hwords : move.complaint.toList <+: words.toList := List.isPrefixOf_iff_prefix.mp hopening
  have hlong : 24 ≤ words.toList.length := le_trans (by cases move <;> decide) hwords.length_le
  obtain ⟨more, hmore⟩ := hwords
  -- the first words of the three complaints differ, so at most one of the two that count fits
  have herror : ∀ opening : String, opening.toList.length ≤ 24 →
      e.announces .error opening = opening.toList.isPrefixOf (move.complaint.toList ++ more) := by
    intro opening hlength
    rw [announces_of_words hmessage (hlength.trans hlong), hlevel, hmore]
    rfl
  have hother : ∀ (level : Level) (opening : String), level ≠ .error →
      e.announces level opening = false := by
    intro level opening h
    simp [announces, hlevel, Ne.symm h]
  rw [change?, hsubject, hother .warn _ (by decide), hother .info _ (by decide),
    herror _ (by decide), herror _ (by decide)]
  cases move <;> rfl

/-- An error that opens with the complaint about a move reports the refusal of the move. -/
theorem tells_of_complaint {move : Move} {c : Call} {f : EnforcementError} {words : String}
    (hlevel : e.level = .error) (hsubject : e.subject? = some c.source)
    (hmessage : e.message = words ++ f.message)
    (hopening : move.complaint.toList.isPrefixOf words.toList = true) :
    e.Tells move c (some f) := by
  refine ⟨change?_of_complaint hlevel hsubject hmessage hopening, nofun, ?_⟩
  intro g hg
  obtain rfl := Option.some.inj hg
  have hlength : move.complaint.toList.length ≤ words.toList.length :=
    (List.isPrefixOf_iff_prefix.mp hopening).length_le
  constructor
  case announced =>
    rw [announces_of_words hmessage hlength, hlevel, hopening]
    rfl
  case subject => exact hsubject
  case reason =>
    rw [hmessage, String.toList_append]
    exact List.suffix_append _ _

end Event

namespace Blocks

/-- A request is reported, whether the firewall accepted it or refused it. -/
theorem tells_blockedEvent (b : Blocks) (source : Address) (reason : String) :
    (b.blockedEvent source reason).Tells .block (.add source) none := by
  have hsubject : (b.blockedEvent source reason).subject? = some source :=
    Event.subject?_of_fields rfl
  have hannounced : (b.blockedEvent source reason).announces .warn "🚫 Blocked source" = true := by
    rw [Event.announces, Bool.and_eq_true, List.isPrefixOf_iff_prefix]
    exact ⟨rfl, List.prefix_rfl⟩
  refine ⟨?_, fun _ => Level.noConfusion, nofun⟩
  rw [Event.change?, hannounced, Bool.true_or, if_pos rfl, hsubject]
  rfl

theorem tells_unenforcedEvent (name : String) (source : Address) (reason : String)
    (f : EnforcementError) :
    (unenforcedEvent name source reason f).Tells .block (.add source) (some f) :=
  Event.tells_of_complaint rfl (Event.subject?_of_fields rfl) rfl (by decide)

/-- A release is reported, whether the firewall accepted it or refused it. -/
theorem tells_releaseEvent (name : String) (cause : ReleaseCause) (source : Address)
    (failure : Option EnforcementError) :
    (releaseEvent name cause source failure).Tells .unblock (.remove source) failure := by
  cases failure with
  | some f =>
    have hsubject : (releaseEvent name cause source (some f)).subject? = some source :=
      Event.subject?_of_fields rfl
    refine Event.tells_of_complaint rfl hsubject rfl ?_
    cases cause <;> decide
  | none =>
    have hsubject : (releaseEvent name cause source none).subject? = some source :=
      Event.subject?_of_fields rfl
    have hmessage : (releaseEvent name cause source none).message =
        "✅ Unblocked source (" ++ (cause.text ++ ")") := String.append_assoc ..
    have hannounced : (releaseEvent name cause source none).announces .info "✅ Unblocked source" =
        true := by
      rw [Event.announces_of_words hmessage (by decide)]
      exact (by decide : "✅ Unblocked source".toList.isPrefixOf "✅ Unblocked source (".toList = true)
    have hother : ∀ (level : Level) (opening : String), level ≠ .info →
        (releaseEvent name cause source none).announces level opening = false := by
      intro level opening h
      simp [Event.announces, releaseEvent, Ne.symm h]
    refine ⟨?_, fun _ => Level.noConfusion, nofun⟩
    rw [Event.change?, hannounced, hsubject, hother .warn _ (by decide), hother .error _ (by decide)]
    rfl

/-- A re-assertion that the firewall refused is reported, without a word about who is blocked. -/
theorem tells_reassertion (source : Address) (f : EnforcementError) :
    Event.Tells ⟨.error, "❌ Failed to re-assert block: " ++ f.message,
      [("source", .plain source.toText)]⟩ .reassert (.add source) (some f) :=
  Event.tells_of_complaint rfl (Event.subject?_of_fields rfl) rfl
    (by decide : Move.reassert.complaint.toList.isPrefixOf "❌ Failed to re-assert block: ".toList =
      true)

end Blocks

/-! ## Reports of operations -/

/-- A firewall that reports nothing itself. -/
def Enforcer.IsSilent (E : Enforcer σ) : Prop := ∀ c s, (E.answer c s).1.events = []

section Silent

variable {E : Enforcer σ} (hE : E.IsSilent)

include hE

theorem Enforcer.IsSilent.perform_apply (c : Call) (s : σ) :
    E.perform c s = ⟨(E.answer c s).1.failure, (E.answer c s).2,
      [.call c (E.answer c s).1.failure]⟩ := by
  change Outcome.mk _ _ (.call c _ :: (E.answer c s).1.events.map .event) = _
  rw [hE c s, List.map_nil]

namespace Blocks

theorem logged_request {op : Operation} (hop : ∀ a, op.move (.add a) = .block) (b : Blocks)
    (source : Address) (now : Instant) (reason : String) (s : σ) :
    Logged op (b.request E source now reason s).trace := by
  unfold request
  split
  · exact .nil
  · rw [Action.trace_bind, hE.perform_apply]
    cases (E.answer (.add source) s).1.failure with
    | none => exact .call (hop source ▸ tells_blockedEvent b source reason) .nil
    | some f => exact .call (hop source ▸ tells_unenforcedEvent E.name source reason f) .nil

theorem logged_releaseEach (op : Operation) (cause : ReleaseCause) (sources : List Address)
    (b : Blocks) (s : σ) : Logged op (releaseEach E cause sources b s).trace := by
  have hop : ∀ source, op.move (.remove source) = .unblock := by cases op <;> exact fun _ => rfl
  induction sources generalizing b s with
  | nil => exact .nil
  | cons source rest ih =>
    rw [releaseEach, Action.trace_bind, release, Action.trace_bind, hE.perform_apply]
    exact .call (hop source ▸ tells_releaseEvent E.name cause source _) (ih _ _)

theorem logged_releaseExpired (op : Operation) (b : Blocks) (now : Instant) (s : σ) :
    Logged op (b.releaseExpired E now s).trace := by
  rw [releaseExpired, Action.trace_bind_pure]
  exact logged_releaseEach hE op .expired (b.expired now) b s

theorem logged_assertEach (sources : List Address) (s : σ) :
    Logged .reconcile (assertEach E sources s).trace := by
  induction sources generalizing s with
  | nil => exact .nil
  | cons source rest ih =>
    rw [assertEach, Action.trace_bind, hE.perform_apply]
    cases (E.answer (.add source) s).1.failure with
    | none => exact .reasserted rfl (ih _)
    | some f =>
      refine .call (tells_reassertion source f) ?_
      rw [Action.trace_bind_pure]
      exact ih _

end Blocks

namespace Monitor

theorem logged_blockEach {op : Operation} (hop : ∀ a, op.move (.add a) = .block) (now : Instant)
    (os : List Offender) (b : Blocks) (s : σ) : Logged op (blockEach E now os b s).trace := by
  induction os generalizing b s with
  | nil => exact .nil
  | cons o rest ih =>
    have hquiet : (violationEvent o).change? = none :=
      Event.change?_of_quiet Level.noConfusion Level.noConfusion Level.noConfusion
    have hrequest := Blocks.logged_request hE hop b o.source now (RuleSet.reason o.fired) s
    refine .aside hquiet Level.noConfusion (hrequest.append ?_)
    rw [Action.trace_bind_pure]
    exact ih _ _

theorem logged_tick (m : Monitor) (now : Instant) (s : σ) :
    Logged (.tick now) (m.tick E now s).trace := by
  rw [(firewall_trace_tick E m now s).2]
  refine (Blocks.logged_releaseExpired hE _ m.blocks now s).append (.append ?_ ?_)
  · unfold pruneEvents
    split
    · have hquiet : ∀ evicted remaining, (pruneEvent evicted remaining).change? = none :=
        fun _ _ => Event.change?_of_quiet Level.noConfusion Level.noConfusion Level.noConfusion
      exact .aside (hquiet _ _) Level.noConfusion .nil
    · exact .nil
  · exact logged_blockEach hE (fun _ => rfl) now _ _ _

/-- **Every operation reports its calls.** -/
theorem logged_operate (m : Monitor) (op : Operation) (s : σ) :
    Logged op (m.operate E op s).trace := by
  cases op with
  | tick now =>
    rw [operate, Action.trace_bind_pure]
    exact logged_tick hE m now s
  | request source now reason =>
    rw [operate, Action.trace_bind_pure]
    exact Blocks.logged_request hE (fun _ => rfl) m.blocks source now reason s
  | releaseExpired now =>
    rw [operate, Action.trace_bind_pure]
    exact Blocks.logged_releaseExpired hE _ m.blocks now s
  | releaseAll =>
    rw [operate, Action.trace_bind_pure, Blocks.releaseAll, Action.trace_bind_pure]
    exact Blocks.logged_releaseEach hE _ .shutdown m.blocks.table.sources m.blocks s
  | reconcile =>
    rw [operate, Action.trace_bind_pure]
    exact Blocks.logged_assertEach hE m.blocks.table.sources s
  | _ => exact .nil

end Monitor

end Silent

/-! ## The trail -/

/-- The sources that have an entry. -/
def Blocks.held (b : Blocks) : Finset Address := b.table.sources.toFinset

theorem Blocks.mem_held (b : Blocks) (source : Address) :
    source ∈ b.held ↔ (b.table.get? source).isSome = true := by
  rw [held, List.mem_toFinset, AddressMap.mem_sources, AddressMap.contains]

/-- The events about a source report what its moves changed. -/
theorem Logged.changes_filter {op : Operation} {t : List Emission} (h : Logged op t)
    (source : Address) :
    (Emission.changes t).filter (·.source = source) =
      (op.movesOf source (asked t)).filterMap (·.change? source) := by
  rw [h.changes_eq, Operation.movesOf]
  induction asked t with
  | nil => rfl
  | cons c rest ih =>
    have hsource : ∀ x ∈ (op.move c).change? c.source, x.source = c.source := by
      intro x hx
      cases hmove : op.move c <;> rw [hmove] at hx <;> cases hx <;> rfl
    rw [filterMap_cons_toList, List.filter_append, ih]
    by_cases hc : c.source = source
    · rw [List.filter_cons_of_pos (by simpa using hc), List.map_cons, filterMap_cons_toList]
      congr 1
      rw [List.filter_eq_self.mpr fun x hx => by simp [hsource x (Option.mem_toList.mp hx), hc], hc]
    · rw [List.filter_cons_of_neg (by simpa using hc), List.filter_eq_nil_iff.mpr
        fun x hx => by simp [hsource x (Option.mem_toList.mp hx), hc], List.nil_append]

/-- What a passage changes leads from the entry before it to the entry after it. -/
theorem Passage.changes {m : Monitor} {op : Operation} {source : Address}
    {before after : Option Entry} {moves : List Move}
    (h : Passage m op source before moves after) :
    (moves.filterMap (·.change? source)).foldl (fun _ c => c.isBegun) before.isSome =
      after.isSome := by
  cases h <;> rfl

/-- What holds of the log of a run that was begun in a monitor. -/
structure Audited (m : Monitor) (run : Run σ) : Prop where
  /-- After every operation the events so far say exactly who has an entry. -/
  reconstructed : ∀ past step future, run.steps = past ++ step :: future →
    Audit.replay m.blocks.held ((past ++ [step]).flatMap (events ·.trace)) = step.after.blocks.held
  /-- Every entry that a step makes and every entry that it ends is logged, each once and in turn, and
  nothing else is. -/
  logged : ∀ step ∈ run.steps, ∀ source,
    Passage step.before step.operation source (step.before.blocks.table.get? source)
        (step.moves source) (step.after.blocks.table.get? source) ∧
      (Emission.changes step.trace).filter (·.source = source) =
        (step.moves source).filterMap (·.change? source)
  /-- The errors of a step report its failed calls, one by one. -/
  complaints : ∀ step ∈ run.steps,
    List.Forall₂ (fun x e => Event.Complains e (step.operation.move x.1) x.1 x.2)
      (Emission.refusals step.trace) (Emission.errors step.trace)
  /-- The errors of a reconciliation say nothing about who is blocked. -/
  unheeded : ∀ step ∈ run.steps, step.operation = .reconcile → Emission.changes step.trace = []

namespace Monitor

variable {E : Enforcer σ} (hE : E.IsSilent)

include hE

/-- **The events of an operation** lead from the sources that have an entry before it to those that
have one after it. -/
theorem held_operate (m : Monitor) (op : Operation) (s : σ) :
    Audit.replay m.blocks.held (events (m.operate E op s).trace) = (m.next op).blocks.held := by
  ext source
  rw [Audit.replay, Audit.mem_foldl_apply]
  change ((Emission.changes (m.operate E op s).trace).filter _).foldl _ _ = true ↔ _
  rw [(logged_operate hE m op s).changes_filter, asked_operate]
  simp only [Blocks.mem_held, Bool.decide_eq_true, (passage m op source).changes]

theorem held_run (ops : List Operation) (m : Monitor) (s : σ) :
    Audit.replay m.blocks.held ((m.run E ops s).steps.flatMap (events ·.trace)) =
      (m.run E ops s).monitor.blocks.held := by
  induction ops generalizing m s with
  | nil => rfl
  | cons op rest ih =>
    have hfirst := held_operate hE m op s
    rw [← value_operate E m op s] at hfirst
    rw [run, List.flatMap_cons, Audit.replay_append, hfirst]
    exact ih _ _

/-- **The log of every run is an audit trail**, whatever calls the firewall refuses. -/
theorem audited_run (m : Monitor) (ops : List Operation) (s : σ) : Audited m (m.run E ops s) := by
  have hlogged : ∀ step ∈ (m.run E ops s).steps, Logged step.operation step.trace := by
    intro step hstep
    obtain ⟨s', -, htrace, -⟩ := exists_of_mem E hstep
    rw [htrace]
    exact logged_operate hE step.before step.operation s'
  constructor
  case reconstructed =>
    intro past step future hsplit
    -- the steps so far are a run of their own
    have hsteps : (m.run E ops s).steps = (past ++ [step]) ++ future := by
      rw [hsplit, List.append_assoc, List.singleton_append]
    obtain ⟨first, second, -, hfirst, -⟩ := exists_of_steps_eq_append E hsteps
    have hreplay := held_run hE first m s
    rw [monitor_run, hfirst, List.getLast?_concat, Option.map_some, Option.getD_some] at hreplay
    exact hreplay
  case logged =>
    intro step hstep source
    refine ⟨passage_of_mem E hstep source, ?_⟩
    rw [(hlogged step hstep).changes_filter, Step.moves_eq]
  case complaints =>
    intro step hstep
    exact (hlogged step hstep).complaints
  case unheeded =>
    intro step hstep hop
    rw [(hlogged step hstep).changes_eq, (step_of_mem E hstep).2, hop, List.filterMap_eq_nil_iff]
    intro c hc
    obtain ⟨source, -, rfl⟩ := List.mem_map.mp hc
    rfl

omit hE in
/-- A block that the firewall refuses, a re-assertion that it refuses, a release that it refuses, and
the block of another source that it accepts. -/
theorem audited_run_of_refusals :
    let source := Address.v4 0x0a000001
    let other := Address.v6 0x20010db8000000000000000000000001
    let E := Enforcer.refusing "recorder" fun c =>
      if c.source = source then some (.rejected "block" "exit status: 4" "denied") else none
    let m : Monitor :=
      { window := { span := 30, band := default }, rules := ⟨.any, [Rule.volume 100]⟩, policy := {}
        blocks := { requested := 30 } }
    let ops := [.ingest ⟨source, 200, 0⟩, .tick 5, .reconcile, .request other 10 "pattern", .tick 35]
    let run := m.run E ops ()
    E.IsSilent ∧ m.blocks.held = ∅ ∧
      (run.steps.map fun step => (Emission.changes step.trace, (Emission.errors step.trace).length)) =
        [([], 0), ([.begun source], 1), ([], 1), ([.begun other], 0), ([.ended source], 1)] ∧
      Audit.replay ∅ (run.steps.flatMap (events ·.trace)) = {other} ∧ Audited m run :=
  ⟨fun _ _ => rfl, rfl, by decide +kernel, by decide +kernel,
    audited_run (fun _ _ => rfl) _ _ ()⟩

end Monitor

end SourceGuard
