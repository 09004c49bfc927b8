import SourceGuard.Proofs.Totals
import SourceGuard.Report.Mode

/-!
# Reports do not depend on the order of tables

A table may be gone through in any order. What is shown of it is sorted, and the order of display
leaves no two sources in the same place: rows by falling number of packets, blocks by rising time to
their end, and both by address where these agree. So whatever the order in which a tick goes through
the blocks and the aggregates, it blocks the same sources in the same order and shows the same. The
firewall may be asked for releases in another order, which makes no difference to a firewall whose
answer depends on nothing but the call.

## Main definitions

* `Address.Precedes`, `Row.Before`, `BlockStatus.Before`: the orders of display
* `Monitor.Traversal`, `Monitor.tickThrough`: orders of the tables, and a tick through them
* `Enforcer.IsSteady`: the firewalls whose answer depends on nothing but the call

## Main results

* `mergeSort_eq_of_perm`, `pairwise_mergeSort_of_nodup`: sorting by a weight and by address
* `Snapshot.make_eq_of_perm`, `Blocks.statusesOf_eq_statuses`: what is shown in any order
* `Monitor.tick_eq_tickThrough`: a tick goes through its tables by ascending address
* `Monitor.shown_in_any_order`: a tick shows the same in any order
-/

namespace SourceGuard

variable {σ : Type}

/-! ## Sorting by a weight and by address -/

/-- The order of addresses: the IPv4 addresses first, and in a family by their numbers. -/
inductive Address.Precedes : Address → Address → Prop
  | v4 {x y : BitVec 32} : x.toNat < y.toNat → Precedes (.v4 x) (.v4 y)
  | v6 {x y : BitVec 128} : x.toNat < y.toNat → Precedes (.v6 x) (.v6 y)
  | families (x : BitVec 32) (y : BitVec 128) : Precedes (.v4 x) (.v6 y)

theorem Address.precedes_of_lt {a b : Address} (h : a < b) : a.Precedes b := by
  rw [lt_def] at h
  cases a with
  | v4 x =>
    cases b with
    | v4 y => exact .v4 h
    | v6 y => exact .families x y
  | v6 x =>
    cases b with
    | v4 y =>
      have hy := y.isLt
      simp only [rank_v4, rank_v6] at h
      omega
    | v6 y => exact .v6 (Nat.lt_of_add_lt_add_left h)

section Sorting

variable {α : Type} {le : α → α → Bool} {weight : α → Nat} {source : α → Address} {l l' : List α}

/-- A test compares by a weight and, where the weights agree, by address. -/
def Compares (le : α → α → Bool) (weight : α → Nat) (source : α → Address) : Prop :=
  ∀ a b, le a b = true ↔ weight a < weight b ∨ weight a = weight b ∧ source a ≤ source b

/-- **What is sorted by a weight and by address** ascends strictly, if no address stands twice. -/
theorem pairwise_mergeSort_of_nodup (hle : Compares le weight source)
    (hnodup : (l.map source).Nodup) :
    (l.mergeSort le).Pairwise fun a b =>
      weight a < weight b ∨ weight a = weight b ∧ source a < source b := by
  have hsorted : (l.mergeSort le).Pairwise fun a b => le a b = true := by
    refine List.pairwise_mergeSort (fun a b c hab hbc => ?_) (fun a b => ?_) l
    · rw [hle] at hab hbc ⊢
      simp only [Address.le_def] at hab hbc ⊢
      omega
    · rw [Bool.or_eq_true, hle, hle]
      simp only [Address.le_def]
      omega
  have hdistinct : (l.mergeSort le).Pairwise fun a b => source a ≠ source b :=
    List.pairwise_map.mp (((List.mergeSort_perm l le).map source).nodup_iff.mpr hnodup)
  refine (hsorted.and hdistinct).imp fun {a b} hab => ?_
  obtain ⟨hfirst, hne⟩ := hab
  rcases (hle a b).mp hfirst with hlt | ⟨heq, hsource⟩
  · exact Or.inl hlt
  · exact Or.inr ⟨heq, Nat.lt_of_le_of_ne hsource fun hrank => hne (Address.rank_injective hrank)⟩

/-- **The order before sorting leaves no mark**, if no address stands twice. -/
theorem mergeSort_eq_of_perm (hle : Compares le weight source) (hnodup : (l.map source).Nodup)
    (h : l'.Perm l) : l'.mergeSort le = l.mergeSort le := by
  have hperm : (l'.mergeSort le).Perm (l.mergeSort le) :=
    (List.mergeSort_perm l' le).trans (h.trans (List.mergeSort_perm l le).symm)
  have hnodup' : (l'.map source).Nodup := (h.map source).nodup_iff.mpr hnodup
  refine hperm.eq_of_pairwise (fun a b _ _ hab hba => ?_)
    (pairwise_mergeSort_of_nodup hle hnodup') (pairwise_mergeSort_of_nodup hle hnodup)
  -- two places cannot precede each other
  simp only [Address.lt_def] at hab hba
  omega

end Sorting

/-! ## Rows -/

/-- The order of display of rows: by falling number of packets, then by address. -/
def Row.Before (a b : Row) : Prop :=
  b.packets < a.packets ∨ a.packets = b.packets ∧ a.source.Precedes b.source

/-- Rows are compared by the number of packets that they lack to the largest one. -/
theorem Row.compares_comesFirst :
    Compares Row.comesFirst (fun row => UInt64.size - row.packets.toNat) (·.source) := by
  intro a b
  have ha := a.packets.toNat_lt
  have hb := b.packets.toNat_lt
  simp only [comesFirst, Bool.or_eq_true, Bool.and_eq_true, decide_eq_true_eq,
    UInt64.lt_iff_toNat_lt, ← UInt64.toNat_inj, UInt64.size, Address.le_def]
  omega

namespace Snapshot

variable {rows rows' : List Row}

/-- **The rows of a snapshot** stand in the order of display. -/
theorem pairwise_rows_make (hnodup : (rows.map (·.source)).Nodup) :
    (rows.mergeSort Row.comesFirst).Pairwise Row.Before := by
  refine (pairwise_mergeSort_of_nodup Row.compares_comesFirst hnodup).imp fun {a b} hab => ?_
  have ha := a.packets.toNat_lt
  have hb := b.packets.toNat_lt
  simp only [UInt64.size] at hab
  rcases hab with hmore | ⟨hsame, hsource⟩
  · exact Or.inl (UInt64.lt_iff_toNat_lt.mpr (by omega))
  · exact Or.inr ⟨UInt64.toNat_inj.mp (by omega), Address.precedes_of_lt hsource⟩

/-- **A snapshot is the same for rows in any order.** -/
theorem make_eq_of_perm (hnodup : (rows.map (·.source)).Nodup) (h : rows'.Perm rows)
    (takenAt : Int) (seconds : Nat) (summary : String) (blocked : List BlockStatus) :
    make takenAt seconds summary rows' blocked = make takenAt seconds summary rows blocked := by
  have hsorted := mergeSort_eq_of_perm Row.compares_comesFirst hnodup h
  rw [make, make, hsorted]

end Snapshot

/-! ## Blocks -/

/-- The order of display of blocks: by rising time to their end, then by address. -/
def BlockStatus.Before (a b : BlockStatus) : Prop :=
  a.seconds < b.seconds ∨ a.seconds = b.seconds ∧ a.source.Precedes b.source

namespace Blocks

theorem compares_endsFirst : Compares endsFirst (·.seconds) (·.source) := by
  intro a b
  simp only [endsFirst, Bool.or_eq_true, Bool.and_eq_true, decide_eq_true_eq]

/-- The statuses of entries before they are sorted, the source of each being that of its entry. -/
theorem nodup_source_statuses (b : Blocks) (now : Instant) :
    ((b.table.entries.map fun (source, e) =>
      (⟨source, e.secondsLeft now, e.reason⟩ : BlockStatus)).map (·.source)).Nodup := by
  rw [List.map_map]
  exact b.table.sources_ascending.imp fun hlt => Address.ne_of_lt hlt

/-- **The statuses are the same for entries in any order.** -/
theorem statusesOf_eq_statuses (b : Blocks) (now : Instant) {entries : List (Address × Entry)}
    (h : entries.Perm b.table.entries) : statusesOf entries now = b.statuses now :=
  mergeSort_eq_of_perm compares_endsFirst (b.nodup_source_statuses now) (h.map _)

/-- **The statuses** stand in the order of display. -/
theorem pairwise_statuses (b : Blocks) (now : Instant) :
    (b.statuses now).Pairwise BlockStatus.Before :=
  (pairwise_mergeSort_of_nodup compares_endsFirst (b.nodup_source_statuses now)).imp fun hab =>
    hab.imp_right fun h => ⟨h.1, Address.precedes_of_lt h.2⟩

/-- The sources of entries whose block has expired. -/
def expiredAmong (entries : List (Address × Entry)) (now : Instant) : List Address :=
  (entries.filter (·.2.isExpired now)).map (·.1)

/-- Releases leave the same table in any order. -/
theorem drop_eq_of_perm (b : Blocks) {sources sources' : List Address}
    (h : sources'.Perm sources) : b.drop sources' = b.drop sources := by
  have hsame : ∀ source, sources'.contains source = sources.contains source := fun source => by
    rw [Bool.eq_iff_iff, List.contains_iff_mem, List.contains_iff_mem, h.mem_iff]
  simp only [drop, hsame]

end Blocks

/-! ## Ticks -/

/-- A firewall whose answer to a call depends on nothing but the call. -/
def Enforcer.IsSteady (E : Enforcer σ) : Prop :=
  ∀ c s s', (E.answer c s).1.failure = (E.answer c s').1.failure

attribute [ext] Outcome

namespace Monitor

/-- Orders in which a tick goes through the blocks before it, the aggregates of the window, and the
blocks that it leaves. -/
structure Traversal (m : Monitor) (now : Instant) where
  /-- The entries before the tick. -/
  held : List (Address × Entry)
  /-- The aggregates. -/
  sums : List (Address × Aggregate)
  /-- The entries after the tick. -/
  left : List (Address × Entry)
  /-- They are the entries of the table. -/
  held_perm : held.Perm m.blocks.table.entries
  /-- They are the aggregates of the window that the pruning leaves. -/
  sums_perm : sums.Perm (m.window.prune now).aggregates.entries
  /-- They are the entries of the table that the tick leaves. -/
  left_perm : left.Perm (m.ticked now).blocks.table.entries

variable {m : Monitor} {now : Instant}

/-- The orders by ascending address. -/
def Traversal.ascending (m : Monitor) (now : Instant) : Traversal m now where
  held := m.blocks.table.entries
  sums := (m.window.prune now).aggregates.entries
  left := (m.ticked now).blocks.table.entries
  held_perm := .refl _
  sums_perm := .refl _
  left_perm := .refl _

/-- One evaluation at an instant that goes through its tables in given orders. -/
def tickThrough (E : Enforcer σ) (m : Monitor) (now : Instant) (t : Traversal m now) :
    Action σ (TickReport × Monitor) := do
  let released := Blocks.expiredAmong t.held now
  let blocks ← Blocks.releaseEach E .expired released m.blocks
  let m ← prune { m with blocks } now
  let (blocked, blocks) ← blockEach E now (m.offenders t.sums) m.blocks
  let next := { m with blocks }
  let snapshot := Snapshot.make 0 m.window.span.wholeSeconds m.rules.describe
    (t.sums.map (next.row now)) (Blocks.statusesOf t.left now)
  pure (⟨released, blocked, snapshot⟩, next)

namespace Traversal

variable (t : Traversal m now)

/-- The blocks that have expired are found in any order. -/
theorem expired_perm : (Blocks.expiredAmong t.held now).Perm (m.blocks.expired now) :=
  (t.held_perm.filter _).map _

/-- The table is the same after the releases, in whatever order they come. -/
theorem drop_expired : m.blocks.drop (Blocks.expiredAmong t.held now) =
    m.blocks.drop (m.blocks.expired now) :=
  m.blocks.drop_eq_of_perm t.expired_perm

/-- The aggregates are those of different sources. -/
theorem nodup_sources : ((m.window.prune now).aggregates.entries.map (·.1)).Nodup :=
  (m.window.prune now).aggregates.sources_ascending.imp fun hlt => Address.ne_of_lt hlt

/-- **The offenders are the culprits in their order**, in whatever order the aggregates come. -/
theorem offenders_sums : (m.settled now).offenders t.sums = m.culprits now := by
  have hcompares : Compares (fun a b : Offender => decide (a.source ≤ b.source)) (fun _ => 0)
      (·.source) := by
    intro a b
    simp
  refine mergeSort_eq_of_perm hcompares ?_ (t.sums_perm.filterMap _)
  have hculprits :=
    offenders_of_ascending (m.settled now) (m.settled now).window.aggregates.ascending
  rw [← hculprits.1]
  exact List.pairwise_map.mpr (hculprits.2.imp fun hlt => Address.ne_of_lt hlt)

/-- **The snapshot is the same**, in whatever order the aggregates and the entries come. -/
theorem snapshot_eq : Snapshot.make 0 m.window.span.wholeSeconds m.rules.describe
      (t.sums.map ((m.ticked now).row now)) (Blocks.statusesOf t.left now) =
    (m.ticked now).snapshot now (m.window.prune now).aggregates.entries := by
  rw [(m.ticked now).blocks.statusesOf_eq_statuses now t.left_perm]
  refine Snapshot.make_eq_of_perm ?_ (t.sums_perm.map _) _ _ _ _
  rw [List.map_map]
  exact nodup_sources

end Traversal

/-- **A tick through its tables in any order**: what it releases comes in their order, and all else
is that of any other tick but for the answers of the firewall. -/
theorem value_tickThrough (E : Enforcer σ) (t : Traversal m now) (s : σ) :
    let released := Blocks.expiredAmong t.held now
    let left := (Blocks.releaseEach E .expired released m.blocks s).firewall
    (m.tickThrough E now t s).value =
      (⟨released, (blockEach E now (m.culprits now) (m.settled now).blocks left).value.1,
        (m.ticked now).snapshot now (m.window.prune now).aggregates.entries⟩, m.ticked now) := by
  intro released left
  have hrelease :
      (Blocks.releaseEach E .expired (Blocks.expiredAmong t.held now) m.blocks s).value =
        (m.settled now).blocks :=
    (Blocks.value_releaseEach ..).trans t.drop_expired
  have hblocks : (blockEach E now (m.culprits now) (m.settled now).blocks left).value.2 =
      (m.ticked now).blocks := (value_blockEach ..).1
  have hnext : ({ m.settled now with blocks := (blockEach E now (m.culprits now)
      (m.settled now).blocks left).value.2 } : Monitor) = m.ticked now :=
    congrArg (fun blocks => { m.settled now with blocks }) hblocks
  have hoffenders := t.offenders_sums
  simp only [settled] at hoffenders
  simp only [tickThrough, Action.value_bind, Action.pure_apply, prune_apply, hrelease]
  simp only [settled, hoffenders]
  simp only [settled] at hnext
  have hshown := t.snapshot_eq
  rw [← hnext] at hshown ⊢
  rw [← hshown]
  rfl

/-- **A tick** goes through its tables by ascending address. -/
theorem tick_eq_tickThrough (E : Enforcer σ) (m : Monitor) (now : Instant) :
    m.tick E now = m.tickThrough E now (.ascending m now) := by
  funext s
  -- the two ticks do the same one after another, and differ in where the statuses are made
  refine Outcome.ext ?_ ?_ ?_
  · rw [value_tick, value_tickThrough]
    rfl
  · simp only [tick, tickThrough, evaluate, Blocks.releaseExpired, Action.firewall_bind,
      Action.value_bind, Action.pure_apply, prune_apply]
    rfl
  · simp only [tick, tickThrough, evaluate, Blocks.releaseExpired, Action.trace_bind,
      Action.value_bind, Action.pure_apply, prune_apply, List.append_nil]
    rfl

/-- **Requests of a steady firewall** are answered the same from every state of it. -/
theorem blockEach_of_isSteady {E : Enforcer σ} (hE : E.IsSteady) (now : Instant)
    (os : List Offender) (b : Blocks) (s s' : σ) :
    (blockEach E now os b s).value = (blockEach E now os b s').value := by
  induction os generalizing b s s' with
  | nil => rfl
  | cons o rest ih =>
    have hfirst : (b.request E o.source now (RuleSet.reason o.fired) s).value =
        (b.request E o.source now (RuleSet.reason o.fired) s').value := by
      unfold Blocks.request
      split
      · rfl
      · rw [Action.value_bind, Action.value_bind, Enforcer.value_perform, Enforcer.value_perform,
          hE _ s s']
        cases (E.answer (.add o.source) s').1.failure <;> rfl
    simp only [blockEach, Action.value_bind, Action.pure_apply, Action.emit_apply, hfirst]
    rw [ih]

/-- **What is shown does not depend on the order of tables.** Rows of different sources make the
same snapshot in any order, and stand in it in the order of display. The entries of a table have the
same statuses in any order, one each and in the order of display. So with a steady firewall a tick
blocks the same sources in the same order and with the same outcomes, shows the same snapshot in
every mode, and leaves the same monitor, in whatever order it goes through its tables and from
whatever state of the firewall; the sources that it releases are the same in another order. -/
theorem shown_in_any_order (E : Enforcer σ) (hE : E.IsSteady) (m : Monitor) (now : Instant)
    (t : Traversal m now) (s s' : σ) :
    (∀ (takenAt : Int) (seconds : Nat) (summary : String) (blocked : List BlockStatus)
      (rows rows' : List Row), (rows.map (·.source)).Nodup → rows'.Perm rows →
        let shown := Snapshot.make takenAt seconds summary rows blocked
        Snapshot.make takenAt seconds summary rows' blocked = shown ∧ shown.rows.Perm rows ∧
          shown.rows.Pairwise Row.Before) ∧
      (∀ (b : Blocks) (at' : Instant) (entries : List (Address × Entry)),
        entries.Perm b.table.entries →
          Blocks.statusesOf entries at' = b.statuses at' ∧
            (b.statuses at').Perm
              (b.table.entries.map fun (source, e) => ⟨source, e.secondsLeft at', e.reason⟩) ∧
            (b.statuses at').Pairwise BlockStatus.Before) ∧
      let one := (m.tick E now s).value
      let other := (m.tickThrough E now t s').value
      other.1.blocked = one.1.blocked ∧ other.1.snapshot = one.1.snapshot ∧
        (∀ (mode : ReportMode) (clear : Bool),
          mode.present clear other.1.snapshot = mode.present clear one.1.snapshot) ∧
        other.2 = one.2 ∧ other.1.released.Perm one.1.released := by
  refine ⟨fun takenAt seconds summary blocked rows rows' hnodup h => ⟨?_, ?_, ?_⟩,
    fun b at' entries h => ⟨?_, ?_, ?_⟩, ?_⟩
  · exact Snapshot.make_eq_of_perm hnodup h takenAt seconds summary blocked
  · exact List.mergeSort_perm _ _
  · exact Snapshot.pairwise_rows_make hnodup
  · exact b.statusesOf_eq_statuses at' h
  · exact b.perm_statuses at'
  · exact b.pairwise_statuses at'
  · intro one other
    have hone : one = _ := value_tick E m now s
    have hother : other = _ := value_tickThrough E t s'
    have hsnapshot : other.1.snapshot = one.1.snapshot := by rw [hone, hother]
    refine ⟨?_, hsnapshot, fun mode clear => by rw [hsnapshot], ?_, ?_⟩
    · rw [hone, hother]
      exact congrArg Prod.fst (blockEach_of_isSteady hE now _ _ _ _)
    · rw [hone, hother]
    · rw [hone, hother]
      exact t.expired_perm

/-- A tick that releases two sources and blocks three, one of them again and one without success,
beside a block that lasts on: every table gone through backwards, and two rows and two blocks for
which the address decides. -/
theorem shown_in_any_order_backwards :
    let a := Address.v4 0x0a000001
    let b := Address.v4 0xc0000001
    let c := Address.v6 1
    let d := Address.v6 2
    let E := Enforcer.refusing "recorder" fun call =>
      if call.source = b then some (.rejected "block" "exit status: 4" "denied") else none
    let m : Monitor :=
      { window :=
          { span := 10, band := ⟨110, 130⟩
            latest := [⟨c, 400, 5⟩, ⟨b, 500, 6⟩, ⟨a, 301, 7⟩] }
        rules := ⟨.any, [Rule.volume 300]⟩, policy := {}
        blocks :=
          { requested := 40
            table := { entries := [(a, ⟨9, "volume"⟩), (c, ⟨8, "volume"⟩), (d, ⟨50, "volume"⟩)]
                       ascending := by decide } } }
    let t : Traversal m 9 :=
      { held := m.blocks.table.entries.reverse
        sums := (m.window.prune 9).aggregates.entries.reverse
        left := (m.ticked 9).blocks.table.entries.reverse
        held_perm := List.reverse_perm _, sums_perm := List.reverse_perm _
        left_perm := List.reverse_perm _ }
    let other := (m.tickThrough E 9 t ()).value
    let row : Row := ⟨c, 1, 400, 0, .ok⟩
    let row' : Row := ⟨b, 1, 500, 0, .ok⟩
    (E.IsSteady ∧ ([row, row'].map (·.source)).Nodup) ∧
      Snapshot.make 0 0 "" [row', row] [] = Snapshot.make 0 0 "" [row, row'] [] ∧
      other.1.released = [c, a] ∧
      other.1.blocked = [(a, .blocked), (b, .unenforced), (c, .blocked)] ∧
      other.1.snapshot = (m.tick E 9 ()).value.1.snapshot := by
  intro a b c d E m t other row row'
  have hE : E.IsSteady := fun _ _ _ => rfl
  have hnodup : ([row, row'].map (·.source)).Nodup := by decide
  obtain ⟨hrows, -, hblocked, hsnapshot, -⟩ := shown_in_any_order E hE m 9 t () ()
  have hone : (m.tick E 9 ()).value.1.blocked =
      [(a, .blocked), (b, .unenforced), (c, .blocked)] := by
    have hculprits : m.culprits 9 =
        [⟨a, ⟨1, 301, 0⟩, ["volume"]⟩, ⟨b, ⟨1, 500, 0⟩, ["volume"]⟩,
          ⟨c, ⟨1, 400, 0⟩, ["volume"]⟩] :=
      (offenders_of_ascending _ (m.settled 9).window.aggregates.ascending).1.trans
        (by decide +kernel)
    rw [value_tick, requests, hculprits]
    decide +kernel
  exact ⟨⟨hE, hnodup⟩, (hrows 0 0 "" [] [row, row'] [row', row] hnodup (.swap ..)).1,
    by decide +kernel, hblocked.trans hone, hsnapshot⟩

end Monitor

end SourceGuard
