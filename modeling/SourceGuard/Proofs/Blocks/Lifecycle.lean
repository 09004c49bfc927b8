import SourceGuard.Proofs.Blocks.Passage

/-!
# The life of blocks

Blocks of one source never overlap: each begins with one call that adds it, may be re-asserted while
it lasts, and ends with one call that removes it. This holds in every run, whatever the firewall
answers, and whether the source has an entry can be read off the calls made so far.

## Main definitions

* `Lifecycle`: the moves that lead from having an entry, or none, to having one, or none
* `Move.changes`: the moves that begin and end blocks
* `Disciplined`: what holds of the calls for one source

## Main results

* `Monitor.lifecycle_run`: the moves of a run make a lifecycle
* `Monitor.disciplined_run`: the calls for every source are disciplined
-/

namespace SourceGuard

variable {σ : Type}

/-- The moves that begin and end blocks. -/
def Move.changes (moves : List Move) : List Move := moves.filter (· ≠ .reassert)

theorem Move.reassert_notMem_changes (moves : List Move) : .reassert ∉ changes moves := by
  simp [changes]

/-- Moves that lead from having an entry, or none, to having one, or none. -/
inductive Lifecycle : Bool → List Move → Bool → Prop where
  /-- Without a move nothing changes. -/
  | nil (held : Bool) : Lifecycle held [] held
  /-- A block begins where there is none. -/
  | block {moves : List Move} {held : Bool} :
      Lifecycle true moves held → Lifecycle false (.block :: moves) held
  /-- A block is re-asserted while it lasts. -/
  | reassert {moves : List Move} {held : Bool} :
      Lifecycle true moves held → Lifecycle true (.reassert :: moves) held
  /-- A block ends where there is one. -/
  | unblock {moves : List Move} {held : Bool} :
      Lifecycle false moves held → Lifecycle true (.unblock :: moves) held

namespace Lifecycle

variable {held held' held'' : Bool} {moves moves' : List Move}

theorem append (h : Lifecycle held moves held') (h' : Lifecycle held' moves' held'') :
    Lifecycle held (moves ++ moves') held'' := by
  induction h with
  | nil => exact h'
  | block _ ih => exact .block (ih h')
  | reassert _ ih => exact .reassert (ih h')
  | unblock _ ih => exact .unblock (ih h')

theorem of_append (h : Lifecycle held (moves ++ moves') held'') :
    ∃ held', Lifecycle held moves held' ∧ Lifecycle held' moves' held'' := by
  induction moves generalizing held with
  | nil => exact ⟨held, .nil held, h⟩
  | cons move rest ih =>
    cases h with
    | block h => obtain ⟨mid, hfirst, hsecond⟩ := ih h; exact ⟨mid, .block hfirst, hsecond⟩
    | reassert h => obtain ⟨mid, hfirst, hsecond⟩ := ih h; exact ⟨mid, .reassert hfirst, hsecond⟩
    | unblock h => obtain ⟨mid, hfirst, hsecond⟩ := ih h; exact ⟨mid, .unblock hfirst, hsecond⟩

/-- The moves that begin and end blocks are a lifecycle of their own. -/
theorem changes (h : Lifecycle held moves held') :
    Lifecycle held (Move.changes moves) held' := by
  induction h with
  | nil held => exact .nil held
  | block _ ih => exact .block ih
  | reassert _ ih => exact ih
  | unblock _ ih => exact .unblock ih

/-- Blocks begin and end in turn. -/
theorem count_eq (h : Lifecycle held moves held') :
    moves.count .block + held.toNat = moves.count .unblock + held'.toNat := by
  induction h with
  | nil => rfl
  | block _ ih => simp at ih ⊢; omega
  | reassert _ ih => simpa using ih
  | unblock _ ih => simp at ih ⊢; omega

/-- A block that no move ends lasts. -/
theorem eq_true_of_unblock_notMem (h : Lifecycle true moves held) (hmoves : .unblock ∉ moves) :
    held = true := by
  induction moves with
  | nil =>
    cases h
    rfl
  | cons move rest ih =>
    cases h with
    | reassert h => exact ih h fun hmem => hmoves (List.mem_cons_of_mem _ hmem)
    | unblock => exact absurd List.mem_cons_self hmoves

/-- The change that is possible next. -/
def due : (held : Bool) → Move
  | false => .block
  | true => .unblock

/-- **The changes alternate.** -/
theorem getElem_of_changes (h : Lifecycle held moves held') (hchanges : .reassert ∉ moves) (i : Nat)
    (hi : i < moves.length) : moves[i] = if i % 2 = 0 then due held else due !held := by
  induction h generalizing i with
  | nil => cases hi
  | reassert => exact absurd List.mem_cons_self hchanges
  | block _ ih | unblock _ ih =>
    cases i with
    | zero => rfl
    | succ i =>
      rw [List.getElem_cons_succ, ih (fun h => hchanges (List.mem_cons_of_mem _ h)) i
        (Nat.lt_of_succ_lt_succ hi)]
      have : (i + 1) % 2 = 0 ↔ ¬ i % 2 = 0 := by omega
      by_cases hparity : i % 2 = 0 <;> simp [this, hparity]

theorem eq_of_changes (h : Lifecycle held moves held') (hchanges : .reassert ∉ moves) :
    held' = (moves.getLast?.map fun move => decide (move = .block)).getD held := by
  induction h with
  | nil => rfl
  | reassert => exact absurd List.mem_cons_self hchanges
  | @block rest _ _ ih | @unblock rest _ _ ih =>
    rw [ih fun h => hchanges (List.mem_cons_of_mem _ h), List.getLast?_cons]
    cases rest.getLast? <;> rfl

/-- **Whether there is an entry in the end** can be read off the last change. -/
theorem held_iff (h : Lifecycle false moves held) :
    held = true ↔ (Move.changes moves).getLast? = some .block := by
  rw [h.changes.eq_of_changes (Move.reassert_notMem_changes moves)]
  cases (Move.changes moves).getLast? <;> simp

/-- The next change, if there is one, is the one that is due. -/
theorem head?_changes (h : Lifecycle held moves held') {move : Move}
    (hhead : (Move.changes moves).head? = some move) : move = due held := by
  have hchanges := Move.reassert_notMem_changes moves
  have hlife := h.changes
  generalize Move.changes moves = changes at hlife hhead hchanges
  cases hlife with
  | nil => cases hhead
  | reassert => exact absurd List.mem_cons_self hchanges
  | block | unblock => exact (Option.some.inj hhead).symm

end Lifecycle

/-- What an operation does to a source is part of a lifecycle. -/
theorem Passage.lifecycle {m : Monitor} {op : Operation} {source : Address}
    {before after : Option Entry} {moves : List Move}
    (h : Passage m op source before moves after) :
    Lifecycle before.isSome moves after.isSome := by
  cases h with
  | absent => exact .nil false
  | kept => exact .nil true
  | reasserted => exact .reassert (.nil true)
  | blocked => exact .block (.nil true)
  | released => exact .unblock (.nil false)
  | renewed => exact .unblock (.block (.nil true))

/-- **The moves of a run** are a lifecycle. -/
theorem Monitor.lifecycle_run (E : Enforcer σ) (ops : List Operation) (m : Monitor) (s : σ)
    (source : Address) :
    Lifecycle (m.blocks.isBlocked source) ((m.run E ops s).moves source)
      ((m.run E ops s).monitor.blocks.isBlocked source) := by
  induction ops generalizing m s with
  | nil => exact .nil _
  | cons op rest ih =>
    -- the first step does one of the possible things, and the others go on from there
    have hmem : _ ∈ (m.run E (op :: rest) s).steps := List.mem_cons_self
    have hfirst := (passage_of_mem E hmem source).lifecycle
    have hlater := ih (m.operate E op s).value.2 (m.operate E op s).firewall
    have hmoves : (m.run E (op :: rest) s).moves source = _ ++ _ := List.map_append
    rw [hmoves]
    exact hfirst.append hlater

/-! ## Discipline -/

/-- What holds of the calls for one source, in a run that began with an empty table. -/
structure Disciplined (E : Enforcer σ) (run : Run σ) (source : Address) : Prop where
  /-- Calls that begin and end blocks alternate, and the first one begins a block. -/
  alternate : ∀ (i : Nat) (h : i < (Move.changes (run.moves source)).length),
    (Move.changes (run.moves source))[i] = if i % 2 = 0 then .block else .unblock
  /-- The source has an entry exactly when the last of these calls begins a block. -/
  blocked_iff : run.monitor.blocks.isBlocked source = true ↔
    (Move.changes (run.moves source)).getLast? = some .block
  /-- At no time have more blocks ended than begun, nor has more than one not ended. -/
  balanced : ∀ past, past <+: Move.changes (run.moves source) →
    past.count .unblock ≤ past.count .block ∧ past.count .block ≤ past.count .unblock + 1
  /-- A re-assertion comes between the call that begins a block and the call that ends it. -/
  between : ∀ past future, run.moves source = past ++ .reassert :: future →
    (Move.changes past).getLast? = some .block ∧
      ∀ move, (Move.changes future).head? = some move → move = .unblock
  /-- A reconciliation re-asserts the block of the source once, if there is one. -/
  reconciled : ∀ step ∈ run.steps, step.operation = .reconcile →
    step.moves source = if step.before.blocks.isBlocked source then [.reassert] else []
  /-- Nothing else re-asserts. -/
  reconciles : ∀ step ∈ run.steps, .reassert ∈ step.moves source → step.operation = .reconcile
  /-- A request for a source with an entry makes no call and changes nothing. -/
  idempotent : run.monitor.blocks.isBlocked source = true → ∀ now reason,
    run.monitor.operate E (.request source now reason) run.firewall =
      ⟨(.requested .alreadyBlocked, run.monitor), run.firewall, []⟩

/-- A reconciliation re-asserts the block of a source, if there is one. -/
theorem Passage.moves_of_reconcile {m : Monitor} {source : Address} {before after : Option Entry}
    {moves : List Move} (h : Passage m .reconcile source before moves after) :
    moves = if before.isSome then [.reassert] else [] := by
  cases h with
  | absent => rfl
  | kept e _ hop => exact absurd rfl hop
  | reasserted => rfl
  | blocked e hgrant => exact hgrant.elim
  | released e hend | renewed e _ hend =>
    exact absurd hend (Operation.not_ends Operation.noConfusion rfl e)

theorem Passage.eq_reconcile {m : Monitor} {op : Operation} {source : Address}
    {before after : Option Entry} {moves : List Move} (h : Passage m op source before moves after)
    (hmem : .reassert ∈ moves) : op = .reconcile := by
  cases h with
  | reasserted _ hop => exact hop
  | _ => simp at hmem

namespace Monitor

/-- In a run from an empty table, the moves of every source begin without an entry. -/
theorem lifecycle_run_of_empty (E : Enforcer σ) {m : Monitor} (hm : m.blocks.table = .empty)
    (ops : List Operation) (s : σ) (source : Address) :
    Lifecycle false ((m.run E ops s).moves source)
      ((m.run E ops s).monitor.blocks.isBlocked source) := by
  have hfree : m.blocks.isBlocked source = false := by
    rw [Blocks.isBlocked_eq_false_iff, hm, AddressMap.get?_empty]
  exact hfree ▸ lifecycle_run E ops m s source

/-- **The calls for every source are disciplined**, in every run from an empty table. -/
theorem disciplined_run (E : Enforcer σ) (m : Monitor) (hm : m.blocks.table = .empty)
    (ops : List Operation) (s : σ) (source : Address) :
    Disciplined E (m.run E ops s) source := by
  have hlife := lifecycle_run_of_empty E hm ops s source
  constructor
  case alternate =>
    intro i hi
    exact hlife.changes.getElem_of_changes (Move.reassert_notMem_changes _) i hi
  case blocked_iff => exact hlife.held_iff
  case balanced =>
    rintro past ⟨future, hsplit⟩
    -- the changes so far are a lifecycle, in which blocks begin and end in turn
    have hchanges := hlife.changes
    rw [← hsplit] at hchanges
    obtain ⟨held, hpast, -⟩ := Lifecycle.of_append hchanges
    have hcount := hpast.count_eq
    have hheld := Bool.toNat_le held
    simp only [Bool.toNat_false] at hcount
    omega
  case between =>
    intro past future hsplit
    rw [hsplit] at hlife
    obtain ⟨held, hpast, hrest⟩ := Lifecycle.of_append hlife
    -- a re-assertion needs an entry before it and leaves one
    cases hrest with
    | reassert hfuture => exact ⟨hpast.held_iff.mp rfl, fun _ => hfuture.head?_changes⟩
  case reconciled =>
    intro step hstep hop
    have h := passage_of_mem E hstep source
    rw [hop] at h
    exact h.moves_of_reconcile
  case reconciles =>
    intro step hstep hmem
    exact (passage_of_mem E hstep source).eq_reconcile hmem
  case idempotent =>
    intro hblocked now reason
    have hrequest := Blocks.request_of_isBlocked E hblocked now reason (m.run E ops s).firewall
    simp only [operate, bind, Action.bind, hrequest]
    rfl

/-- A block that a tick begins, that is re-asserted, and that the firewall refuses to end. -/
theorem disciplined_run_of_refusals :
    let E := Enforcer.refusing "recorder" fun c => match c with
      | .add _ => none
      | .remove _ => some (.rejected "remove" "exit status: 4" "denied")
    let m : Monitor :=
      { window := { span := 30, band := default }, rules := ⟨.any, [Rule.volume 100]⟩, policy := {}
        blocks := { requested := 30 } }
    let source := Address.v4 0x0a000001
    let ops := [.ingest ⟨source, 200, 0⟩, .tick 5, .request source 10 "pattern", .reconcile,
      .tick 34, .tick 35, .request source 36 "pattern"]
    m.blocks.table = .empty ∧
      (m.run E ops ()).moves source = [.block, .reassert, .unblock, .block] ∧
      Disciplined E (m.run E ops ()) source :=
  ⟨rfl, by decide +kernel, disciplined_run _ _ rfl _ () _⟩

end Monitor

end SourceGuard
