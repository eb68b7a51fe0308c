import DssStore.Cockroach.Spec

/-!
# Runs of the newer store

A run is any sequence of the Store's writes — `InsertSubscription`, `UpdateSubscription`,
`DeleteSubscription` — each one transaction with its own timestamp and its own backend faults,
from the tables right after bootstrap.  `History` is where a run has got to: the committed
tables, the steps that committed, and a ghost, `declared`, that records for each id the cells of
the entity the last successful insert or update of that id handed to `pushSubscription`.

## What is here

* `Step.run_ok`, the one inversion lemma for a step: a step that went through is an insert of a
  new id, an update at the stored version, or a delete at the stored version, with the effect
  `DssStore.Cockroach.Spec` proves for each; a step that failed changed nothing
  (`History.step_of_error`).
* `CellIndex`, the invariant of the tables: primary keys, foreign keys, and the cell index of
  every subscription being exactly the cells last declared for it.  A push and a delete keep it
  (`cellIndex_push`, `cellIndex_delete`), so every run does (`cellIndex_history`).
* `step_frame`: a step touches no subscription but the one it names, and none of another owner.
-/

set_option autoImplicit false

namespace DssStore
namespace Cockroach

/-! ## Calls and steps -/

/-- A call of the Store interface that writes a subscription. -/
inductive Call
  | insertSubscription (s : Subscription)
  | updateSubscription (s : Subscription)
  | deleteSubscription (id owner version : String)
  deriving DecidableEq, Repr

namespace Call

/-- The operation a call runs. -/
def run : Call → Tx Db Subscription
  | insertSubscription s => Cockroach.insertSubscription s
  | updateSubscription s => Cockroach.updateSubscription s
  | deleteSubscription id owner version => Cockroach.deleteSubscription id owner version

/-- The id a call names. -/
def id : Call → String
  | insertSubscription s | updateSubscription s => s.id
  | deleteSubscription id _ _ => id

/-- The owner a call is made on behalf of. -/
def owner : Call → String
  | insertSubscription s | updateSubscription s => s.owner
  | deleteSubscription _ owner _ => owner

/-- The entity a call hands to `pushSubscription` when it gets that far: an insert its argument,
an update the stored row of its id and owner overlaid by its argument. -/
def pushed : Call → Db → Option Subscription
  | insertSubscription s, _ => some s
  | updateSubscription s, d =>
    (selectByIDAndOwner s.id s.owner d).head?.map fun old => old.toModel.apply s
  | deleteSubscription .., _ => none

theorem sealed_run : ∀ call : Call, Sealed call.run
  | insertSubscription s => sealed_insertSubscription s
  | updateSubscription s => sealed_updateSubscription s
  | deleteSubscription id owner version => sealed_deleteSubscription id owner version

end Call

/-- One call, made in a transaction at timestamp `now`, against a backend whose round trips fail
as `faults` says. -/
structure Step where
  /-- The call. -/
  call : Call
  /-- `transaction_timestamp()` of its transaction. -/
  now : Int
  /-- Which of its round trips fail. -/
  faults : List Bool
  deriving DecidableEq, Repr

/-- A step's run on the committed tables `d`. -/
def Step.run (st : Step) (d : Db) : EStateM.Result Err (Conn Db) Subscription :=
  st.call.run (Conn.start d st.now st.faults)

/-- **The inversion lemma for a step.**  A step that went through is an insert of an id with no
row, an update of the one row of its id and owner at that row's version, or a delete of such a
row at its version, and its committed tables are what `DssStore.Cockroach.Spec` says. -/
theorem Step.run_ok {st : Step} {d : Db} {r : Subscription} {c : Conn Db}
    (h : st.run d = .ok r c) :
    (∃ s, st.call = .insertSubscription s ∧ selectByID s.id d = [] ∧
      pushTables s st.now d = .ok c.db) ∨
    (∃ s old, st.call = .updateSubscription s ∧ selectByIDAndOwner s.id s.owner d = [old] ∧
      s.version = old.toModel.version ∧ pushTables (old.toModel.apply s) st.now d = .ok c.db) ∨
    (∃ id owner version old, st.call = .deleteSubscription id owner version ∧
      selectByIDAndOwner id owner d = [old] ∧ version = old.toModel.version ∧
      c.db = deleteSubscriptionRow id owner d) := by
  obtain ⟨call, now, faults⟩ := st
  cases call with
  | insertSubscription s =>
    obtain ⟨hnone, hpush, -⟩ := insertSubscription_ok h
    exact .inl ⟨s, rfl, hnone, hpush⟩
  | updateSubscription s =>
    obtain ⟨old, hsel, hver, hpush, -⟩ := updateSubscription_ok h
    exact .inr (.inl ⟨s, old, rfl, hsel, hver, hpush⟩)
  | deleteSubscription id owner version =>
    obtain ⟨old, hsel, hver, hdb, -⟩ := deleteSubscription_ok h
    exact .inr (.inr ⟨id, owner, version, old, rfl, hsel, hver, hdb⟩)

/-! ## Histories -/

/-- Where a run has got to. -/
structure History where
  /-- The committed tables. -/
  db : Db
  /-- For each id, the cells of the entity the last successful insert or update of that id handed
  to `pushSubscription`. -/
  declared : String → List CellID
  /-- The steps that committed, in order. -/
  committed : List Step

namespace History

/-- Right after bootstrap. -/
def init : History := ⟨Db.empty, fun _ => [], []⟩

/-- One more step: its committed tables, and, when it committed, its record. -/
def step (h : History) (st : Step) : History :=
  match st.run h.db with
  | .ok _ c =>
    { db := c.db
      declared := match st.call.pushed h.db with
        | some p => fun id => if id = p.id then p.cellList else h.declared id
        | none => h.declared
      committed := h.committed ++ [st] }
  | .error _ c => { h with db := c.db }

variable {h : History} {st : Step}

/-- A step that failed leaves the history as it was. -/
theorem step_of_error {e : Err} {c : Conn Db} (hrun : st.run h.db = .error e c) : h.step st = h := by
  have hdb : c.db = h.db := Call.sealed_run st.call _ e c hrun
  rw [step, hrun]
  simp only [hdb]

theorem step_of_ok {r : Subscription} {c : Conn Db} (hrun : st.run h.db = .ok r c) :
    h.step st =
      { db := c.db
        declared := match st.call.pushed h.db with
          | some p => fun id => if id = p.id then p.cellList else h.declared id
          | none => h.declared
        committed := h.committed ++ [st] } := by
  rw [step, hrun]

end History

/-- The history of a run from bootstrap. -/
def replay (steps : List Step) : History := steps.foldl History.step History.init

/-! ## The cell index -/

/-- The invariant of the tables, given the cells last declared for each id: `id` is a primary key,
every cell row names a subscription, and the cell ids the index holds for a subscription are
exactly the `int64`s of its declared cells. -/
structure CellIndex (d : Db) (declared : String → List CellID) : Prop where
  keys : (d.subscriptions.map SubscriptionRow.id).Nodup
  owned : ∀ q ∈ d.cellsSubscriptions, ∃ x ∈ d.subscriptions, x.id = q.subscriptionId
  exact : ∀ x ∈ d.subscriptions, ∀ cid,
    cid ∈ cellKeys x.id d ↔ cid ∈ (declared x.id).map CellID.toInt64

theorem cellIndex_empty (declared : String → List CellID) : CellIndex Db.empty declared :=
  ⟨List.nodup_nil, fun _ h => (nomatch h), fun _ h => (nomatch h)⟩

/-- With `id` a primary key, the row a read by id and owner found is the only row of its id: any
row of another owner has another id. -/
theorem id_ne_of_mem_select {d : Db} {id owner : String} {old x : SubscriptionRow}
    (hk : (d.subscriptions.map SubscriptionRow.id).Nodup) (hold : old ∈ selectByIDAndOwner id owner d)
    (hx : x ∈ d.subscriptions) (hother : x.id ≠ id ∨ x.owner ≠ owner) : x.id ≠ id := by
  intro hid
  obtain ⟨hold, hold'⟩ := List.mem_filter.mp hold
  obtain ⟨hoid, hown⟩ : old.id = id ∧ old.owner = owner := by simpa using hold'
  obtain rfl : x = old := List.inj_on_of_nodup_map hk hx hold (hid.trans hoid.symm)
  exact hother.elim (· hid) (· hown)

section Keep

variable {d d' : Db} {declared : String → List CellID}

/-- **A push keeps the invariant**, once the pushed entity's cells are declared for its id. -/
theorem cellIndex_push {p : Subscription} {now : Int} (hi : CellIndex d declared)
    (h : pushTables p now d = .ok d') :
    CellIndex d' fun id => if id = p.id then p.cellList else declared id := by
  have hsubs := pushTables_subscriptions h
  have hkept : ∀ {x}, x ∈ d.subscriptions → x.id ≠ p.id → x ∈ d'.subscriptions := fun hx hne => by
    rw [hsubs]; exact List.mem_cons_of_mem _ (List.mem_filter.mpr ⟨hx, by simpa using hne⟩)
  refine ⟨?_, fun q hq => ?_, fun x hx cid => ?_⟩
  · rw [hsubs, List.map_cons, List.nodup_cons]
    refine ⟨fun hmem => ?_, hi.keys.sublist ((List.filter_sublist _).map _)⟩
    obtain ⟨x, hx, hid⟩ := List.mem_map.mp hmem
    exact absurd hid (by simpa using (List.mem_filter.mp hx).2)
  · by_cases hid : q.subscriptionId = p.id
    · exact ⟨upsertedRow p now, by rw [hsubs]; exact List.mem_cons_self _ _, hid.symm⟩
    · have hq' : q ∈ cellsOf q.subscriptionId d := by
        rw [← cellsOf_pushTables_of_ne h hid]; exact mem_cellsOf.mpr ⟨hq, rfl⟩
      obtain ⟨x, hx, hxid⟩ := hi.owned q (mem_cellsOf.mp hq').1
      exact ⟨x, hkept hx (hxid ▸ hid), hxid⟩
  · rw [hsubs] at hx
    rcases List.mem_cons.mp hx with rfl | hx
    · simp only [upsertedRow_id, if_true]
      exact mem_cellKeys_pushTables h
    · obtain ⟨hx, hne⟩ := List.mem_filter.mp hx
      have hne : x.id ≠ p.id := by simpa using hne
      rw [if_neg hne, cellKeys_congr (cellsOf_pushTables_of_ne h hne)]
      exact hi.exact x hx cid

/-- **A delete keeps the invariant**: with `id` a primary key the deleted row is the only one of
its id, and the cascade takes exactly its cell rows. -/
theorem cellIndex_delete {id owner : String} {old : SubscriptionRow} (hi : CellIndex d declared)
    (hsel : selectByIDAndOwner id owner d = [old]) :
    CellIndex (deleteSubscriptionRow id owner d) declared := by
  have hold : old ∈ selectByIDAndOwner id owner d := hsel ▸ List.mem_singleton_self _
  have hdel : deleteSubscriptionRow id owner d = _ :=
    deleteSubscriptionRow_of_ne_nil (by rw [hsel]; exact List.cons_ne_nil _ _)
  refine ⟨?_, fun q hq => ?_, fun x hx cid => ?_⟩
  · rw [hdel]; exact hi.keys.sublist ((List.filter_sublist _).map _)
  · rw [hdel] at hq
    obtain ⟨hq, hne⟩ := List.mem_filter.mp hq
    have hne : q.subscriptionId ≠ id := by simpa using hne
    obtain ⟨x, hx, hxid⟩ := hi.owned q hq
    refine ⟨x, ?_, hxid⟩
    rw [hdel]
    exact List.mem_filter.mpr ⟨hx, by simp [hxid, hne]⟩
  · have hx' : x ∈ d.subscriptions := by rw [hdel] at hx; exact (List.mem_filter.mp hx).1
    have hne : x.id ≠ id := by
      rw [hdel] at hx
      have := (List.mem_filter.mp hx).2
      exact id_ne_of_mem_select hi.keys hold hx' (by simpa [not_and_or] using this)
    rw [cellKeys_congr (cellsOf_deleteSubscriptionRow_of_ne hne)]
    exact hi.exact x hx' cid

end Keep

/-- **A step keeps the invariant**, whatever it does. -/
theorem cellIndex_step {h : History} (st : Step) (hi : CellIndex h.db h.declared) :
    CellIndex (h.step st).db (h.step st).declared := by
  cases hrun : st.run h.db with
  | error e c => rw [History.step_of_error hrun]; exact hi
  | ok r c =>
    rw [History.step_of_ok hrun]
    rcases Step.run_ok hrun with ⟨s, hcall, -, hpush⟩ | ⟨s, old, hcall, hsel, -, hpush⟩ |
        ⟨id, owner, version, old, hcall, hsel, -, hdb⟩
    · simp only [hcall, Call.pushed]
      exact cellIndex_push hi hpush
    · simp only [hcall, Call.pushed, hsel, List.head?_cons, Option.map_some']
      exact cellIndex_push hi hpush
    · simp only [hcall, Call.pushed, hdb]
      exact cellIndex_delete hi hsel

theorem cellIndex_foldl : ∀ (steps : List Step) (h : History), CellIndex h.db h.declared →
    CellIndex (steps.foldl History.step h).db (steps.foldl History.step h).declared
  | [], _, hi => hi
  | st :: steps, _, hi => cellIndex_foldl steps _ (cellIndex_step st hi)

theorem cellIndex_history (steps : List Step) :
    CellIndex (replay steps).db (replay steps).declared :=
  cellIndex_foldl steps _ (cellIndex_empty _)

/-- **The cell index of every run.**  After any sequence of inserts, updates and deletes, with any
arguments, timestamps and backend faults: every cell row names an existing subscription, and the
cell ids the index holds for a subscription are exactly the `int64`s of the cells of the entity
the last successful insert or update of it handed to `pushSubscription`. -/
theorem cells_match_declared (steps : List Step) :
    (∀ q ∈ (replay steps).db.cellsSubscriptions,
      ∃ x ∈ (replay steps).db.subscriptions, x.id = q.subscriptionId) ∧
    ∀ x ∈ (replay steps).db.subscriptions, ∀ cid, cid ∈ cellKeys x.id (replay steps).db ↔
      cid ∈ ((replay steps).declared x.id).map CellID.toInt64 :=
  ⟨(cellIndex_history steps).owned, (cellIndex_history steps).exact⟩

/-! ## The frame of a step -/

/-- **A step touches only its own subscription.**  From any state a run reaches, a call, whether
it succeeds or fails, leaves the row and the cell rows of every subscription that has another id,
or another owner, exactly as they were. -/
theorem step_frame (steps : List Step) (st : Step) {x : SubscriptionRow}
    (hx : x ∈ (replay steps).db.subscriptions)
    (hother : x.id ≠ st.call.id ∨ x.owner ≠ st.call.owner) :
    selectByID x.id (st.run (replay steps).db).state.db = selectByID x.id (replay steps).db ∧
      cellsOf x.id (st.run (replay steps).db).state.db = cellsOf x.id (replay steps).db := by
  have hk := (cellIndex_history steps).keys
  generalize (replay steps).db = d at hx hk
  cases hrun : st.run d with
  | error e c =>
    rw [EStateM.Result.state_error, Call.sealed_run st.call _ e c hrun]
    exact ⟨rfl, rfl⟩
  | ok r c =>
    rw [EStateM.Result.state_ok]
    rcases Step.run_ok hrun with ⟨s, hcall, hnone, hpush⟩ | ⟨s, old, hcall, hsel, -, hpush⟩ |
        ⟨id, owner, version, old, hcall, hsel, -, hdb⟩
    · have hne : x.id ≠ s.id := fun hid =>
        List.not_mem_nil x (hnone ▸ List.mem_filter.mpr ⟨hx, by simpa using hid⟩)
      exact ⟨selectByID_pushTables_of_ne hpush hne, cellsOf_pushTables_of_ne hpush hne⟩
    · obtain ⟨-, hoid, -⟩ := mem_of_selectByIDAndOwner_eq hsel
      have hold : old ∈ selectByIDAndOwner s.id s.owner d := hsel ▸ List.mem_singleton_self _
      have hne : x.id ≠ (old.toModel.apply s).id := by
        rw [Subscription.apply_id, SubscriptionRow.toModel_id, hoid]
        rw [hcall] at hother
        exact id_ne_of_mem_select hk hold hx hother
      exact ⟨selectByID_pushTables_of_ne hpush hne, cellsOf_pushTables_of_ne hpush hne⟩
    · have hold : old ∈ selectByIDAndOwner id owner d := hsel ▸ List.mem_singleton_self _
      rw [hcall] at hother
      have hne : x.id ≠ id := id_ne_of_mem_select hk hold hx hother
      rw [hdb]
      exact ⟨selectByID_deleteSubscriptionRow_of_ne hne, cellsOf_deleteSubscriptionRow_of_ne hne⟩

/-- `x`, of owner `a` and cell 42, inserted at timestamp 1. -/
def frameRun : List Step :=
  [⟨.insertSubscription ⟨"x", "u", 0, "a", some [42], none, none, none⟩, 1, []⟩]

/-- A delete of `x` on behalf of another owner, `b`, at `x`'s version. -/
def foreignDelete : Step := ⟨.deleteSubscription "x" "b" (timestampToVersionString 1), 2, []⟩

theorem step_frame_foreign_delete :
    (⟨"x", "a", "u", 0, none, none, 1⟩ : SubscriptionRow) ∈ (replay frameRun).db.subscriptions ∧
      selectByID "x" (foreignDelete.run (replay frameRun).db).state.db =
        selectByID "x" (replay frameRun).db ∧
      cellsOf "x" (foreignDelete.run (replay frameRun).db).state.db =
        cellsOf "x" (replay frameRun).db :=
  have hx : (⟨"x", "a", "u", 0, none, none, 1⟩ : SubscriptionRow) ∈
      (replay frameRun).db.subscriptions := by decide
  ⟨hx, step_frame frameRun foreignDelete hx (.inr (by decide))⟩

end Cockroach
end DssStore
