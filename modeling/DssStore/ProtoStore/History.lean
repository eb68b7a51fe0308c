import DssStore.ProtoStore.Runs

/-!
# Histories of the older store

`replay` keeps only the committed tables of a run.  What a run did is more than its tables: which
calls went through, and, for each subscription, the cells its callers handed the store.  A
`History` records both beside the tables, and `History.replay_db` says that its tables are
`replay`'s, so that what is proved of histories is proved of the store's runs.

## What is here

* `Call.sealed_run`: a call that fails leaves the tables as they were;
* `Call.declare`: the cells a call that went through declares for the subscription it writes;
* `History`, `History.step` and `History.replay`, and `History.replay_db`;
* `committed_prefix_foldl`: the commits of a history only grow.
-/

set_option autoImplicit false

namespace DssStore
namespace ProtoStore

/-! ## Calls -/

theorem sealed_discardAnswer {α : Type} {x : Tx Db α} (hx : Sealed x) : Sealed (discardAnswer x) :=
  fun c _ _ h => hx c _ _ (discardAnswer_error h)

theorem discardAnswer_ok {α : Type} {x : Tx Db α} {c c' : Conn Db} {u : Unit}
    (h : discardAnswer x c = .ok u c') : ∃ a, x c = .ok a c' := by
  obtain ⟨a, c₁, h₁, h⟩ := bind_ok.mp h
  cases h
  exact ⟨a, h₁⟩

namespace Call

/-- A call that fails leaves the tables as they were. -/
theorem sealed_run : ∀ call : Call, Sealed call.run
  | insertSubscription s cells => sealed_discardAnswer (sealed_insertSubscription s cells)
  | updateSubscription s cells => sealed_discardAnswer (sealed_updateSubscription s cells)
  | getSubscription id => sealed_discardAnswer (sealed_getSubscription id)
  | deleteSubscription id version => sealed_discardAnswer (sealed_deleteSubscription id version)
  | searchSubscriptions cells owner =>
    sealed_discardAnswer (sealed_searchSubscriptions cells owner)
  | insertIdentificationServiceAreaUnchecked sa cells =>
    sealed_discardAnswer (sealed_insertIdentificationServiceAreaUnchecked sa cells)
  | deleteIdentificationServiceArea id owner =>
    sealed_discardAnswer (sealed_deleteIdentificationServiceArea id owner)

/-- The cells a call that went through declares for the subscription it writes, given those
declared so far: an insert its cells, an update its cells on top of those declared, a delete
none. -/
def declare (declared : String → List CellID) : Call → String → List CellID
  | insertSubscription s cells => fun id => if id = s.id then cells else declared id
  | updateSubscription s cells => fun id => if id = s.id then declared id ++ cells else declared id
  | deleteSubscription id' _ => fun id => if id = id' then [] else declared id
  | _ => declared

end Call

/-! ## Histories -/

/-- A run of the older store so far. -/
structure History where
  /-- The committed tables. -/
  db : Db
  /-- For each id, the cells handed to the last successful insert of it and to every successful
  update of it since, none after a successful delete. -/
  declared : String → List CellID
  /-- The steps that went through, in order. -/
  committed : List Step

namespace History

/-- Right after bootstrap. -/
def init : History := ⟨Db.empty, fun _ => [], []⟩

/-- One more step: when it went through, its tables, its cells and its record. -/
def step (h : History) (st : Step) : History :=
  match st.run h.db with
  | .ok _ c =>
    { db := c.db, declared := st.call.declare h.declared, committed := h.committed ++ [st] }
  | .error _ c => { h with db := c.db }

/-- The history of a run from bootstrap. -/
def replay (steps : List Step) : History := steps.foldl step init

variable {h : History} {st : Step} {c : Conn Db}

theorem step_of_ok {u : Unit} (hrun : st.run h.db = .ok u c) :
    h.step st =
      { db := c.db, declared := st.call.declare h.declared, committed := h.committed ++ [st] } := by
  simp only [step, hrun]

/-- A step that failed leaves the history as it was. -/
theorem step_of_error {e : Err} (hrun : st.run h.db = .error e c) : h.step st = h := by
  have hdb : c.db = h.db := Call.sealed_run st.call _ e c hrun
  simp only [step, hrun, hdb]

theorem step_of_not_ok (hfail : ∀ u c, st.run h.db ≠ .ok u c) : h.step st = h := by
  cases hrun : st.run h.db with
  | ok u c => exact absurd hrun (hfail u c)
  | error e c => exact step_of_error hrun

theorem step_db (h : History) (st : Step) : (h.step st).db = (st.run h.db).state.db := by
  cases hrun : st.run h.db with
  | ok u c => rw [step_of_ok hrun]; rfl
  | error e c => rw [step_of_error hrun]; exact (Call.sealed_run st.call _ e c hrun).symm

theorem foldl_db : ∀ (steps : List Step) (h : History),
    (steps.foldl step h).db = steps.foldl (fun d st => (st.run d).state.db) h.db
  | [], _ => rfl
  | st :: steps, h => by rw [List.foldl_cons, List.foldl_cons, foldl_db, step_db]

/-- **The tables of a history are those of the run.** -/
theorem replay_db (steps : List Step) : (replay steps).db = ProtoStore.replay steps :=
  foldl_db steps init

theorem committed_prefix_step (h : History) (st : Step) :
    h.committed <+: (h.step st).committed := by
  cases hrun : st.run h.db with
  | error e c => rw [step_of_error hrun]
  | ok u c =>
    rw [step_of_ok hrun]
    exact List.prefix_append _ _

end History

theorem committed_prefix_foldl : ∀ (steps : List Step) (h : History),
    h.committed <+: (steps.foldl History.step h).committed
  | [], _ => List.prefix_refl _
  | st :: steps, h =>
    (h.committed_prefix_step st).trans (committed_prefix_foldl steps (h.step st))

end ProtoStore
end DssStore
