import DssStore.Cockroach.CreateOnly

/-!
# Reading a subscription back, and the last write of a run

`GetSubscription` is the one operation of the newer store that runs outside a transaction: it
calls `fetchSubscriptionByID` with `c.DB` as its `queryable`, so its one statement runs on its own
against the committed tables (`onDB`, `getSubscription`).

The rest of the file is what a run's last step left when it committed: the tables after it
(`replay_append_of_ok`), and, for an insert or an update, the push it did and the entity it
answered (`Step.push_ok`), which `DssStore.Cockroach.Optimistic` builds on.
-/

set_option autoImplicit false

namespace DssStore

/-- A program run on the `*sql.DB` itself rather than on a transaction, as
`fetchSubscriptionByID(ctx, c.DB, id)` is: the database runs the statement on its own, against the
committed tables, and commits what it writes at once.  The transaction handle is not touched. -/
def onDB {D α : Type} (x : Tx D α) : Tx D α := fun c =>
  match x { c with view := c.db, phase := .active } with
  | .ok a c' =>
    .ok a { c' with db := c'.view, view := c.view, phase := c.phase, events := c.events }
  | .error e c' => .error e { c' with view := c.view, phase := c.phase, events := c.events }

namespace Cockroach

/-- `GetSubscription`: `fetchSubscriptionByID` on `c.DB`. -/
def getSubscription (id : String) : Tx Db Subscription := onDB (fetchSubscriptionByID id)

/-! ## The last step of a run -/

/-- A run that answered `a` ended in some state. -/
theorem exists_of_toExcept_eq_ok {ε σ α : Type} :
    ∀ {x : EStateM.Result ε σ α} {a : α}, x.toExcept = .ok a → ∃ s, x = .ok a s
  | .ok _ s, _, rfl => ⟨s, rfl⟩
  | .error _ _, _, h => nomatch h

theorem replay_append_of_ok (steps : List Step) {st : Step} {r : Subscription} {c : Conn Db}
    (h : st.run (replay steps).db = .ok r c) : (replay (steps ++ [st])).db = c.db := by
  rw [replay, List.foldl_append, List.foldl_cons, List.foldl_nil, ← replay,
    History.step_of_ok h]

/-- A committed insert or update pushed an entity of the id it names, and answers the row the push
wrote, with the entity's cells. -/
theorem Step.push_ok {st : Step} {d : Db} {r : Subscription} {c : Conn Db}
    (h : st.run d = .ok r c)
    (hw : ∀ id owner version, st.call ≠ .deleteSubscription id owner version) :
    ∃ p, pushTables p st.now d = .ok c.db ∧ p.id = st.call.id ∧
      r = { (upsertedRow p st.now).toModel with cells := p.cells } := by
  obtain ⟨call, t, fs⟩ := st
  cases call with
  | insertSubscription s =>
    obtain ⟨-, hpush, rfl⟩ := insertSubscription_ok h
    exact ⟨s, hpush, rfl, rfl⟩
  | updateSubscription s =>
    obtain ⟨old, hsel, -, hpush, rfl⟩ := updateSubscription_ok h
    exact ⟨_, hpush, (mem_of_selectByIDAndOwner_eq hsel).2.1, rfl⟩
  | deleteSubscription id owner version => exact absurd rfl (hw id owner version)

end Cockroach
end DssStore
