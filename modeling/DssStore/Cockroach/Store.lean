import DssStore.Cockroach.Push

/-!
# The newer store's operations

The functions of `src/unnamed/part_001`, each as an `EStateM` program over a connection to the
tables of `DssStore.Cockroach.Tables`.  Each reads as its Go text does: a `return nil, err` is a
`throw`, a `return nil, multierr.Combine(err, tx.Rollback())` a `rollbackWith`, and the `switch`
on the error of a read an `attempt` followed by a `match`.  Two things the Go text does are worth
seeing in the Lean one:

* `InsertSubscription` and `UpdateSubscription` hand an error of `pushSubscription` straight back,
  without rolling the transaction back;
* `DeleteSubscription` compares the caller's version with the stored one as strings, with no case
  for an empty version.

`GetSubscription`, which reads outside any transaction, is not modelled.
-/

set_option autoImplicit false

namespace DssStore
namespace Cockroach

/-! ## Reading subscriptions -/

/-- `fetchSubscriptions`: the rows a statement returns, each scanned into a fresh
`models.Subscription`.  The statement is the query with its arguments: `args` is what the driver
makes of them. -/
def fetchSubscriptions {β : Type} (args : Except Err β)
    (run : β → Int → Db → Except Err (List SubscriptionRow × Db)) : Tx Db (List Subscription) := do
  let rows ← statement args run
  return rows.map SubscriptionRow.toModel

/-- `fetchSubscription`: the one row a statement returns; `sql.ErrNoRows` for none, an error for
more. -/
def fetchSubscription {β : Type} (args : Except Err β)
    (run : β → Int → Db → Except Err (List SubscriptionRow × Db)) : Tx Db Subscription := do
  let subs ← fetchSubscriptions args run
  if subs.length > 1 then
    throw (.message ("query returned " ++ toString subs.length ++ " subscriptions"))
  match subs with
  | [] => throw .noRows
  | s :: _ => return s

/-- `fetchSubscriptionByID`. -/
def fetchSubscriptionByID (id : String) : Tx Db Subscription :=
  fetchSubscription (.ok ()) fun _ _ d => .ok (selectByID id d, d)

/-- `fetchSubscriptionByIDAndOwner`. -/
def fetchSubscriptionByIDAndOwner (id owner : String) : Tx Db Subscription :=
  fetchSubscription (.ok ()) fun _ _ d => .ok (selectByIDAndOwner id owner d, d)

/-- `fetchSubscriptionsByCellsWithoutOwner`: the subscriptions of the `LEFT JOIN` query whose
owner is not `owner`; `pq.Array` of an `[]int64` always encodes. -/
def fetchSubscriptionsByCellsWithoutOwner (cells : List Int) (owner : String) :
    Tx Db (List Subscription) :=
  fetchSubscriptions (.ok ()) fun _ _ d =>
    .ok (selectJoinedCells (some cells) (fun s => s.owner ≠ owner) d, d)

/-! ## Writing a subscription -/

/-- The loop of `pushSubscription` that upserts one cell row per cell, stopping at the first
error. -/
def upsertCells (id : String) : List (Int × Int) → Tx Db Unit
  | [] => pure ()
  | (cid, clevel) :: rest => do
    exec fun _ d => upsertCellRow ⟨cid, clevel, id⟩ d
    upsertCells id rest

/-- `pushSubscription`: upsert the row, upsert a cell row for each cell, then delete the cell rows
of the subscription that are not among its cells; the row read back gets the cells reattached. -/
def pushSubscription (s : Subscription) : Tx Db Subscription := do
  let cids := s.cellList.map CellID.toInt64
  let clevels := s.cellList.map CellID.level
  let cells := s.cells
  let s ← fetchSubscription (.ok ()) fun _ now d =>
    (upsertSubscriptionRow (upsertedRow s now) d).map fun d => ([upsertedRow s now], d)
  let s := { s with cells := cells }
  upsertCells s.id (cids.zip clevels)
  exec fun _ d => .ok (deleteLeftOverCells (some cids) s.id d)
  return s

/-! ## The Store operations -/

/-- `InsertSubscription`. -/
def insertSubscription (s : Subscription) : Tx Db Subscription := do
  begin
  match ← attempt (fetchSubscriptionByID s.id) with
  | .error .noRows => pure ()
  | .error e => rollbackWith e
  | .ok _ => rollbackWith (.alreadyExists s.id)
  let s ← pushSubscription s
  commit
  return s

/-- `UpdateSubscription`. -/
def updateSubscription (s : Subscription) : Tx Db Subscription := do
  begin
  let old ← match ← attempt (fetchSubscriptionByIDAndOwner s.id s.owner) with
    | .error .noRows => rollbackWith (.notFound "not found")
    | .error e => rollbackWith e
    | .ok old =>
      if s.version ≠ old.version then rollbackWith (.versionMismatch "old version")
      else pure old
  let s ← pushSubscription (old.apply s)
  commit
  return s

/-- `DeleteSubscription`. -/
def deleteSubscription (id owner version : String) : Tx Db Subscription := do
  begin
  let old ← match ← attempt (fetchSubscriptionByIDAndOwner id owner) with
    | .error .noRows => rollbackWith .noRows
    | .error e => rollbackWith e
    | .ok old =>
      if version ≠ old.version then
        rollbackWith (.message ("version mismatch for subscription " ++ id))
      else pure old
  match ← attempt (exec fun _ d => .ok (deleteSubscriptionRow id owner d)) with
  | .error e => rollbackWith e
  | .ok () => pure ()
  commit
  return old

/-- `SearchSubscriptions`. -/
def searchSubscriptions (cells : List CellID) (owner : String) : Tx Db (List Subscription) := do
  if cells.length = 0 then throw (.badRequest "no location provided")
  begin
  let subscriptions ← match ← attempt (fetchSubscriptions (cellUnionArray cells) fun arr _ d =>
      .ok (selectJoinedCells (some arr) (fun s => s.owner = owner) d, d)) with
    | .error e => rollbackWith e
    | .ok subscriptions => pure subscriptions
  commit
  return subscriptions

end Cockroach
end DssStore
