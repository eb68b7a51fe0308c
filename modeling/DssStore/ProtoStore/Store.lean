import DssStore.Cell
import DssStore.ProtoStore.Tables

/-!
# The older store's operations

The functions of the second store of `src/unnamed/part_000`, each an `EStateM` program over a
connection to the tables of `DssStore.ProtoStore.Tables`, read off the Go text as the newer
store's are (`DssStore.Cockroach.Store`).  A loop over the rows of a query is the scan function
of its query, applied to all the rows the statement returned.

`DeleteIdentificationServiceArea` has one line whose Go reads unlike what it does: when its
`DELETE … RETURNING *` finds no row, it computes `multierr.Combine(err, tx.Rollback())` and drops
the result.  The rollback happens; the error is lost, and the function goes on to its next
statement, on a transaction it has just ended.
-/

set_option autoImplicit false

namespace DssStore
namespace ProtoStore

/-! ## Statements and loops the operations share -/

/-- `sr.scan(tx.QueryRowContext(ctx, query, …))`, for a statement returning rows of
`subscriptions`: the error of the statement, of the missing row, or of the scan, handed back as a
value. -/
def scanSubscriptionsRow (run : Int → Db → Except Err (List SubscriptionTuple × Db)) :
    Tx Db (Except Err SubscriptionsRow) := do
  match ← attempt (statement (.ok ()) fun _ now d => run now d) with
  | .error e => pure (.error e)
  | .ok rows => pure (queryRow rows >>= SubscriptionsRow.scan)

/-- `if err := sr.scan(tx.QueryRowContext(…)); err != nil { return nil, multierr.Combine(err,
tx.Rollback()) }`. -/
def scanOrRollback (run : Int → Db → Except Err (List SubscriptionTuple × Db)) :
    Tx Db SubscriptionsRow := do
  orRollback (← scanSubscriptionsRow run)

/-- The loop `for _, cell := range cells { tx.ExecContext(ctx, query, cell, cell.Level(), id) }`,
rolled back at the first error: the driver converts each `s2.CellID` argument with the default
converter, and `write cellId level now` is what the statement does. -/
def execCells (write : Int → Int → Int → Db → Except Err Db) : List CellID → Tx Db Unit
  | [] => pure ()
  | cell :: cells => do
    match ← attempt (statement cell.driverValue fun v now d =>
        (write v cell.level now d).map fun d => ((), d)) with
    | .error e => rollbackWith e
    | .ok () => execCells write cells

/-- The end of `insertSubscription` and `updateSubscription`: the cell loop, `sr.toProtobuf()`,
whose error is returned without a rollback, and the commit. -/
def finishWrite (write : Int → Int → Int → Db → Except Err Db) (cells : List CellID)
    (sr : SubscriptionsRow) : Tx Db Dspb.Subscription := do
  execCells write cells
  let result ← orThrow sr.toProtobuf
  commit
  return result

/-- The end of `GetSubscription` and `DeleteSubscription`: `sr.toProtobuf()`, rolled back on
error, and the commit. -/
def respondRow (sr : SubscriptionsRow) : Tx Db Dspb.Subscription := do
  let result ← orRollback sr.toProtobuf
  commit
  return result

/-! ## The subscription operations -/

/-- `insertSubscription`.  The error of `applyProtobuf` is dropped. -/
def insertSubscription (subscription : Dspb.Subscription) (cells : List CellID) :
    Tx Db Dspb.Subscription := do
  begin
  let sr := (SubscriptionsRow.applyProtobuf subscription SubscriptionsRow.zero).state
  let sr ← scanOrRollback fun now d => insertSubscriptionTuple (sr.values now) d
  finishWrite (fun cell level now d => insertCellSubscription ⟨cell, level, sr.id, now⟩ d) cells sr

/-- `updateSubscription`: the `sql.ErrNoRows` case of its `switch` does what any other error
does.  The row is read by id alone, and the cell rows are upserted, none deleted. -/
def updateSubscription (subscription : Dspb.Subscription) (cells : List CellID) :
    Tx Db Dspb.Subscription := do
  begin
  let sr ← scanOrRollback fun _ d => .ok (selectSubscriptionByID subscription.id d, d)
  (if !sr.versionOK subscription.version then
      rollbackWith (.message ("version mismatch for subscription " ++ subscription.id))
    else pure () : Tx Db Unit)
  let sr := (SubscriptionsRow.applyProtobuf subscription sr).state
  let sr ← scanOrRollback fun now d => upsertSubscriptionTuple (sr.values now) d
  finishWrite (fun cell level now d => upsertCellSubscription ⟨cell, level, sr.id, now⟩ d) cells sr

/-- `GetSubscription`. -/
def getSubscription (id : String) : Tx Db Dspb.Subscription := do
  begin
  let sr ← scanOrRollback fun _ d => .ok (selectSubscriptionByID id d, d)
  respondRow sr

/-- The `WHERE` clause of `DeleteSubscription`'s statement: `blindQuery` for the empty version,
`idempotentQuery` at the time the version reads as, which the database rounds to microseconds
before it compares it with `updated_at`. -/
def deleteCondition (id : String) : Option Int → SubscriptionTuple → Bool
  | none, x => x.id = id
  | some updatedAt, x => x.id = id ∧ x.updatedAt = Sql.timestamptz updatedAt

/-- `DeleteSubscription`: the `switch` on the version picks the statement's `WHERE` clause. -/
def deleteSubscription (id version : String) : Tx Db Dspb.Subscription := do
  begin
  let updatedAt ← (if version = "" then pure none else
    some <$> orRollback ((versionStringToTimestamp version).mapError .parse) : Tx Db (Option Int))
  let sr ← scanOrRollback fun _ d =>
    .ok (deleteSubscriptionTuples (deleteCondition id updatedAt) d)
  respondRow sr

/-- `scan` then `toProtobuf`, the body of the loop of `SearchSubscriptions`. -/
def SubscriptionsRow.ofTuple (t : SubscriptionTuple) : Except Err Dspb.Subscription :=
  SubscriptionsRow.scan t >>= SubscriptionsRow.toProtobuf

/-- `SearchSubscriptions`. -/
def searchSubscriptions (cells : List CellID) (owner : String) :
    Tx Db (List Dspb.Subscription) := do
  (if cells.length = 0 then throw (.message "missing cell IDs for query") else pure () :
    Tx Db Unit)
  begin
  let rows ← orRollback (← attempt (statement (cellUnionArray cells) fun arr _ d =>
    .ok (subscriptionsInCells (some arr) owner d, d)))
  let result ← orRollback (rows.mapM SubscriptionsRow.ofTuple)
  commit
  return result

/-! ## Inserting an ISA -/

/-- `t, err := ptypes.Timestamp(ts)`, read as the time or the error. -/
def checkedTimestamp (ts : Option Timestamp) : Except Err Int :=
  match Ptypes.timestamp ts with
  | (_, some e) => .error e
  | (t, none) => .ok t

/-- `insertIdentificationServiceAreaUnchecked`.  Both extents are checked before the transaction
begins; the area returned carries no version. -/
def insertIdentificationServiceAreaUnchecked (serviceArea : IdentificationServiceArea)
    (cells : List CellID) : Tx Db IdentificationServiceArea := do
  let starts ← orThrow (checkedTimestamp (serviceArea.extents.bind Volume4D.timeStart))
  let ends ← orThrow (checkedTimestamp (serviceArea.extents.bind Volume4D.timeEnd))
  begin
  let rows ← orRollback (← attempt (statement (.ok ()) fun _ now d =>
    insertIdentificationServiceAreaRow
      ⟨serviceArea.id, serviceArea.owner, serviceArea.flightsUrl, starts, ends, now⟩ d))
  let isar ← orRollback (queryRow rows)
  execCells (fun cell level now d => insertCellIsa ⟨cell, level, isar.id, now⟩ d) cells
  let ts ← orRollback (Ptypes.timestampProto isar.startsAt)
  let ts' ← orRollback (Ptypes.timestampProto isar.endsAt)
  commit
  return { id := isar.id, owner := isar.owner, flightsUrl := isar.url, version := "",
           extents := some ⟨some ts, some ts'⟩ }

/-! ## `DeleteIdentificationServiceArea`

The Go function runs four stages on one transaction; each is a definition below, in the order of
the Go text, and the function is their sequence. -/

/-- The affected subscriptions: the query `getAffectedCellsAndSubscriptions`, and its scan loop.
The affected cells are collected too, and never read. -/
def readAffected (id : String) : Tx Db (List String) := do
  let rows ← match ← attempt (query fun _ d => affectedCellsAndSubscriptions id d) with
    | .error e => rollbackWith e
    | .ok rows => pure rows
  match scanAffected rows with
  | .error e => rollbackWith e
  | .ok (_, subscriptions) => pure subscriptions

/-- The deletion, `isar.scan(tx.QueryRowContext(ctx, deleteIdentificationServiceAreaQuery, id,
owner))`: when it finds no row, or fails, `isar` stays zero, the transaction is rolled back, and
the error is dropped. -/
def deleteRow (id owner : String) : Tx Db IdentificationServiceAreaRow := do
  match ← attempt (statement (.ok ()) fun _ _ d =>
      .ok (deleteIdentificationServiceAreaRows id owner d)) with
  | .ok (isar :: _) => pure isar
  | _ => do
    let _ ← rollback
    pure IdentificationServiceAreaRow.zero

/-- The subscribers: the query `getSubscriptionDetailsForAffectedCells`, and its scan loop. -/
def readSubscribers (subscriptions : List String) (owner : String) :
    Tx Db (List SubscriberRow) := do
  let details ← match ← attempt (query fun now d =>
      subscriptionDetailsForAffectedCells (StringArray.value subscriptions) owner now d) with
    | .error e => rollbackWith e
    | .ok details => pure details
  match scanSubscribers details with
  | .error e => rollbackWith e
  | .ok subscribers => pure subscribers

/-- The response: `isar.toProtobuf()`, and `subscriber.toProtobuf()` for each subscriber. -/
def respond (isar : IdentificationServiceAreaRow) (subscribers : List SubscriberRow) :
    Tx Db (IdentificationServiceArea × List SubscriberToNotify) := do
  let isa ← match isar.toProtobuf with
    | .error e => rollbackWith e
    | .ok isa => pure isa
  match subscribers.mapM SubscriberRow.toProtobuf with
  | .error e => rollbackWith e
  | .ok subscribersToNotify => pure (isa, subscribersToNotify)

/-- `DeleteIdentificationServiceArea`. -/
def deleteIdentificationServiceArea (id owner : String) :
    Tx Db (IdentificationServiceArea × List SubscriberToNotify) := do
  begin
  let subscriptions ← readAffected id
  let isar ← deleteRow id owner
  let subscribers ← readSubscribers subscriptions owner
  let response ← respond isar subscribers
  commit
  return response

end ProtoStore
end DssStore
