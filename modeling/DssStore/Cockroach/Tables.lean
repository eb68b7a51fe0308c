import DssStore.Models
import DssStore.Sql

/-!
# The newer store's tables, and what its statements do to them

The newer store (`src/unnamed/part_001`) keeps subscriptions in two tables: `subscriptions`, one
row per subscription, and the cell index `cells_subscriptions`, one row per cell of each.  Its
schema is not among the sources.  The columns are read off its queries — `subscriptionFields`,
and the column list of the cell upsert — and the constraints are those of the schema the older
store bootstraps, which the spec lists too: the primary keys `id` and `(cell_id,
subscription_id)`, the `CHECK` that the start of a subscription comes before its end, `cell_level
BETWEEN 0 AND 30`, and `cells_subscriptions.subscription_id REFERENCES subscriptions (id) ON
DELETE CASCADE`.  `starts_at` and `ends_at` are `TIMESTAMPTZ`s, which hold microseconds
(`Sql.timestamptz`); `id` is a `UUID`, kept as its text (`Sql.uuidText`).

A table is a list of rows, and each statement is a function of the tables, written in the SQL of
`DssStore.Sql` where the query has any: the `LEFT JOIN` of the two searches in particular is kept as
a join, so that what it does and does not filter is something proved about it
(`selectJoinedCells_eq`) rather than assumed.
-/

set_option autoImplicit false

namespace DssStore
namespace Cockroach

/-- A row of `subscriptions`, its columns in the order of `subscriptionFields`. -/
structure SubscriptionRow where
  /-- `id`, the primary key. -/
  id : String
  /-- `owner`. -/
  owner : String
  /-- `url`. -/
  url : String
  /-- `notification_index`. -/
  notificationIndex : Int
  /-- `starts_at`, NULL when unset. -/
  startsAt : Option Int
  /-- `ends_at`. -/
  endsAt : Option Int
  /-- `updated_at`: the timestamp of the transaction that last wrote the row. -/
  updatedAt : Int
  deriving DecidableEq, Repr

/-- A row of `cells_subscriptions`. -/
structure CellRow where
  /-- `cell_id`, an `INT64`. -/
  cellId : Int
  /-- `cell_level`. -/
  cellLevel : Int
  /-- `subscription_id`. -/
  subscriptionId : String
  deriving DecidableEq, Repr

/-- The two tables. -/
structure Db where
  /-- `subscriptions`. -/
  subscriptions : List SubscriptionRow
  /-- `cells_subscriptions`. -/
  cellsSubscriptions : List CellRow
  deriving DecidableEq, Repr

/-- The tables right after bootstrap. -/
def Db.empty : Db := ⟨[], []⟩

/-- What `fetchSubscriptions` scans a row into: a fresh `models.Subscription`, whose `Cells` the
row does not carry. -/
def SubscriptionRow.toModel (r : SubscriptionRow) : Subscription :=
  { id := r.id, url := r.url, notificationIndex := r.notificationIndex, owner := r.owner,
    cells := none, startTime := r.startsAt, endTime := r.endsAt, updatedAt := some r.updatedAt }

@[simp] theorem SubscriptionRow.toModel_id (r : SubscriptionRow) : r.toModel.id = r.id := rfl

@[simp] theorem SubscriptionRow.toModel_owner (r : SubscriptionRow) : r.toModel.owner = r.owner :=
  rfl

/-! ## Reads -/

/-- `SELECT … FROM subscriptions WHERE id = $1`. -/
def selectByID (id : String) (d : Db) : List SubscriptionRow :=
  d.subscriptions.filter fun r => r.id = id

/-- `SELECT … FROM subscriptions WHERE id = $1 AND owner = $2`. -/
def selectByIDAndOwner (id owner : String) (d : Db) : List SubscriptionRow :=
  d.subscriptions.filter fun r => r.id = id ∧ r.owner = owner

/-- The one row a read by id and owner found is a row of that id and owner. -/
theorem mem_of_selectByIDAndOwner_eq {id owner : String} {d : Db} {old : SubscriptionRow}
    (h : selectByIDAndOwner id owner d = [old]) :
    old ∈ d.subscriptions ∧ old.id = id ∧ old.owner = owner := by
  have hold : old ∈ selectByIDAndOwner id owner d := by rw [h]; exact List.mem_singleton_self _
  simpa [selectByIDAndOwner] using hold

/-- The subquery `SELECT DISTINCT subscription_id FROM cells_subscriptions WHERE cell_id =
ANY($1)`. -/
def subscriptionIdsInCells (cells : Option (List Int)) (d : Db) : List String :=
  Sql.distinct
    ((d.cellsSubscriptions.filter fun r => Sql.anyEq r.cellId cells = some true).map
      (·.subscriptionId))

/-- The query of `SearchSubscriptions` and of `fetchSubscriptionsByCellsWithoutOwner`:
`SELECT subscriptionFields FROM subscriptions LEFT JOIN (subscriptionIdsInCells) ON
subscriptions.id = subscription_id WHERE keep`, `keep` being the owner test of each. -/
def selectJoinedCells (cells : Option (List Int)) (keep : SubscriptionRow → Bool) (d : Db) :
    List SubscriptionRow :=
  ((Sql.leftJoin d.subscriptions (subscriptionIdsInCells cells d)
      fun s u => s.id = u).filter fun p => keep p.1).map Prod.fst

/-- **The left join filters nothing.**  Each subscription meets at most one of the `DISTINCT` ids,
so the join hands back every row of `subscriptions`, once, whatever the cells: the query returns
exactly the rows that pass the owner test. -/
theorem selectJoinedCells_eq (cells : Option (List Int)) (keep : SubscriptionRow → Bool) (d : Db) :
    selectJoinedCells cells keep d = d.subscriptions.filter keep := by
  have h := Sql.leftJoin_fst d.subscriptions (subscriptionIdsInCells cells d)
    (fun s u => s.id = u) fun a _ =>
      Sql.filter_eq_length_le_one SubscriptionRow.id a (Sql.distinct_nodup _)
  calc selectJoinedCells cells keep d
      = ((Sql.leftJoin d.subscriptions (subscriptionIdsInCells cells d)
          fun s u => s.id = u).map Prod.fst).filter keep := by
        rw [selectJoinedCells, List.filter_map]; rfl
    _ = d.subscriptions.filter keep := by rw [h]

/-! ## Writes -/

/-- The row `UPSERT INTO subscriptions (…) VALUES ($1, …, $6, transaction_timestamp())` writes
for `s`, and hands back by `RETURNING`: its times rounded to microseconds. -/
def upsertedRow (s : Subscription) (now : Int) : SubscriptionRow :=
  ⟨s.id, s.owner, s.url, s.notificationIndex, s.startTime.map Sql.timestamptz,
    s.endTime.map Sql.timestamptz, now⟩

@[simp] theorem upsertedRow_id (s : Subscription) (now : Int) : (upsertedRow s now).id = s.id :=
  rfl

@[simp] theorem upsertedRow_owner (s : Subscription) (now : Int) :
    (upsertedRow s now).owner = s.owner := rfl

@[simp] theorem upsertedRow_updatedAt (s : Subscription) (now : Int) :
    (upsertedRow s now).updatedAt = now := rfl

/-- The `CHECK` of `subscriptions`, `starts_at IS NULL OR ends_at IS NULL OR starts_at <
ends_at`, which refuses only a row it makes false. -/
def SubscriptionRow.check (r : SubscriptionRow) : Bool :=
  Sql.or3 (Sql.or3 (Sql.isNull r.startsAt) (Sql.isNull r.endsAt))
    (Sql.cmp3 (fun a b => decide (a < b)) r.startsAt r.endsAt) != some false

/-- `UPSERT INTO subscriptions`: refused by the `CHECK`; otherwise the row replaces the one with
its primary key, if any. -/
def upsertSubscriptionRow (r : SubscriptionRow) (d : Db) : Except Err Db :=
  if !r.check then
    .error (.constraint "CHECK (starts_at IS NULL OR ends_at IS NULL OR starts_at < ends_at)")
  else .ok { d with subscriptions := r :: d.subscriptions.filter fun q => q.id ≠ r.id }

/-- `UPSERT INTO cells_subscriptions (cell_id, cell_level, subscription_id) VALUES ($1, $2, $3)`:
refused when the level is out of range or the subscription does not exist; otherwise the row
replaces the one with its primary key `(cell_id, subscription_id)`. -/
def upsertCellRow (r : CellRow) (d : Db) : Except Err Db :=
  if ¬(0 ≤ r.cellLevel ∧ r.cellLevel ≤ 30) then
    .error (.constraint "cell_level BETWEEN 0 and 30")
  else if ∀ q ∈ d.subscriptions, q.id ≠ r.subscriptionId then
    .error (.constraint "subscription_id REFERENCES subscriptions (id)")
  else .ok { d with cellsSubscriptions := r :: d.cellsSubscriptions.filter fun q =>
    ¬(q.cellId = r.cellId ∧ q.subscriptionId = r.subscriptionId) }

/-- `DELETE FROM cells_subscriptions WHERE cell_id != ALL($1) AND subscription_id = $2`. -/
def deleteLeftOverCells (cids : Option (List Int)) (id : String) (d : Db) : Db :=
  { d with cellsSubscriptions := d.cellsSubscriptions.filter fun q =>
    ¬(Sql.allNe q.cellId cids = some true ∧ q.subscriptionId = id) }

/-- `DELETE FROM subscriptions WHERE id = $1 AND owner = $2`, whose `ON DELETE CASCADE` takes the
deleted subscription's cell rows with it. -/
def deleteSubscriptionRow (id owner : String) (d : Db) : Db :=
  if selectByIDAndOwner id owner d = [] then d
  else ⟨d.subscriptions.filter (fun q => ¬(q.id = id ∧ q.owner = owner)),
    d.cellsSubscriptions.filter fun q => q.subscriptionId ≠ id⟩

end Cockroach
end DssStore
