import DssStore.Proto
import DssStore.Sql

/-!
# The older store's tables, and the queries of its ISA deletion

The second version of the store in `src/unnamed/part_000` answers with `dspb` protobufs and keeps
four tables, created by its `Bootstrap`: `subscriptions` and its cell index
`cells_subscriptions`, and `identification_service_areas` (ISAs) and their cell index
`cells_identification_service_areas`.  A cell index row names its owner by a foreign key with
`ON DELETE CASCADE`.

The columns hold less than the Go values bound to them (`DssStore.Sql`): a `TIMESTAMPTZ` holds
microseconds, so each write stores its times rounded (`SubscriptionTuple.stored`,
`IdentificationServiceAreaRow.stored`), checks its `CHECK` on the rounded times and hands them back
by `RETURNING`, and `DeleteSubscription` compares `updated_at` with its time rounded.  The `id`
columns are `UUID`s, kept as their canonical text.

The queries are kept in the shape the Go text gives them, in the SQL of `DssStore.Sql`:

* `affectedCellsAndSubscriptions` is a `LEFT JOIN` of the ISA's cells with the subscribed cells,
  so a cell of the ISA that no subscription covers comes back paired with `NULL`;
* `subscriberCondition` is the `WHERE` clause of the subscriber query exactly as written, with
  `AND` binding tighter than `OR`:
  `(id = ANY($1) AND owner != $2 AND begins_at IS NULL) OR (now >= begins_at AND expires_at IS
  NULL) OR (now <= expires_at)`.
-/

set_option autoImplicit false

namespace DssStore
namespace ProtoStore

/-! ## Tables -/

/-- A row of `subscriptions`, its columns in the order of `Bootstrap`'s `CREATE TABLE`. -/
structure SubscriptionTuple where
  /-- `id`, the primary key. -/
  id : String
  /-- `owner`. -/
  owner : String
  /-- `url`. -/
  url : String
  /-- `types_filter`. -/
  typesFilter : Option String
  /-- `notification_index`, `INT4 DEFAULT 0`: NULL only when written so. -/
  notificationIndex : Option Int
  /-- `last_used_at`. -/
  lastUsedAt : Option Int
  /-- `begins_at`. -/
  beginsAt : Option Int
  /-- `expires_at`. -/
  expiresAt : Option Int
  /-- `updated_at`. -/
  updatedAt : Int
  deriving DecidableEq, Repr

/-- A row of `cells_subscriptions`. -/
structure CellSubscriptionTuple where
  /-- `cell_id`. -/
  cellId : Int
  /-- `cell_level`. -/
  cellLevel : Int
  /-- `subscription_id`. -/
  subscriptionId : String
  /-- `updated_at`. -/
  updatedAt : Int
  deriving DecidableEq, Repr

/-- `identificationServiceAreaRow`: a row of `identification_service_areas`, every column of
which is `NOT NULL`, so that the Go struct holds it whole. -/
structure IdentificationServiceAreaRow where
  /-- `id`, the primary key. -/
  id : String
  /-- `owner`. -/
  owner : String
  /-- `url`. -/
  url : String
  /-- `starts_at`. -/
  startsAt : Int
  /-- `ends_at`. -/
  endsAt : Int
  /-- `updated_at`. -/
  updatedAt : Int
  deriving DecidableEq, Repr

/-- A row of `cells_identification_service_areas`. -/
structure CellIsaTuple where
  /-- `cell_id`. -/
  cellId : Int
  /-- `cell_level`. -/
  cellLevel : Int
  /-- `identification_service_area_id`. -/
  identificationServiceAreaId : String
  /-- `updated_at`. -/
  updatedAt : Int
  deriving DecidableEq, Repr

/-- The four tables. -/
structure Db where
  /-- `subscriptions`. -/
  subscriptions : List SubscriptionTuple
  /-- `cells_subscriptions`. -/
  cellsSubscriptions : List CellSubscriptionTuple
  /-- `identification_service_areas`. -/
  identificationServiceAreas : List IdentificationServiceAreaRow
  /-- `cells_identification_service_areas`. -/
  cellsIdentificationServiceAreas : List CellIsaTuple
  deriving DecidableEq, Repr

/-- The row `subscriptions` holds of a row it is handed: the times bound to its three
`TIMESTAMPTZ` parameters rounded to microseconds.  `updated_at` is `transaction_timestamp()`. -/
def SubscriptionTuple.stored (t : SubscriptionTuple) : SubscriptionTuple :=
  { t with lastUsedAt := t.lastUsedAt.map Sql.timestamptz,
           beginsAt := t.beginsAt.map Sql.timestamptz,
           expiresAt := t.expiresAt.map Sql.timestamptz }

/-- The row `identification_service_areas` holds of a row it is handed: `starts_at` and `ends_at`
rounded to microseconds. -/
def IdentificationServiceAreaRow.stored (r : IdentificationServiceAreaRow) :
    IdentificationServiceAreaRow :=
  { r with startsAt := Sql.timestamptz r.startsAt, endsAt := Sql.timestamptz r.endsAt }

/-! ## Go values -/

/-- `time.Time{}`, the zero time: the first instant of the year 1. -/
def zeroTime : Int := -62135596800 * 1000000000

/-- `identificationServiceAreaRow{}`, the zero row. -/
def IdentificationServiceAreaRow.zero : IdentificationServiceAreaRow :=
  ⟨"", "", "", zeroTime, zeroTime, zeroTime⟩

/-- `subscriberRow`: what the ISA deletion scans of a subscription to notify. -/
structure SubscriberRow where
  /-- `id`. -/
  id : String
  /-- `url`. -/
  url : String
  /-- `notificationIndex`, an `int32`. -/
  notificationIndex : Int
  deriving DecidableEq, Repr

/-- `subscriberRow.toProtobuf`, which never fails. -/
def SubscriberRow.toProtobuf (sr : SubscriberRow) : Except Err SubscriberToNotify :=
  .ok ⟨sr.url, [⟨sr.notificationIndex, sr.id⟩]⟩

/-- `identificationServiceAreaRow.toProtobuf`: the version is the decimal `UnixNano` of
`updated_at`, and both ends of the extent go through `ptypes.TimestampProto`. -/
def IdentificationServiceAreaRow.toProtobuf (isar : IdentificationServiceAreaRow) :
    Except Err IdentificationServiceArea := do
  let ts ← Ptypes.timestampProto isar.startsAt
  let ts' ← Ptypes.timestampProto isar.endsAt
  return { id := isar.id, owner := isar.owner, flightsUrl := isar.url,
           version := Strconv.formatInt (unixNano isar.updatedAt) 10,
           extents := some ⟨some ts, some ts'⟩ }

/-- `pq.Array` of a `[]string` that was built by appending to a nil slice: `StringArray.Value`
encodes the nil slice, the one with nothing appended, as NULL. -/
def StringArray.value (xs : List String) : Option (List String) :=
  if xs = [] then none else some xs

/-- `tx.QueryRowContext(…)` and its `Scan`: the first row the statement returned, or
`sql.ErrNoRows`. -/
def queryRow {α : Type} : List α → Except Err α
  | [] => .error .noRows
  | r :: _ => .ok r

/-! ## Subscriptions as the Go code holds them -/

/-- `subscriptionsRow`: a row of `subscriptions` as `scan` reads it, the NULLs of the nullable
columns kept as `sql.NullString` and `pq.NullTime` keep them. -/
structure SubscriptionsRow where
  /-- `id`. -/
  id : String
  /-- `owner`. -/
  owner : String
  /-- `url`. -/
  url : String
  /-- `typesFilter`, a `sql.NullString`. -/
  typesFilter : Option String
  /-- `notificationIndex`, an `int32`: a NULL cannot be scanned into it. -/
  notificationIndex : Int
  /-- `lastUsedAt`. -/
  lastUsedAt : Option Int
  /-- `beginsAt`. -/
  beginsAt : Option Int
  /-- `expiresAt`. -/
  expiresAt : Option Int
  /-- `updatedAt`. -/
  updatedAt : Int
  deriving DecidableEq, Repr

namespace SubscriptionsRow

/-- `subscriptionsRow{}`, the zero row. -/
def zero : SubscriptionsRow := ⟨"", "", "", none, 0, none, none, none, zeroTime⟩

/-- `scan` of one row, its nine columns in order. -/
def scan (t : SubscriptionTuple) : Except Err SubscriptionsRow :=
  match t.notificationIndex with
  | none =>
    .error (.scan "sql: Scan error on column index 4, name \"notification_index\": converting NULL to int32 is unsupported")
  | some n => .ok ⟨t.id, t.owner, t.url, t.typesFilter, n, t.lastUsedAt, t.beginsAt, t.expiresAt,
      t.updatedAt⟩

/-- The row the writes of a subscription store, `($1, …, $8, transaction_timestamp())` with the
eight fields of `sr` in the order of the columns. -/
def values (sr : SubscriptionsRow) (now : Int) : SubscriptionTuple :=
  ⟨sr.id, sr.owner, sr.url, sr.typesFilter, some sr.notificationIndex, sr.lastUsedAt, sr.beginsAt,
    sr.expiresAt, now⟩

/-- The Go row with its times as `subscriptions` holds them. -/
def stored (sr : SubscriptionsRow) : SubscriptionsRow :=
  { sr with lastUsedAt := sr.lastUsedAt.map Sql.timestamptz,
            beginsAt := sr.beginsAt.map Sql.timestamptz,
            expiresAt := sr.expiresAt.map Sql.timestamptz }

@[simp] theorem values_stored (sr : SubscriptionsRow) (now : Int) :
    (sr.values now).stored = sr.stored.values now := rfl

/-- `toProtobuf`: the version is `timestampToVersionString(updatedAt)`, and each of `beginsAt` and
`expiresAt` that is not NULL goes through `ptypes.TimestampProto`. -/
def toProtobuf (sr : SubscriptionsRow) : Except Err Dspb.Subscription := do
  let begins ← sr.beginsAt.mapM Ptypes.timestampProto
  let expires ← sr.expiresAt.mapM Ptypes.timestampProto
  return { id := sr.id, owner := sr.owner, callbacks := some ⟨sr.url⟩,
           notificationIndex := sr.notificationIndex,
           version := timestampToVersionString sr.updatedAt, begins := begins, expires := expires }

/-- `versionOK`: the empty version, or the row's own. -/
def versionOK (sr : SubscriptionsRow) (version : String) : Bool :=
  version == "" || version == timestampToVersionString sr.updatedAt

/-- `if v != "" { field = v }`: the overlay of one string field of `applyProtobuf`. -/
def applyString (v : String) (set : String → SubscriptionsRow → SubscriptionsRow) :
    EStateM Err SubscriptionsRow Unit :=
  if v ≠ "" then modify (set v) else pure ()

/-- `if ts != nil { t, err := ptypes.Timestamp(ts); if err != nil { return err }; field = t }`:
the overlay of one timestamp field of `applyProtobuf`. -/
def applyTimestamp (ts : Option Timestamp) (set : Int → SubscriptionsRow → SubscriptionsRow) :
    EStateM Err SubscriptionsRow Unit :=
  match ts with
  | none => pure ()
  | some ts =>
    let (t, err) := Ptypes.timestamp (some ts)
    match err with
    | some e => throw e
    | none => modify (set t)

/-- `applyProtobuf`: overlay the fields `subscription` sets on the row.  It writes the row in place
and returns at the first timestamp `ptypes.Timestamp` refuses, the fields before it already
written and those after it not. -/
def applyProtobuf (subscription : Dspb.Subscription) : EStateM Err SubscriptionsRow Unit := do
  applyString subscription.id fun v sr => { sr with id := v }
  applyString subscription.owner fun v sr => { sr with owner := v }
  applyString (SubscriptionCallbacks.getIdentificationServiceAreaUrl subscription.callbacks)
    fun v sr => { sr with url := v }
  applyTimestamp subscription.begins fun t sr => { sr with beginsAt := some t }
  applyTimestamp subscription.expires fun t sr => { sr with expiresAt := some t }

end SubscriptionsRow

/-! ## The writes of the subscription and ISA operations

Every cell-index write checks `cell_level BETWEEN 0 and 30` and its foreign key; an `INSERT` is
refused on a primary key already taken, an `UPSERT` replaces the row that has it.  An `UPSERT`
updates the row in place, so no cascade runs. -/

/-- `INSERT` into a table of primary key `key`. -/
def insertKeyed {α κ : Type} [DecidableEq κ] (key : α → κ) (pk : String) (r : α)
    (rows : List α) : Except Err (List α) :=
  if rows.any fun q => key q = key r then .error (.constraint pk) else .ok (r :: rows)

/-- `UPSERT` into a table of primary key `key`. -/
def upsertKeyed {α κ : Type} [DecidableEq κ] (key : α → κ) (r : α) (rows : List α) : List α :=
  r :: rows.filter fun q => key q ≠ key r

/-- The `CHECK` of `subscriptions`: `begins_at IS NULL OR expires_at IS NULL OR begins_at <
expires_at`, which refuses only a row it makes false. -/
def SubscriptionTuple.check (t : SubscriptionTuple) : Bool :=
  Sql.or3 (Sql.or3 (Sql.isNull t.beginsAt) (Sql.isNull t.expiresAt))
    (Sql.cmp3 (fun a b => decide (a < b)) t.beginsAt t.expiresAt) != some false

/-- `INSERT INTO subscriptions VALUES (…) RETURNING *`: the row stored, checked and returned with
its times rounded. -/
def insertSubscriptionTuple (t : SubscriptionTuple) (d : Db) :
    Except Err (List SubscriptionTuple × Db) :=
  if !t.stored.check then
    .error (.constraint "CHECK (begins_at IS NULL OR expires_at IS NULL OR begins_at < expires_at)")
  else (insertKeyed SubscriptionTuple.id "id UUID PRIMARY KEY" t.stored d.subscriptions).map
    fun subs => ([t.stored], { d with subscriptions := subs })

/-- `UPSERT INTO subscriptions VALUES (…) RETURNING *`. -/
def upsertSubscriptionTuple (t : SubscriptionTuple) (d : Db) :
    Except Err (List SubscriptionTuple × Db) :=
  if !t.stored.check then
    .error (.constraint "CHECK (begins_at IS NULL OR expires_at IS NULL OR begins_at < expires_at)")
  else .ok ([t.stored],
    { d with subscriptions := upsertKeyed SubscriptionTuple.id t.stored d.subscriptions })

/-- The checks of a row of `cells_subscriptions`: its level, and the subscription it names. -/
def cellSubscriptionChecks (q : CellSubscriptionTuple) (d : Db) : Option Err :=
  if ¬(0 ≤ q.cellLevel ∧ q.cellLevel ≤ 30) then some (.constraint "cell_level BETWEEN 0 and 30")
  else if d.subscriptions.all fun x => x.id ≠ q.subscriptionId then
    some (.constraint "subscription_id REFERENCES subscriptions (id)")
  else none

/-- `INSERT INTO cells_subscriptions VALUES ($1, $2, $3, transaction_timestamp())`. -/
def insertCellSubscription (q : CellSubscriptionTuple) (d : Db) : Except Err Db :=
  match cellSubscriptionChecks q d with
  | some e => .error e
  | none => (insertKeyed (fun q => (q.cellId, q.subscriptionId))
      "PRIMARY KEY (cell_id, subscription_id)" q d.cellsSubscriptions).map fun cells =>
        { d with cellsSubscriptions := cells }

/-- `UPSERT INTO cells_subscriptions VALUES ($1, $2, $3, transaction_timestamp())`. -/
def upsertCellSubscription (q : CellSubscriptionTuple) (d : Db) : Except Err Db :=
  match cellSubscriptionChecks q d with
  | some e => .error e
  | none =>
    .ok { d with
      cellsSubscriptions := upsertKeyed (fun q => (q.cellId, q.subscriptionId)) q d.cellsSubscriptions }

/-- `DELETE FROM subscriptions WHERE … RETURNING *`, `cond` being its `WHERE` clause; the cascade
takes the cell rows of the deleted subscriptions. -/
def deleteSubscriptionTuples (cond : SubscriptionTuple → Bool) (d : Db) :
    List SubscriptionTuple × Db :=
  let deleted := d.subscriptions.filter cond
  (deleted,
    { d with
      subscriptions := d.subscriptions.filter fun x => !cond x
      cellsSubscriptions := d.cellsSubscriptions.filter fun q =>
        q.subscriptionId ∉ deleted.map SubscriptionTuple.id })

/-- `INSERT INTO identification_service_areas VALUES (…) RETURNING *`, whose `CHECK` is
`starts_at < ends_at` on the rounded times: both columns are `NOT NULL`. -/
def insertIdentificationServiceAreaRow (r : IdentificationServiceAreaRow) (d : Db) :
    Except Err (List IdentificationServiceAreaRow × Db) :=
  if ¬r.stored.startsAt < r.stored.endsAt then
    .error (.constraint "CHECK (starts_at IS NULL OR ends_at IS NULL OR starts_at < ends_at)")
  else (insertKeyed IdentificationServiceAreaRow.id "id UUID PRIMARY KEY" r.stored
      d.identificationServiceAreas).map fun isas =>
    ([r.stored], { d with identificationServiceAreas := isas })

/-- `INSERT INTO cells_identification_service_areas VALUES ($1, $2, $3, transaction_timestamp())`. -/
def insertCellIsa (q : CellIsaTuple) (d : Db) : Except Err Db :=
  if ¬(0 ≤ q.cellLevel ∧ q.cellLevel ≤ 30) then .error (.constraint "cell_level BETWEEN 0 and 30")
  else if d.identificationServiceAreas.all fun x => x.id ≠ q.identificationServiceAreaId then
    .error (.constraint "identification_service_area_id REFERENCES identification_service_areas (id)")
  else (insertKeyed (fun q => (q.cellId, q.identificationServiceAreaId))
      "PRIMARY KEY (cell_id, identification_service_area_id)" q
      d.cellsIdentificationServiceAreas).map fun cells =>
    { d with cellsIdentificationServiceAreas := cells }

/-! ## The reads of the subscription operations -/

/-- `SELECT * FROM subscriptions WHERE id = $1`. -/
def selectSubscriptionByID (id : String) (d : Db) : List SubscriptionTuple :=
  d.subscriptions.filter fun x => x.id = id

/-- `subscriptionsInCellsQuery`: `SELECT subscriptions.* FROM subscriptions LEFT JOIN (SELECT
DISTINCT subscription_id FROM cells_subscriptions WHERE cell_id = ANY($1)) ON subscriptions.id =
subscription_id WHERE subscriptions.owner = $2`. -/
def subscriptionsInCells (cells : Option (List Int)) (owner : String) (d : Db) :
    List SubscriptionTuple :=
  ((Sql.leftJoin d.subscriptions
      (Sql.distinct ((d.cellsSubscriptions.filter fun q => Sql.anyEq q.cellId cells = some true).map
        CellSubscriptionTuple.subscriptionId))
      fun x u => x.id = u).filter fun p => p.1.owner = owner).map Prod.fst

/-! ## The queries of the ISA deletion -/

/-- `getAffectedCellsAndSubscriptions`: each cell of ISA `id`, with each subscription of the
`DISTINCT` (cell, subscription) pairs of `cells_subscriptions` on that cell, or with NULL when there
is none. -/
def affectedCellsAndSubscriptions (id : String) (d : Db) : List (Int × Option String) :=
  ((Sql.leftJoin d.cellsIdentificationServiceAreas
      (Sql.distinct (d.cellsSubscriptions.map fun q => (q.cellId, q.subscriptionId)))
      fun a b => a.cellId = b.1).filter fun p => p.1.identificationServiceAreaId = id).map
    fun p => (p.1.cellId, p.2.map Prod.snd)

/-- The scan loop over `getAffectedCellsAndSubscriptions`: `rows.Scan(&cell, &subscription)` into
an `int64` and a `string`, stopping at the first row it cannot scan. -/
def scanAffected : List (Int × Option String) → Except Err (List Int × List String)
  | [] => .ok ([], [])
  | (cell, some subscription) :: rows => do
    let (cells, subscriptions) ← scanAffected rows
    return (cell :: cells, subscription :: subscriptions)
  | (_, none) :: _ =>
    .error (.scan "sql: Scan error on column index 1, name \"subscription_id\": converting NULL to string is unsupported")

/-- `deleteIdentificationServiceAreaQuery`: `DELETE … WHERE id = $1 AND owner = $2 RETURNING *`.
The cascade takes the cell rows of every deleted ISA. -/
def deleteIdentificationServiceAreaRows (id owner : String) (d : Db) :
    List IdentificationServiceAreaRow × Db :=
  let deleted := d.identificationServiceAreas.filter fun r => r.id = id ∧ r.owner = owner
  (deleted,
    { d with
      identificationServiceAreas :=
        d.identificationServiceAreas.filter fun r => ¬(r.id = id ∧ r.owner = owner)
      cellsIdentificationServiceAreas := d.cellsIdentificationServiceAreas.filter fun q =>
        q.identificationServiceAreaId ∉ deleted.map IdentificationServiceAreaRow.id })

/-- The `WHERE` clause of `getSubscriptionDetailsForAffectedCells`, as written: `AND` binds
tighter than `OR`. -/
def subscriberCondition (ids : Option (List String)) (owner : String) (now : Int)
    (x : SubscriptionTuple) : Option Bool :=
  Sql.or3
    (Sql.or3
      (Sql.and3 (Sql.and3 (Sql.anyEq x.id ids) (Sql.cmp3 (fun a b => a != b) (some x.owner) (some owner)))
        (Sql.isNull x.beginsAt))
      (Sql.and3 (Sql.cmp3 (fun a b => decide (a ≥ b)) (some now) x.beginsAt) (Sql.isNull x.expiresAt)))
    (Sql.cmp3 (fun a b => decide (a ≤ b)) (some now) x.expiresAt)

/-- `getSubscriptionDetailsForAffectedCells`: `SELECT id, url, notification_index FROM
subscriptions WHERE …` at transaction timestamp `now`. -/
def subscriptionDetailsForAffectedCells (ids : Option (List String)) (owner : String) (now : Int)
    (d : Db) : List (String × String × Option Int) :=
  (Sql.whereTrue (subscriberCondition ids owner now) d.subscriptions).map fun x =>
    (x.id, x.url, x.notificationIndex)

/-- The scan loop over the subscriber query:
`rows.Scan(&subscriber.id, &subscriber.url, &subscriber.notificationIndex)`. -/
def scanSubscribers : List (String × String × Option Int) → Except Err (List SubscriberRow)
  | [] => .ok []
  | (id, url, some n) :: rows => do
    let subscribers ← scanSubscribers rows
    return ⟨id, url, n⟩ :: subscribers
  | (_, _, none) :: _ =>
    .error (.scan "sql: Scan error on column index 2, name \"notification_index\": converting NULL to int32 is unsupported")

end ProtoStore
end DssStore
