import DssStore.Cell

/-!
# The entities of the `models` package

The newer store (`DssStore.Cockroach`) reads and writes `models.Subscription`s.  The `models`
package itself is not among the sources: what the store uses of a subscription — its fields, its
`Version()` and its `Apply` — is therefore modelled from the spec, and each definition taken from
there says so.  `Apply` follows `IdentificationServiceArea.Apply`, the one method of `models`
whose text is at hand: an overlay's field replaces the receiver's when it is set, and the id and
owner are the receiver's.

A Go slice that can be nil is an `Option (List _)`, `none` being the nil slice: `Apply` tells a nil
`Cells` from an empty one, and nothing else does.
-/

set_option autoImplicit false

namespace DssStore

/-- `models.Subscription`. -/
structure Subscription where
  /-- `ID`, a UUID. -/
  id : String
  /-- `Url`, the callback. -/
  url : String
  /-- `NotificationIndex`. -/
  notificationIndex : Int
  /-- `Owner`. -/
  owner : String
  /-- `Cells`, an `s2.CellUnion`; `none` is the nil union. -/
  cells : Option (List CellID)
  /-- `StartTime`, nanoseconds since the epoch. -/
  startTime : Option Int
  /-- `EndTime`. -/
  endTime : Option Int
  /-- `UpdatedAt`: unset on an entity that was never saved. -/
  updatedAt : Option Int
  deriving DecidableEq, Repr

/-- The cells as the loops over `s.Cells` see them: a nil union has none. -/
def Subscription.cellList (s : Subscription) : List CellID := s.cells.getD []

/-- Modelled from the spec: `models.Subscription.Version` is not under src/.  The version is the
base-32 token of `UpdatedAt`, and empty for an entity that was never saved. -/
def Subscription.version (s : Subscription) : String :=
  match s.updatedAt with
  | none => ""
  | some t => timestampToVersionString t

/-- Modelled from the spec: `models.Subscription.Apply` is not under src/.  Every field the
overlay `s2` sets replaces the receiver's, except `ID` and `Owner`, which stay the receiver's; a
field counts as set when it is not its zero value, as in `IdentificationServiceArea.Apply`. -/
def Subscription.apply (s s2 : Subscription) : Subscription :=
  { s with
    url := if s2.url ≠ "" then s2.url else s.url
    notificationIndex :=
      if s2.notificationIndex ≠ 0 then s2.notificationIndex else s.notificationIndex
    cells := if s2.cells.isSome then s2.cells else s.cells
    startTime := if s2.startTime.isSome then s2.startTime else s.startTime
    endTime := if s2.endTime.isSome then s2.endTime else s.endTime
    updatedAt := if s2.updatedAt.isSome then s2.updatedAt else s.updatedAt }

@[simp] theorem Subscription.apply_id (s s2 : Subscription) : (s.apply s2).id = s.id := rfl

@[simp] theorem Subscription.apply_owner (s s2 : Subscription) :
    (s.apply s2).owner = s.owner := rfl

/-- A saved entity's version is never empty. -/
theorem Subscription.version_ne_empty {s : Subscription} {t : Int} (h : s.updatedAt = some t) :
    s.version ≠ "" := by
  rw [Subscription.version, h]
  exact timestampToVersionString_ne_empty t

end DssStore
