import DssStore.ProtoStore.Subscriptions

/-!
# The identification service area of the `models` package

`models.IdentificationServiceArea` is the entity the newer API's handlers and store pass around.
Its `Apply` overlays a partial entity on a stored one, field by field, as the update paths do; its
`ToProto` builds the message the handlers answer with, converting the start and end times with
`ptypes.TimestampProto`.  `Version()` calls `VersionFromTimestamp`, which is not among the
sources, and is modelled from the spec as `Subscription.version` is.

A nil pointer or slice is `none`; the altitudes, `*float32`s that `Apply` only copies, are
`Float`s.

## What is here

* `overlayField`, one line `if i2.F is set { new.F = i2.F }` of `Apply`, and `apply`;
* `apply_overlays_compose`: `Apply` keeps the receiver's id and owner, overlaying `a` then `b` is
  overlaying `a.Apply(b)`, and overlaying the same entity twice is overlaying it once;
* `toProto`, and `toProto_ok_iff`: it fails exactly on a start or end time outside the years
  `ptypes` accepts;
* `toProto_apply_ok`: an overlay of two entities that convert converts, with the receiver's id and
  owner and the version of whichever side's `UpdatedAt` it took.
-/

set_option autoImplicit false

namespace DssStore
namespace Models

/-- The `dspb.IdentificationServiceArea` that `ToProto` fills: a later version of the message than
the older store's `DssStore.IdentificationServiceArea`, with `Url`, `StartTime` and `EndTime` at
its top level. -/
structure IdentificationServiceAreaMessage where
  /-- `Id`. -/
  id : String
  /-- `Owner`. -/
  owner : String
  /-- `Url`. -/
  url : String
  /-- `Version`. -/
  version : String
  /-- `StartTime`. -/
  startTime : Option Timestamp
  /-- `EndTime`. -/
  endTime : Option Timestamp
  deriving DecidableEq, Repr

/-- `models.IdentificationServiceArea`. -/
structure IdentificationServiceArea where
  /-- `ID`. -/
  id : String
  /-- `Url`. -/
  url : String
  /-- `Owner`. -/
  owner : String
  /-- `Cells`, an `s2.CellUnion`; `none` is the nil union. -/
  cells : Option (List CellID)
  /-- `StartTime`, nanoseconds since the epoch. -/
  startTime : Option Int
  /-- `EndTime`. -/
  endTime : Option Int
  /-- `UpdatedAt`. -/
  updatedAt : Option Int
  /-- `AltitudeHi`. -/
  altitudeHi : Option Float
  /-- `AltitudeLo`. -/
  altitudeLo : Option Float

/-- One line of `Apply`, `if <i2.F is set> { new.F = i2.F }`: the overlay's field when it is set,
the receiver's otherwise. -/
def overlayField {α : Type} (set : α → Bool) (field overlay : α) : α :=
  if set overlay then overlay else field

theorem overlayField_overlayField {α : Type} (set : α → Bool) (x a b : α) :
    overlayField set (overlayField set x a) b = overlayField set x (overlayField set a b) := by
  unfold overlayField
  by_cases hb : set b <;> by_cases ha : set a <;> simp [ha, hb]

theorem overlayField_self {α : Type} (set : α → Bool) (a : α) : overlayField set a a = a := by
  unfold overlayField
  split <;> rfl

namespace IdentificationServiceArea

/-- Modelled from the spec: `Version()` is `VersionFromTimestamp(i.UpdatedAt)`, which is not under
src/.  The version is the base-32 token of `UpdatedAt`, and empty for an entity never saved. -/
def version (i : IdentificationServiceArea) : String :=
  match i.updatedAt with
  | none => ""
  | some t => timestampToVersionString t

/-- `Apply`: a copy of the receiver with every field `i2` sets replaced by `i2`'s, except `ID` and
`Owner`. -/
def apply (s i2 : IdentificationServiceArea) : IdentificationServiceArea :=
  { s with
    url := overlayField (· != "") s.url i2.url
    cells := overlayField Option.isSome s.cells i2.cells
    startTime := overlayField Option.isSome s.startTime i2.startTime
    endTime := overlayField Option.isSome s.endTime i2.endTime
    updatedAt := overlayField Option.isSome s.updatedAt i2.updatedAt
    altitudeHi := overlayField Option.isSome s.altitudeHi i2.altitudeHi
    altitudeLo := overlayField Option.isSome s.altitudeLo i2.altitudeLo }

/-- `ToProto`: the id, owner, url and version, and each start or end time that is set converted by
`ptypes.TimestampProto`, whose error is returned. -/
def toProto (i : IdentificationServiceArea) : Except Err IdentificationServiceAreaMessage := do
  let startTime ← i.startTime.mapM Ptypes.timestampProto
  let endTime ← i.endTime.mapM Ptypes.timestampProto
  return { id := i.id, owner := i.owner, url := i.url, version := i.version,
           startTime := startTime, endTime := endTime }

/-- **How overlays compose.**  `Apply` keeps the receiver's id and owner; overlaying `a` and then
`b` is overlaying the one entity `a.Apply(b)`; and overlaying the same entity again changes
nothing, so a retried update overlays what the first one did. -/
theorem apply_overlays_compose (s a b : IdentificationServiceArea) :
    (s.apply a).id = s.id ∧ (s.apply a).owner = s.owner ∧
      (s.apply a).apply b = s.apply (a.apply b) ∧ (s.apply a).apply a = s.apply a := by
  refine ⟨rfl, rfl, ?_, ?_⟩
  · simp only [apply, overlayField_overlayField]
  · simp only [apply, overlayField_overlayField, overlayField_self]

/-- **`ToProto` fails exactly on a start or end time outside the years `ptypes` accepts.** -/
theorem toProto_ok_iff (i : IdentificationServiceArea) :
    (∃ m, i.toProto = .ok m) ↔
      (∀ t ∈ i.startTime, Ptypes.InRange t) ∧ ∀ t ∈ i.endTime, Ptypes.InRange t := by
  rw [← ProtoStore.SubscriptionsRow.mapM_timestampProto_ok_iff,
    ← ProtoStore.SubscriptionsRow.mapM_timestampProto_ok_iff]
  unfold toProto
  rcases i.startTime.mapM Ptypes.timestampProto with e | b <;>
    rcases i.endTime.mapM Ptypes.timestampProto with e' | x <;>
    simp [bind, Except.bind, pure, Except.pure]

/-- What `ToProto` answers when it succeeds. -/
theorem toProto_eq {i : IdentificationServiceArea} {m : IdentificationServiceAreaMessage}
    (h : i.toProto = .ok m) :
    m = { id := i.id, owner := i.owner, url := i.url, version := i.version,
          startTime := i.startTime.map fun t => ⟨t / 1000000000, t % 1000000000⟩,
          endTime := i.endTime.map fun t => ⟨t / 1000000000, t % 1000000000⟩ } := by
  unfold toProto at h
  rcases hb : i.startTime.mapM Ptypes.timestampProto with e | b <;>
    rcases he : i.endTime.mapM Ptypes.timestampProto with e' | x <;>
    simp only [hb, he, bind, Except.bind, pure, Except.pure, reduceCtorEq] at h
  rw [← Except.ok.inj h, ProtoStore.SubscriptionsRow.mapM_timestampProto_eq hb,
    ProtoStore.SubscriptionsRow.mapM_timestampProto_eq he]

theorem inRange_overlayField {x a : Option Int} (hx : ∀ t ∈ x, Ptypes.InRange t)
    (ha : ∀ t ∈ a, Ptypes.InRange t) : ∀ t ∈ overlayField Option.isSome x a, Ptypes.InRange t := by
  unfold overlayField
  split
  · exact ha
  · exact hx

/-- **An overlay of two entities that convert converts**, and its message carries the receiver's id
and owner, and the overlay's version when the overlay has an `UpdatedAt`, the receiver's
otherwise: the handler's `dsserr.Internal` on `ToProto` never comes from the overlay itself. -/
theorem toProto_apply_ok {s i2 : IdentificationServiceArea} (hs : ∃ m, s.toProto = .ok m)
    (hi : ∃ m, i2.toProto = .ok m) :
    ∃ m, (s.apply i2).toProto = .ok m ∧ m.id = s.id ∧ m.owner = s.owner ∧
      m.version = if i2.updatedAt.isSome then i2.version else s.version := by
  obtain ⟨hs₁, hs₂⟩ := (toProto_ok_iff s).mp hs
  obtain ⟨hi₁, hi₂⟩ := (toProto_ok_iff i2).mp hi
  obtain ⟨m, hm⟩ := (toProto_ok_iff (s.apply i2)).mpr
    ⟨inRange_overlayField hs₁ hi₁, inRange_overlayField hs₂ hi₂⟩
  refine ⟨m, hm, by rw [toProto_eq hm]; rfl, by rw [toProto_eq hm]; rfl, ?_⟩
  rw [toProto_eq hm]
  show (s.apply i2).version = _
  simp only [version, apply, overlayField]
  rcases i2.updatedAt <;> rfl

/-- An area `i` of owner `a`, from 0 to 10 ns, saved at 1 ns. -/
def isaI : IdentificationServiceArea :=
  ⟨"i", "https://u", "a", some [42], some 0, some 10, some 1, none, none⟩

/-- A patch of `i`'s start time, made at 2 ns. -/
def patchI : IdentificationServiceArea := ⟨"i", "", "a", none, some 5, none, some 2, none, none⟩

theorem toProto_apply_ok_patchI :
    (∃ m, isaI.toProto = .ok m) ∧ (∃ m, patchI.toProto = .ok m) ∧
      ∃ m, (isaI.apply patchI).toProto = .ok m ∧ m.id = isaI.id ∧ m.owner = isaI.owner ∧
        m.version = if patchI.updatedAt.isSome then patchI.version else isaI.version :=
  ⟨⟨_, rfl⟩, ⟨_, rfl⟩, toProto_apply_ok ⟨_, rfl⟩ ⟨_, rfl⟩⟩

end IdentificationServiceArea

end Models
end DssStore
