import DssStore.Tx

/-!
# Protobuf messages and timestamps

The older store hands back the messages of the `dspb` package, the protobuf API of the service:
the ones its ISA deletion builds are below, each with the fields the store sets.  Their times are
`google.protobuf.Timestamp`s, which the store converts to and from the database's times with the
`ptypes` package.  A `Timestamp` counts whole seconds since the epoch
and the nanoseconds past them; `ptypes` accepts only those from the year 1 up to, and not
including, the year 10000, and every conversion checks it (`validateTimestamp`).

A Go `time.Time` is, as everywhere in this development, its nanoseconds since the epoch, an
`Int`.  The range `ptypes` accepts is far wider than the one `UnixNano` counts
(`DssStore.InInt64`), and far narrower than the database's.
-/

set_option autoImplicit false

namespace DssStore

/-- A `google.protobuf.Timestamp`. -/
structure Timestamp where
  /-- `Seconds`. -/
  seconds : Int
  /-- `Nanos`. -/
  nanos : Int
  deriving DecidableEq, Repr

/-- `dspb.SubscriptionState`. -/
structure SubscriptionState where
  /-- `NotificationIndex`. -/
  notificationIndex : Int
  /-- `Subscription`: the subscription's id. -/
  subscription : String
  deriving DecidableEq, Repr

/-- `dspb.SubscriberToNotify`. -/
structure SubscriberToNotify where
  /-- `Url`. -/
  url : String
  /-- `Subscriptions`. -/
  subscriptions : List SubscriptionState
  deriving DecidableEq, Repr

/-- `dspb.Volume4D`, without its `SpatialVolume`, which the ISA deletion never sets. -/
structure Volume4D where
  /-- `TimeStart`. -/
  timeStart : Option Timestamp
  /-- `TimeEnd`. -/
  timeEnd : Option Timestamp
  deriving DecidableEq, Repr

/-- `dspb.IdentificationServiceArea`. -/
structure IdentificationServiceArea where
  /-- `Id`. -/
  id : String
  /-- `Owner`. -/
  owner : String
  /-- `FlightsUrl`. -/
  flightsUrl : String
  /-- `Version`. -/
  version : String
  /-- `Extents`. -/
  extents : Option Volume4D
  deriving DecidableEq, Repr

/-- `dspb.SubscriptionCallbacks`. -/
structure SubscriptionCallbacks where
  /-- `IdentificationServiceAreaUrl`. -/
  identificationServiceAreaUrl : String
  deriving DecidableEq, Repr

/-- `GetIdentificationServiceAreaUrl`, the generated getter: it reads `""` off a nil message. -/
def SubscriptionCallbacks.getIdentificationServiceAreaUrl : Option SubscriptionCallbacks → String
  | none => ""
  | some cb => cb.identificationServiceAreaUrl

namespace Dspb

/-- `dspb.Subscription`, in a namespace of its own to keep it apart from the newer store's
`models.Subscription`. -/
structure Subscription where
  /-- `Id`. -/
  id : String
  /-- `Owner`. -/
  owner : String
  /-- `Callbacks`. -/
  callbacks : Option SubscriptionCallbacks
  /-- `NotificationIndex`. -/
  notificationIndex : Int
  /-- `Version`. -/
  version : String
  /-- `Begins`. -/
  begins : Option Timestamp
  /-- `Expires`. -/
  expires : Option Timestamp
  deriving DecidableEq, Repr

end Dspb

namespace Ptypes

/-- `minValidSeconds`: 0001-01-01 00:00:00 UTC. -/
def minValidSeconds : Int := -62135596800

/-- `maxValidSeconds`: 10000-01-01 00:00:00 UTC. -/
def maxValidSeconds : Int := 253402300800

/-- `validateTimestamp`.  Go's messages also print the timestamp, between "timestamp:" and the
reason. -/
def validateTimestamp (ts : Option Timestamp) : Option Err :=
  match ts with
  | none => some (.timestamp "timestamp: nil Timestamp")
  | some ts =>
    if ts.seconds < minValidSeconds then some (.timestamp "before 0001-01-01")
    else if maxValidSeconds ≤ ts.seconds then some (.timestamp "after 10000-01-01")
    else if ts.nanos < 0 ∨ 1000000000 ≤ ts.nanos then
      some (.timestamp "nanos not in range [0, 1e9)")
    else none

/-- `ptypes.TimestampProto`: `t.Unix()` and `t.Nanosecond()`, checked. -/
def timestampProto (t : Int) : Except Err Timestamp :=
  let ts : Timestamp := ⟨t / 1000000000, t % 1000000000⟩
  match validateTimestamp (some ts) with
  | some e => .error e
  | none => .ok ts

/-- `ptypes.Timestamp`: `time.Unix(ts.Seconds, int64(ts.Nanos))`, the epoch for a nil timestamp,
and the error of `validateTimestamp`.  Go hands back the time together with the error; every
caller here looks at the error alone. -/
def timestamp (ts : Option Timestamp) : Int × Option Err :=
  match ts with
  | none => (0, validateTimestamp none)
  | some ts => (ts.seconds * 1000000000 + ts.nanos, validateTimestamp (some ts))

/-- The times `ptypes` accepts: from the year 1 up to, not including, the year 10000. -/
def InRange (t : Int) : Prop :=
  minValidSeconds * 1000000000 ≤ t ∧ t < maxValidSeconds * 1000000000

instance (t : Int) : Decidable (InRange t) := inferInstanceAs (Decidable (_ ∧ _))

/-- **`TimestampProto` succeeds exactly on the years 1 to 9999**, and then it splits the time
into seconds and nanoseconds. -/
theorem timestampProto_eq_ok_iff {t : Int} {ts : Timestamp} :
    timestampProto t = .ok ts ↔ InRange t ∧ ts = ⟨t / 1000000000, t % 1000000000⟩ := by
  simp only [timestampProto, validateTimestamp, InRange, minValidSeconds, maxValidSeconds]
  have h₁ : 0 ≤ t % 1000000000 := Int.emod_nonneg t (by decide)
  have h₂ : t % 1000000000 < 1000000000 := Int.emod_lt_of_pos t (by decide)
  by_cases hlo : t / 1000000000 < -62135596800
  · simp only [hlo, if_true]
    constructor
    · intro h; cases h
    · rintro ⟨⟨hl, -⟩, -⟩; omega
  · by_cases hhi : 253402300800 ≤ t / 1000000000
    · simp only [hlo, hhi, if_true, if_false]
      constructor
      · intro h; cases h
      · rintro ⟨⟨-, hh⟩, -⟩; omega
    · have hn : ¬(t % 1000000000 < 0 ∨ 1000000000 ≤ t % 1000000000) := by omega
      simp only [hlo, hhi, hn, if_false]
      constructor
      · rintro ⟨⟩; exact ⟨by omega, rfl⟩
      · rintro ⟨-, rfl⟩; rfl

/-- The timestamps `validateTimestamp` accepts. -/
theorem validateTimestamp_eq_none {ts : Timestamp} :
    validateTimestamp (some ts) = none ↔ minValidSeconds ≤ ts.seconds ∧
      ts.seconds < maxValidSeconds ∧ 0 ≤ ts.nanos ∧ ts.nanos < 1000000000 := by
  dsimp only [validateTimestamp]
  split_ifs <;> simp only [reduceCtorEq, false_iff, true_iff, not_and_or, not_le, not_lt] <;> omega

/-- **`Timestamp` then `TimestampProto` gives the timestamp back**, whenever the first accepts it:
the time it reads is in range, and splits into the seconds and nanoseconds it was made of. -/
theorem timestampProto_timestamp {ts : Timestamp} (h : validateTimestamp (some ts) = none) :
    timestampProto (timestamp (some ts)).1 = .ok ts := by
  obtain ⟨h₁, h₂, h₃, h₄⟩ := validateTimestamp_eq_none.mp h
  obtain ⟨s, n⟩ := ts
  simp only [minValidSeconds, maxValidSeconds] at h₁ h₂ h₃ h₄
  rw [timestampProto_eq_ok_iff, timestamp, InRange, minValidSeconds, maxValidSeconds]
  dsimp only
  refine ⟨⟨by omega, by omega⟩, ?_⟩
  congr 1 <;> omega

/-- The time `ptypes.Timestamp` reads off a timestamp it accepts is one `TimestampProto` converts
back. -/
theorem timestamp_inRange {ts : Timestamp} (h : validateTimestamp (some ts) = none) :
    InRange (timestamp (some ts)).1 :=
  (timestampProto_eq_ok_iff.mp (timestampProto_timestamp h)).1

/-- `ptypes.Timestamp` succeeds only on a timestamp it was handed and accepts. -/
theorem timestamp_eq_none {o : Option Timestamp} {t : Int} (h : timestamp o = (t, none)) :
    ∃ ts, o = some ts ∧ validateTimestamp (some ts) = none ∧ t = (timestamp (some ts)).1 := by
  rcases o with _ | ts
  · cases h
  · obtain ⟨rfl, hv⟩ := Prod.mk.inj h
    exact ⟨ts, rfl, hv, rfl⟩

end Ptypes

end DssStore
