import DssStore.ProtoStore.Tables

/-!
# The version tokens the older store hands out and checks

Every entity the older store returns carries a version, and `versionOK` checks the one a caller
sends back.  Two encoders write them:

* a subscription's is `timestampToVersionString(updatedAt)`, the base-32 `FormatUint` of the
  `uint64` of `UnixNano`, and `versionStringToTimestamp` reads it back;
* an ISA's is `strconv.FormatInt(updatedAt.UnixNano(), 10)`, the decimal `UnixNano`.

## What is here

* `versionOK_timestampToVersionString`: a subscription row accepts, besides the empty string,
  the token of a time exactly when that time has the row's `UnixNano`;
* `isaVersion_eq_iff`: an ISA's version is the token of its `updated_at` only for the first ten
  nanoseconds after the epoch; at every other time the two encoders disagree, and a realistic
  ISA version does not even decode (`isa_version_not_decodable`).
-/

set_option autoImplicit false

namespace DssStore
namespace ProtoStore

/-! ## Subscription versions -/

/-- A token depends on nothing but `UnixNano`. -/
theorem timestampToVersionString_eq_iff (t t' : Int) :
    timestampToVersionString t = timestampToVersionString t' ↔ unixNano t = unixNano t' := by
  constructor
  · intro h
    have h' := versionStringToTimestamp_timestampToVersionString t
    rw [h, versionStringToTimestamp_timestampToVersionString] at h'
    exact (Except.ok.inj h').symm
  · intro h
    rw [timestampToVersionString, timestampToVersionString, h]

theorem SubscriptionsRow.versionOK_iff (sr : SubscriptionsRow) (v : String) :
    sr.versionOK v = true ↔ v = "" ∨ v = timestampToVersionString sr.updatedAt := by
  simp [SubscriptionsRow.versionOK]

/-- The token of a time passes `versionOK` exactly when the time has the row's `UnixNano`. -/
theorem SubscriptionsRow.versionOK_timestampToVersionString (sr : SubscriptionsRow) (t : Int) :
    sr.versionOK (timestampToVersionString t) = true ↔ unixNano t = unixNano sr.updatedAt := by
  rw [sr.versionOK_iff, timestampToVersionString_eq_iff]
  exact or_iff_right (timestampToVersionString_ne_empty t)

/-- **The version codec round-trips**, for every time, and a token names one nanosecond value:
`versionStringToTimestamp` hands back a time with the same `UnixNano`, two tokens are equal only
for equal `UnixNano`s, and a stored row's `versionOK` accepts the empty string and its own token,
that is the token of any time with its `UnixNano`, and nothing else. -/
theorem version_codec_round_trip :
    (∀ t : Int, ∃ t', versionStringToTimestamp (timestampToVersionString t) = .ok t' ∧
      unixNano t' = unixNano t) ∧
    (∀ t t' : Int, timestampToVersionString t = timestampToVersionString t' →
      unixNano t = unixNano t') ∧
    (∀ (sr : SubscriptionsRow) (v : String),
      sr.versionOK v = true ↔ v = "" ∨ v = timestampToVersionString sr.updatedAt) ∧
    (∀ (sr : SubscriptionsRow) (t : Int),
      sr.versionOK (timestampToVersionString t) = true ↔ unixNano t = unixNano sr.updatedAt) :=
  ⟨fun t => ⟨unixNano t, versionStringToTimestamp_timestampToVersionString t,
      by rw [unixNano, unixNano, toInt64_toInt64]⟩,
    fun t t' => (timestampToVersionString_eq_iff t t').mp,
    SubscriptionsRow.versionOK_iff, SubscriptionsRow.versionOK_timestampToVersionString⟩

/-! ## ISA versions -/

theorem IdentificationServiceAreaRow.toProtobuf_version {isar : IdentificationServiceAreaRow}
    {p : IdentificationServiceArea} (h : isar.toProtobuf = .ok p) :
    p.version = Strconv.formatInt (unixNano isar.updatedAt) 10 := by
  unfold IdentificationServiceAreaRow.toProtobuf at h
  cases hs : Ptypes.timestampProto isar.startsAt <;>
    cases he : Ptypes.timestampProto isar.endsAt <;>
    simp only [hs, he, bind, Except.bind, pure, Except.pure, reduceCtorEq, Except.ok.injEq] at h
  rw [← h]

/-- `UnixNano` is an `int64`, whose `uint64` is itself when it is not negative. -/
theorem toUint64_unixNano {t : Int} (h : 0 ≤ unixNano t) :
    (toUint64 (unixNano t) : Int) = unixNano t := by
  have hlt : unixNano t < 2 ^ 63 := by
    simp only [unixNano, toInt64, two_pow_63, two_pow_64]; omega
  simp only [toUint64, two_pow_64]
  rw [two_pow_63] at hlt
  omega

/-- An ISA written at 00:26:40 on 6 November 2019, over the two hours from 01:26:40. -/
def isaOf2019 : IdentificationServiceAreaRow :=
  ⟨"i", "a", "u", 1573003600000000000, 1573010800000000000, 1573000000000000000⟩

/-- **An ISA's version is the token of its `updated_at` only in the first ten nanoseconds after
the epoch.**  Before the epoch the decimal has a `-`; from ten nanoseconds on it has two digits or
more, which read in base 32 give a larger number. -/
theorem isaVersion_eq_iff {isar : IdentificationServiceAreaRow} {p : IdentificationServiceArea}
    (h : isar.toProtobuf = .ok p) :
    p.version = timestampToVersionString isar.updatedAt ↔
      0 ≤ unixNano isar.updatedAt ∧ unixNano isar.updatedAt < 10 := by
  rw [IdentificationServiceAreaRow.toProtobuf_version h, timestampToVersionString, versionBase]
  by_cases hn : unixNano isar.updatedAt < 0
  · exact iff_of_false (Strconv.formatInt_ne_formatUint hn (by decide) (by decide))
      fun h => absurd h.1 (not_le.mpr hn)
  · have hnat := toUint64_unixNano (not_lt.mp hn)
    have hnat' : (unixNano isar.updatedAt).toNat = toUint64 (unixNano isar.updatedAt) := by
      omega
    rw [Strconv.formatInt, if_neg hn, hnat',
      Strconv.formatUint_ten_eq_thirtyTwo_iff (toUint64_lt _)]
    omega

theorem isaVersion_eq_iff_isaOf2019 :
    ∃ p, isaOf2019.toProtobuf = .ok p ∧
      (p.version = timestampToVersionString isaOf2019.updatedAt ↔
        0 ≤ unixNano isaOf2019.updatedAt ∧ unixNano isaOf2019.updatedAt < 10) :=
  ⟨_, rfl, isaVersion_eq_iff rfl⟩

/-- The ISA's version is its decimal `UnixNano`, not its token; read back by
`versionStringToTimestamp`, as the spec's version format says it should be, it is out of the
`uint64` range. -/
theorem isa_version_not_decodable :
    ∃ p, isaOf2019.toProtobuf = .ok p ∧ p.version = "1573000000000000000" ∧
      timestampToVersionString isaOf2019.updatedAt = "1bl3b59rr1000" ∧
      versionStringToTimestamp p.version = .error .errRange :=
  ⟨_, rfl, rfl, by decide, rfl⟩

end ProtoStore
end DssStore
