import DssStore.ProtoStore.Healthy
import DssStore.ProtoStore.Writes

/-!
# What the older store's deletes check

A subscription is deleted by id, and with a version also by time; an ISA by id and owner.

With a version, `DeleteSubscription` runs `idempotentQuery`, whose `WHERE` clause compares
`updated_at` with the time `versionStringToTimestamp` reads off the version, which the database
rounds to microseconds as it binds `$2` to a `TIMESTAMPTZ`: it compares times, where
`updateSubscription`'s `versionOK` compares version strings.  The two agree only while the time
fits in `int64` nanoseconds and is a whole number of microseconds.  The version the store hands
out for a row is `timestampToVersionString(updatedAt)`, the base-32 token of `uint64(UnixNano())`,
which reads back as `UnixNano()`, the time wrapped into `int64`; a row stamped outside the years
1678 to 2262 is never deleted with its own version.

## What is here

* `deleteSubscription_healthy_versioned`: a versioned delete that finds a row, run forwards;
* `versioned_delete_ok_iff`: on every state a run reaches, with a backend that fails no round
  trip, a delete with a non-empty version succeeds exactly when a row of the id carries the time
  the version reads as, rounded to microseconds, and a delete with a row's own version exactly
  when that row's time is a whole number of microseconds in the range of `int64`;
* `isa_delete_by_other_owner_fails`: `DeleteIdentificationServiceArea` of an id and an owner no ISA
  has never succeeds and changes nothing.  The error of its statement is dropped, but the rollback
  beside it ends the transaction, so the subscriber query that follows fails with
  `sql.ErrTxDone`, and that is what the caller gets, rather than a not-found error.
-/

set_option autoImplicit false

namespace DssStore

/-- `UnixNano` rounded to microseconds is the identity exactly on the whole numbers of
microseconds that `int64` counts. -/
theorem timestamptz_toInt64_eq_self_iff (t : Int) :
    Sql.timestamptz (toInt64 t) = t ↔ InInt64 t ∧ 1000 ∣ t := by
  refine ⟨fun h => ?_, fun ⟨hin, hdvd⟩ => by
    rw [toInt64_of_inInt64 hin, Sql.timestamptz_of_dvd hdvd]⟩
  simp only [Sql.timestamptz, toInt64, InInt64, two_pow_63, two_pow_64] at h ⊢
  omega

namespace ProtoStore

variable {d : Db} {now : Int} {id version : String}

/-- A versioned delete whose statement returns a row that scans and converts succeeds. -/
theorem deleteSubscription_healthy_versioned {t : Int} {sr : SubscriptionsRow}
    {p : Dspb.Subscription} (hne : version ≠ "") (hv : versionStringToTimestamp version = .ok t)
    (hscan : (queryRow (deleteSubscriptionTuples (deleteCondition id (some t)) d).1 >>=
      SubscriptionsRow.scan) = .ok sr) (hp : sr.toProtobuf = .ok p) :
    ∃ c, deleteSubscription id version (Conn.start d now []) = .ok p c := by
  have hver : ((if version = "" then pure none else some <$>
      orRollback ((versionStringToTimestamp version).mapError .parse) : Tx Db (Option Int))
      { (Conn.start d now []).trip.log .begin with phase := .active, view := d }) =
      .ok (some t) { (Conn.start d now []).trip.log .begin with phase := .active, view := d } := by
    rw [if_neg hne, hv]
    rfl
  exact ⟨_, (bind_of_ok (begin_healthy rfl)).trans ((bind_of_ok hver).trans
    ((bind_of_ok (scanOrRollback_healthy rfl rfl rfl hscan)).trans
      (respondRow_healthy rfl rfl hp)))⟩

/-- On tables whose rows read back, a versioned delete succeeds exactly when a row of the id
carries the time the version reads as, rounded to microseconds. -/
theorem deleteSubscription_versioned_iff (hd : RowsReadable d) (hne : version ≠ "") :
    (∃ p c, deleteSubscription id version (Conn.start d now []) = .ok p c) ↔
      ∃ t, versionStringToTimestamp version = .ok t ∧
        ∃ x ∈ d.subscriptions, x.id = id ∧ x.updatedAt = Sql.timestamptz t := by
  constructor
  · rintro ⟨p, c, h⟩
    obtain ⟨updatedAt, sr, hver, hscan, -, -⟩ := deleteSubscription_ok h
    obtain ⟨-, t, hv, rfl⟩ := hver.resolve_left fun h => hne h.1
    rcases hdel : (deleteSubscriptionTuples (deleteCondition id (some t)) d).1 with _ | ⟨x, _⟩
    · rw [hdel] at hscan
      cases hscan
    · obtain ⟨hx, hcond⟩ := List.mem_filter.mp (hdel ▸ List.mem_cons_self x _ :
        x ∈ (deleteSubscriptionTuples (deleteCondition id (some t)) d).1)
      simp only [deleteCondition, decide_eq_true_eq] at hcond
      exact ⟨t, hv, x, hx, hcond⟩
  · rintro ⟨t, hv, x, hx, hid, ht⟩
    have hmem : x ∈ (deleteSubscriptionTuples (deleteCondition id (some t)) d).1 :=
      List.mem_filter.mpr ⟨hx, by simp [deleteCondition, hid, ht]⟩
    rcases hdel : (deleteSubscriptionTuples (deleteCondition id (some t)) d).1 with _ | ⟨y, rest⟩
    · rw [hdel] at hmem
      cases hmem
    · have hy : y ∈ d.subscriptions := (List.mem_filter.mp (hdel ▸ List.mem_cons_self y rest :
        y ∈ (deleteSubscriptionTuples (deleteCondition id (some t)) d).1)).1
      obtain ⟨sr, hscan, p, hp⟩ := (hd y hy).scan_ok
      exact ⟨p, deleteSubscription_healthy_versioned hne hv (by rw [hdel]; exact hscan) hp⟩

/-- **The versioned delete compares times.**  On every state a run reaches, with a backend that
fails no round trip, `DeleteSubscription` with a non-empty version succeeds exactly when a row of
the id carries the time the version reads as, rounded to microseconds; so with a row's own version
it succeeds exactly when the row's `updated_at` is in the range of `int64` nanoseconds, where
`UnixNano` does not wrap, and a whole number of microseconds, as every `transaction_timestamp()`
is. -/
theorem versioned_delete_ok_iff (steps : List Step) (now : Int) :
    (∀ id version, version ≠ "" →
      ((∃ p c, deleteSubscription id version (Conn.start (replay steps) now []) = .ok p c) ↔
        ∃ t, versionStringToTimestamp version = .ok t ∧
          ∃ x ∈ (replay steps).subscriptions, x.id = id ∧ x.updatedAt = Sql.timestamptz t)) ∧
    ∀ x ∈ (replay steps).subscriptions,
      (∃ p c, deleteSubscription x.id (timestampToVersionString x.updatedAt)
          (Conn.start (replay steps) now []) = .ok p c) ↔
        InInt64 x.updatedAt ∧ 1000 ∣ x.updatedAt := by
  have hd := rowsReadable_replay steps
  refine ⟨fun _ _ hne => deleteSubscription_versioned_iff hd hne, fun x hx => ?_⟩
  rw [deleteSubscription_versioned_iff hd (timestampToVersionString_ne_empty _),
    ← timestamptz_toInt64_eq_self_iff]
  constructor
  · rintro ⟨t, hv, y, hy, hid, ht⟩
    rw [versionStringToTimestamp_timestampToVersionString, Except.ok.injEq] at hv
    have hyx : y = x := List.inj_on_of_nodup_map (keysUnique_replay steps) hy hx hid
    rw [hyx, ← hv] at ht
    exact ht.symm
  · intro h
    exact ⟨_, versionStringToTimestamp_timestampToVersionString _, x, hx, rfl, h.symm⟩

/-- A subscription of owner `a`, as a client first sends it. -/
def subscriptionA : Dspb.Subscription :=
  ⟨"6ba7b810-9dad-11d1-80b4-00c04fd430c8", "a", some ⟨"u"⟩, 0, "", none, none⟩

/-- From bootstrap, `subscriptionA` is inserted at 09:00 on 6 November 2019; a delete of it a
second later with the version of 09:00 goes through, that time being a whole number of
microseconds in the range of `int64`. -/
theorem versioned_delete_ok_iff_subscriptionA :
    ∃ p c, deleteSubscription subscriptionA.id (timestampToVersionString 1573030800000000000)
      (Conn.start (replay [⟨.insertSubscription subscriptionA [], 1573030800000000000, []⟩])
        1573030801000000000 []) = .ok p c :=
  ((versioned_delete_ok_iff _ 1573030801000000000).2
    ⟨subscriptionA.id, "a", "u", none, some 0, none, none, none, 1573030800000000000⟩
    (List.mem_singleton.mpr rfl)).mpr (by simp only [InInt64, two_pow_63]; omega)

/-! ## The owner of an ISA -/

/-- A rollback of an open transaction on a backend that fails nothing returns no error. -/
theorem rollback_healthy {c : Conn Db} (ha : c.phase = .active) (hf : c.faults = []) :
    rollback c = .ok none { (c.log .rollback).trip with phase := .done } := by
  simp [rollback, ha, Conn.fails, hf]

/-- On an ended transaction the rollback adds `sql.ErrTxDone` to the error. -/
theorem rollbackWith_ended {α : Type} {c : Conn Db} {e : Err} (h : c.phase ≠ .active) :
    (rollbackWith e : Tx Db α) c = .error (.combined e .txDone) (c.log .rollback) := by
  simp [rollbackWith, rollback, h, bind_apply, Err.combine]

section IsaOwner

variable {c : Conn Db}

/-- The scan of the affected pairs, run forwards, when every one of them scans. -/
theorem readAffected_healthy {cells : List Int} {subscriptions : List String}
    (hscan : scanAffected (affectedCellsAndSubscriptions id d) = .ok (cells, subscriptions))
    (ha : c.phase = .active) (hf : c.faults = []) (hv : c.view = d) :
    readAffected id c = .ok subscriptions { (c.log .statement).trip with view := c.view } := by
  subst hv
  unfold readAffected query
  rw [bind_of_ok ((attempt_ok (r := .ok _)).mpr (statement_healthy ha hf rfl))]
  dsimp only
  rw [bind_of_ok (pure_apply _ _), hscan]
  rfl

/-- A deletion that finds no row of the id and owner rolls the transaction back and goes on with
the zero row. -/
theorem deleteRow_healthy_none {owner : String} (ha : c.phase = .active) (hf : c.faults = [])
    (hnone : (deleteIdentificationServiceAreaRows id owner c.view).1 = []) :
    ∃ c', deleteRow id owner c = .ok IdentificationServiceAreaRow.zero c' ∧ c'.phase ≠ .active := by
  have hst : attempt (statement (.ok ()) fun _ _ d =>
      .ok (deleteIdentificationServiceAreaRows id owner d)) c = .ok (.ok [])
        { (c.log .statement).trip with
          view := (deleteIdentificationServiceAreaRows id owner c.view).2 } :=
    attempt_ok.mpr (statement_healthy ha hf (by rw [← hnone]))
  have hrb := rollback_healthy (c := { (c.log .statement).trip with
    view := (deleteIdentificationServiceAreaRows id owner c.view).2 }) ha (by simp [hf])
  exact ⟨_, (bind_of_ok hst).trans ((bind_of_ok hrb).trans rfl), rollback_ended hrb⟩

/-- The subscriber query on an ended transaction fails with `sql.ErrTxDone`, and so does the
rollback beside it. -/
theorem readSubscribers_ended (subscriptions : List String) (owner : String)
    (h : c.phase ≠ .active) :
    ∃ c', readSubscribers subscriptions owner c = .error (.combined .txDone .txDone) c' := by
  unfold readSubscribers query
  rw [bind_of_ok ((attempt_ok (r := .error _)).mpr (statement_ended _ _ h))]
  exact ⟨_, bind_of_error (rollbackWith_ended (by simpa using h))⟩

/-- **An ISA is deleted only by its owner.**  `DeleteIdentificationServiceArea` of an id and an
owner that no ISA row has never succeeds and leaves the tables as they were, whatever the backend
does; with a backend that fails no round trip, once the affected pairs scan, it fails with
`sql.ErrTxDone` twice over: the rollback after the empty delete has ended the transaction. -/
theorem isa_delete_by_other_owner_fails (d : Db) (id owner : String) (now : Int) (fs : List Bool)
    (hown : ∀ x ∈ d.identificationServiceAreas, x.id = id → x.owner ≠ owner) :
    (∃ e c, deleteIdentificationServiceArea id owner (Conn.start d now fs) = .error e c ∧
      c.db = d) ∧
    ∀ cells subscriptions,
      scanAffected (affectedCellsAndSubscriptions id d) = .ok (cells, subscriptions) →
      ∃ c, deleteIdentificationServiceArea id owner (Conn.start d now []) =
        .error (.combined .txDone .txDone) c := by
  have hnone : (deleteIdentificationServiceAreaRows id owner d).1 = [] :=
    List.filter_eq_nil_iff.mpr fun x hx hxo => by
      simp only [decide_eq_true_eq] at hxo
      exact hown x hx hxo.1 hxo.2
  refine ⟨?_, fun cells subscriptions hscan => ?_⟩
  · rcases hres : deleteIdentificationServiceArea id owner (Conn.start d now fs) with
      ⟨r, c⟩ | ⟨e, c⟩
    · obtain ⟨-, -, isar, rest, -, -, hrows, -⟩ := deleteIdentificationServiceArea_ok hres
      rw [hnone] at hrows
      cases hrows
    · exact ⟨e, c, rfl, sealed_deleteIdentificationServiceArea id owner _ e c hres⟩
  · have hread := readAffected_healthy hscan (c := { (Conn.start d now []).trip.log .begin with
      phase := .active, view := d }) rfl rfl rfl
    obtain ⟨c₂, hdel, hended⟩ := deleteRow_healthy_none
      (c := { ({ (Conn.start d now []).trip.log .begin with phase := .active, view := d } :
        Conn Db).log .statement |>.trip with view := d }) rfl rfl hnone
    obtain ⟨c₃, hsubs⟩ := readSubscribers_ended subscriptions owner hended
    exact ⟨c₃, (bind_of_ok (begin_healthy rfl)).trans ((bind_of_ok hread).trans
      ((bind_of_ok hdel).trans (bind_of_error hsubs)))⟩

/-- `i` is `A`'s: deleted by `B` at 11:00 it stays, and `B` gets `sql.ErrTxDone` twice. -/
theorem isa_delete_by_other_owner_fails_notifyDb :
    (∀ x ∈ notifyDb.identificationServiceAreas, x.id = "i" → x.owner ≠ "B") ∧
    (∃ e c, deleteIdentificationServiceArea "i" "B" (Conn.start notifyDb 1573038000000000000 []) =
      .error e c ∧ c.db = notifyDb) ∧
    ∃ c, deleteIdentificationServiceArea "i" "B" (Conn.start notifyDb 1573038000000000000 []) =
      .error (.combined .txDone .txDone) c :=
  have hown : ∀ x ∈ notifyDb.identificationServiceAreas, x.id = "i" → x.owner ≠ "B" := by decide
  ⟨hown, (isa_delete_by_other_owner_fails notifyDb "i" "B" 1573038000000000000 [] hown).1,
    (isa_delete_by_other_owner_fails notifyDb "i" "B" 1573038000000000000 [] hown).2 _ _ rfl⟩

end IsaOwner

end ProtoStore
end DssStore
