import DssStore.ProtoStore.Frame

/-!
# What the older store answers when no round trip fails

`DssStore.ProtoStore.Subscriptions` says what a call did when it succeeded.  With a backend that
fails no round trip, the other direction holds too, on every run: `GetSubscription` of an id, and
`DeleteSubscription` of it with the empty version, succeed exactly when the tables hold a
subscription of that id, whoever owns it.  Nothing but a missing row can stop them, since every row
a run leaves reads back (`RowsReadable`).

## What is here

* `scanOrRollback_healthy` and `respondRow_healthy`: the shared stages, run forwards;
* `getSubscription_healthy` and `deleteSubscription_healthy`: a read, and a delete with no
  version, of a row that reads back succeed;
* `getSubscription_ok_iff_of_replay` and `deleteSubscription_ok_iff_of_replay`.
-/

set_option autoImplicit false

namespace DssStore
namespace ProtoStore

/-! ## The stages, run forwards -/

variable {c : Conn Db}

theorem scanOrRollback_healthy {run : Int → Db → Except Err (List SubscriptionTuple × Db)}
    {rows : List SubscriptionTuple} {v : Db} {sr : SubscriptionsRow}
    (ha : c.phase = .active) (hf : c.faults = []) (hrun : run c.now c.view = .ok (rows, v))
    (hscan : (queryRow rows >>= SubscriptionsRow.scan) = .ok sr) :
    scanOrRollback run c = .ok sr { (c.log .statement).trip with view := v } := by
  have hst : attempt (statement (.ok ()) fun _ now d => run now d) c =
      .ok (.ok rows) { (c.log .statement).trip with view := v } :=
    attempt_ok.mpr (statement_healthy ha hf hrun)
  have hsub : scanSubscriptionsRow run c =
      .ok (.ok sr) { (c.log .statement).trip with view := v } := by
    unfold scanSubscriptionsRow
    rw [bind_of_ok hst]
    dsimp only
    rw [hscan]
    rfl
  unfold scanOrRollback
  rw [bind_of_ok hsub]
  rfl

theorem respondRow_healthy {sr : SubscriptionsRow} {p : Dspb.Subscription}
    (ha : c.phase = .active) (hf : c.faults = []) (hp : sr.toProtobuf = .ok p) :
    respondRow sr c = .ok p { (c.log .commit).trip with phase := .done, db := c.view } := by
  unfold respondRow
  rw [hp, bind_of_ok (rfl : (orRollback (.ok p) : Tx Db Dspb.Subscription) c = .ok p c),
    bind_of_ok (commit_healthy ha hf)]
  rfl

/-! ## Reads and blind deletes -/

variable {d : Db} {id : String} {now : Int} {sr : SubscriptionsRow} {p : Dspb.Subscription}

/-- A read of an id whose first row scans and converts succeeds. -/
theorem getSubscription_healthy
    (hscan : (queryRow (selectSubscriptionByID id d) >>= SubscriptionsRow.scan) = .ok sr)
    (hp : sr.toProtobuf = .ok p) : ∃ c', getSubscription id (Conn.start d now []) = .ok p c' :=
  ⟨_, (bind_of_ok (begin_healthy rfl)).trans
    ((bind_of_ok (scanOrRollback_healthy rfl rfl rfl hscan)).trans (respondRow_healthy rfl rfl hp))⟩

/-- With the empty version, `DeleteSubscription` runs `blindQuery`, whose rows are those a read
of the id finds. -/
theorem deleteSubscription_blind (id : String) :
    deleteSubscription id "" = (do
      begin
      let sr ← scanOrRollback fun _ d => .ok (deleteSubscriptionTuples (deleteCondition id none) d)
      respondRow sr) := rfl

theorem deleteSubscriptionTuples_blind (id : String) (d : Db) :
    (deleteSubscriptionTuples (deleteCondition id none) d).1 = selectSubscriptionByID id d := rfl

/-- A delete with no version of an id whose first row scans and converts succeeds. -/
theorem deleteSubscription_healthy
    (hscan : (queryRow (selectSubscriptionByID id d) >>= SubscriptionsRow.scan) = .ok sr)
    (hp : sr.toProtobuf = .ok p) : ∃ c', deleteSubscription id "" (Conn.start d now []) = .ok p c' := by
  rw [deleteSubscription_blind]
  exact ⟨_, (bind_of_ok (begin_healthy rfl)).trans
    ((bind_of_ok (scanOrRollback_healthy rfl rfl rfl hscan)).trans (respondRow_healthy rfl rfl hp))⟩

/-- A row that reads back scans, and converts. -/
theorem SubscriptionTuple.Readable.scan_ok {t : SubscriptionTuple} (h : t.Readable) :
    ∃ sr, SubscriptionsRow.scan t = .ok sr ∧ ∃ p, sr.toProtobuf = .ok p := by
  obtain ⟨hidx, htimes⟩ := h
  rcases hn : t.notificationIndex with _ | n
  · rw [hn] at hidx
    cases hidx
  · refine ⟨⟨t.id, t.owner, t.url, t.typesFilter, n, t.lastUsedAt, t.beginsAt, t.expiresAt,
      t.updatedAt⟩, ?_, (SubscriptionsRow.toProtobuf_ok_iff _).mpr htimes⟩
    unfold SubscriptionsRow.scan
    rw [hn]

/-- On tables whose rows read back, the first row a read of a stored id finds scans and
converts. -/
theorem RowsReadable.select_ok (hd : RowsReadable d) {t : SubscriptionTuple}
    (ht : t ∈ d.subscriptions) (hid : t.id = id) :
    ∃ sr, (queryRow (selectSubscriptionByID id d) >>= SubscriptionsRow.scan) = .ok sr ∧
      ∃ p, sr.toProtobuf = .ok p := by
  have hne : selectSubscriptionByID id d ≠ [] :=
    List.ne_nil_of_mem (List.mem_filter.mpr ⟨ht, decide_eq_true hid⟩)
  obtain ⟨t', rest, hsel⟩ := List.exists_cons_of_ne_nil hne
  have ht' : t' ∈ d.subscriptions := (List.mem_filter.mp (hsel ▸ List.mem_cons_self t' rest)).1
  rw [hsel]
  exact (hd t' ht').scan_ok

/-! ## On a run -/

/-- **On a run, with a backend that fails no round trip, a read of an id succeeds exactly when the
tables hold a subscription of that id.** -/
theorem getSubscription_ok_iff_of_replay (steps : List Step) (id : String) (now : Int) :
    (∃ p c, getSubscription id (Conn.start (replay steps) now []) = .ok p c) ↔
      ∃ t ∈ (replay steps).subscriptions, t.id = id := by
  constructor
  · rintro ⟨p, c, h⟩
    obtain ⟨sr, hscan, -, -⟩ := getSubscription_ok h
    exact ⟨_, scan_selectSubscriptionByID hscan⟩
  · rintro ⟨t, ht, hid⟩
    obtain ⟨sr, hscan, p, hp⟩ := (rowsReadable_replay steps).select_ok ht hid
    exact ⟨p, getSubscription_healthy hscan hp⟩

/-- **On a run, with a backend that fails no round trip, a delete of an id with the empty version
succeeds exactly when the tables hold a subscription of that id**, whoever owns it. -/
theorem deleteSubscription_ok_iff_of_replay (steps : List Step) (id : String) (now : Int) :
    (∃ p c, deleteSubscription id "" (Conn.start (replay steps) now []) = .ok p c) ↔
      ∃ t ∈ (replay steps).subscriptions, t.id = id := by
  constructor
  · rintro ⟨p, c, h⟩
    obtain ⟨updatedAt, sr, hver, hscan, -, -⟩ := deleteSubscription_ok h
    obtain ⟨-, rfl⟩ := hver.resolve_right fun h => h.1 rfl
    rw [deleteSubscriptionTuples_blind] at hscan
    exact ⟨_, scan_selectSubscriptionByID hscan⟩
  · rintro ⟨t, ht, hid⟩
    obtain ⟨sr, hscan, p, hp⟩ := (rowsReadable_replay steps).select_ok ht hid
    exact ⟨p, deleteSubscription_healthy hscan hp⟩

end ProtoStore
end DssStore
