import DssStore.ProtoStore.Runs

/-!
# What the older store's calls write to `subscriptions`

Of the seven operations of the older store only three write `subscriptions`, each in one way:
`insertSubscription` puts first a row `applyProtobuf` made of the zero row, of an id no row has;
`updateSubscription` puts first a stored row overlaid by `applyProtobuf`, in place of the rows of
its id; `DeleteSubscription` drops the rows its `WHERE` clause selects.  `SubscriptionsWrite`
says so, and `subscriptionsWrite_run` proves it of every call, failed or not.  Every invariant of
`subscriptions` below is then a case analysis on it.

## What is here

* `SubscriptionsWrite` and `subscriptionsWrite_run`;
* `KeysUnique`: `id` stays a primary key on every run (`keysUnique_replay`);
* `IndexZero`: every row a run leaves has `notification_index` 0.  The insert stores the zero
  row's 0, since `applyProtobuf` never reads `NotificationIndex`; the update writes the stored
  value back; no statement increments it.  So `notification_index_stays_zero`: every subscriber
  an ISA deletion reports, and every subscription `GetSubscription` answers, has index 0.
-/

set_option autoImplicit false

namespace DssStore
namespace ProtoStore

variable {d : Db} {now : Int} {fs : List Bool} {c' : Conn Db}

/-! ## What a call can do -/

/-- What one call, at timestamp `now`, can leave in `subscriptions` when it held `subs`. -/
inductive SubscriptionsWrite (now : Int) (subs : List SubscriptionTuple) :
    List SubscriptionTuple → Prop
  /-- Nothing changes: a read, a search, an ISA operation, or a call that failed. -/
  | keep : SubscriptionsWrite now subs subs
  /-- `insertSubscription`: a row made from the zero row, of an id no row has, put first with its
  times rounded. -/
  | insert (s : Dspb.Subscription) :
      (SubscriptionsRow.applyProtobuf s .zero).state.id ∉ subs.map SubscriptionTuple.id →
      SubscriptionsWrite now subs
        (((SubscriptionsRow.applyProtobuf s .zero).state.values now).stored :: subs)
  /-- `updateSubscription`: a stored row, overlaid, in place of the rows of its id, with its times
  rounded. -/
  | update (s : Dspb.Subscription) (sr : SubscriptionsRow) :
      sr.values sr.updatedAt ∈ subs →
      SubscriptionsWrite now subs (upsertKeyed SubscriptionTuple.id
        ((SubscriptionsRow.applyProtobuf s sr).state.values now).stored subs)
  /-- `DeleteSubscription`: the rows `cond` selects dropped. -/
  | delete (cond : SubscriptionTuple → Bool) :
      SubscriptionsWrite now subs (subs.filter fun x => !cond x)

theorem insertSubscriptionTuple_fresh {t : SubscriptionTuple} {d' : Db}
    {rows : List SubscriptionTuple} (h : insertSubscriptionTuple t d = .ok (rows, d')) :
    t.id ∉ d.subscriptions.map SubscriptionTuple.id := by
  unfold insertSubscriptionTuple insertKeyed at h
  split_ifs at h with hcheck hany
  · cases h
  · simpa using hany

theorem subscriptionsWrite_insertSubscription {s : Dspb.Subscription} {cells : List CellID}
    {r : Dspb.Subscription} (h : insertSubscription s cells (Conn.start d now fs) = .ok r c') :
    SubscriptionsWrite now d.subscriptions c'.db.subscriptions := by
  obtain ⟨d₁, hins, hcells, -⟩ := insertSubscription_ok h
  have hfresh := insertSubscriptionTuple_fresh hins
  obtain ⟨-, rfl⟩ := insertSubscriptionTuple_ok hins
  rw [writeCells_subscriptions (fun _ _ _ _ _ => insertCellSubscription_subscriptions) hcells]
  exact .insert s hfresh

theorem subscriptionsWrite_updateSubscription {s : Dspb.Subscription} {cells : List CellID}
    {r : Dspb.Subscription} (h : updateSubscription s cells (Conn.start d now fs) = .ok r c') :
    SubscriptionsWrite now d.subscriptions c'.db.subscriptions := by
  obtain ⟨sr, d₁, hscan, -, hup, hcells, -⟩ := updateSubscription_ok h
  obtain ⟨-, rfl⟩ := upsertSubscriptionTuple_ok hup
  rw [writeCells_subscriptions (fun _ _ _ _ _ => upsertCellSubscription_subscriptions) hcells]
  exact .update s sr (scan_selectSubscriptionByID hscan).1

/-- **What every call does to `subscriptions`**, whether it succeeds or fails. -/
theorem subscriptionsWrite_run (call : Call) : SubscriptionsWrite now d.subscriptions
    (call.run (Conn.start d now fs)).state.db.subscriptions := by
  let I : Db → Prop := fun d' => SubscriptionsWrite now d.subscriptions d'.subscriptions
  have keep : ∀ {d' : Db}, d' = d → I d' := fun h => h ▸ .keep
  cases call with
  | insertSubscription s cells =>
    exact discardAnswer_keeps I (sealed_insertSubscription s cells) _
      (fun _ _ h => subscriptionsWrite_insertSubscription h) .keep
  | updateSubscription s cells =>
    exact discardAnswer_keeps I (sealed_updateSubscription s cells) _
      (fun _ _ h => subscriptionsWrite_updateSubscription h) .keep
  | getSubscription id =>
    exact discardAnswer_keeps I (sealed_getSubscription id) _
      (fun _ _ h => keep ((getSubscription_ok h).elim fun _ h => h.2.2)) .keep
  | deleteSubscription id version =>
    refine discardAnswer_keeps I (sealed_deleteSubscription id version) _ (fun _ _ h => ?_) .keep
    obtain ⟨_, _, -, -, hdb, -⟩ := deleteSubscription_ok h
    exact hdb ▸ .delete _
  | searchSubscriptions cells owner =>
    exact discardAnswer_keeps I (sealed_searchSubscriptions cells owner) _
      (fun _ _ h => keep (searchSubscriptions_ok h).2.2.2) .keep
  | insertIdentificationServiceAreaUnchecked sa cells =>
    refine discardAnswer_keeps I (sealed_insertIdentificationServiceAreaUnchecked sa cells) _
      (fun _ _ h => ?_) .keep
    obtain ⟨_, _, d₁, _, _, -, -, -, -, hins, hcells, -⟩ :=
    insertIdentificationServiceAreaUnchecked_ok h
    obtain ⟨-, rfl⟩ := insertIdentificationServiceAreaRow_ok hins
    show SubscriptionsWrite now d.subscriptions _
    rw [writeCells_subscriptions (fun _ _ _ _ _ => insertCellIsa_subscriptions) hcells]
    exact .keep
  | deleteIdentificationServiceArea id owner =>
    refine discardAnswer_keeps I (sealed_deleteIdentificationServiceArea id owner) _
      (fun _ _ h => ?_) .keep
    obtain ⟨_, _, _, _, _, -, -, hdb, -⟩ := deleteIdentificationServiceArea_ok h
    exact hdb ▸ .keep

/-- An invariant of `subscriptions` that every write keeps holds on every run. -/
theorem replay_of_subscriptionsWrite (P : List SubscriptionTuple → Prop) (h₀ : P [])
    (hw : ∀ {now subs subs'}, SubscriptionsWrite now subs subs' → P subs → P subs')
    (steps : List Step) : P (replay steps).subscriptions := by
  suffices ∀ (steps : List Step) {d : Db}, P d.subscriptions →
      P (steps.foldl (fun d st => (st.run d).state.db) d).subscriptions from this steps h₀
  intro steps
  induction steps with
  | nil => exact id
  | cons st steps ih => exact fun hd => ih (hw (subscriptionsWrite_run st.call) hd)

/-! ## The primary key -/

/-- The primary key of `subscriptions`: no two rows share an id. -/
def KeysUnique (d : Db) : Prop := (d.subscriptions.map SubscriptionTuple.id).Nodup

theorem nodup_upsertKeyed {t : SubscriptionTuple} {subs : List SubscriptionTuple}
    (hd : (subs.map SubscriptionTuple.id).Nodup) :
    ((upsertKeyed SubscriptionTuple.id t subs).map SubscriptionTuple.id).Nodup := by
  rw [upsertKeyed, List.map_cons, List.nodup_cons]
  refine ⟨fun hmem => ?_, hd.sublist ((List.filter_sublist _).map _)⟩
  obtain ⟨x, hx, hid⟩ := List.mem_map.mp hmem
  exact absurd hid (by simpa using (List.mem_filter.mp hx).2)

/-- Every call keeps `id` a primary key. -/
theorem SubscriptionsWrite.nodup {subs subs' : List SubscriptionTuple}
    (hw : SubscriptionsWrite now subs subs') (hd : (subs.map SubscriptionTuple.id).Nodup) :
    (subs'.map SubscriptionTuple.id).Nodup := by
  cases hw with
  | keep => exact hd
  | insert s hfresh => exact List.nodup_cons.mpr ⟨hfresh, hd⟩
  | update s sr _ => exact nodup_upsertKeyed hd
  | delete cond => exact hd.sublist ((List.filter_sublist _).map _)

theorem keysUnique_replay (steps : List Step) : KeysUnique (replay steps) :=
  replay_of_subscriptionsWrite (fun subs => (subs.map SubscriptionTuple.id).Nodup) List.nodup_nil
    SubscriptionsWrite.nodup steps

/-! ## The notification index -/

/-- Every stored subscription has `notification_index` 0. -/
def IndexZero (subs : List SubscriptionTuple) : Prop := ∀ t ∈ subs, t.notificationIndex = some 0

theorem applyProtobuf_notificationIndex (s : Dspb.Subscription) (sr : SubscriptionsRow) :
    (SubscriptionsRow.applyProtobuf s sr).state.notificationIndex = sr.notificationIndex := by
  obtain ⟨b, e, h, -, -⟩ := SubscriptionsRow.applyProtobuf_state s sr
  rw [h]

theorem indexZero_write {subs subs' : List SubscriptionTuple}
    (hw : SubscriptionsWrite now subs subs') (hd : IndexZero subs) : IndexZero subs' := by
  cases hw with
  | keep => exact hd
  | insert s _ =>
    refine List.forall_mem_cons.mpr ⟨?_, hd⟩
    simp only [SubscriptionTuple.stored, SubscriptionsRow.values, applyProtobuf_notificationIndex]
    rfl
  | update s sr hsr =>
    refine List.forall_mem_cons.mpr ⟨?_, fun t ht => hd t (List.mem_of_mem_filter ht)⟩
    simp only [SubscriptionTuple.stored, SubscriptionsRow.values, applyProtobuf_notificationIndex]
    exact hd _ hsr
  | delete cond => exact fun t ht => hd t (List.mem_of_mem_filter ht)

/-- A subscriber the scan loop built came from a row of the query. -/
theorem mem_of_scanSubscribers : ∀ {details : List (String × String × Option Int)}
    {subscribers : List SubscriberRow}, scanSubscribers details = .ok subscribers →
    ∀ sr ∈ subscribers, (sr.id, sr.url, some sr.notificationIndex) ∈ details
  | [], _, h, _, hsr => by cases h; cases hsr
  | (i, u, some n) :: details, subscribers, h, sr, hsr => by
    simp only [scanSubscribers] at h
    cases hrest : scanSubscribers details with
    | error e => rw [hrest] at h; cases h
    | ok rest =>
      rw [hrest] at h
      cases h
      rcases List.mem_cons.mp hsr with rfl | hsr
      · exact List.mem_cons_self _ _
      · exact List.mem_cons_of_mem _ (mem_of_scanSubscribers hrest sr hsr)
  | (_, _, none) :: _, _, h, _, _ => by cases h

/-- A subscriber the deletion scanned carries the `notification_index` of a stored subscription. -/
theorem notificationIndex_of_scanSubscribers {ids : Option (List String)} {owner : String}
    {subscribers : List SubscriberRow}
    (h : scanSubscribers (subscriptionDetailsForAffectedCells ids owner now d) = .ok subscribers)
    {sr : SubscriberRow} (hsr : sr ∈ subscribers) :
    ∃ x ∈ d.subscriptions, x.notificationIndex = some sr.notificationIndex := by
  obtain ⟨x, hx, hxd⟩ := List.mem_map.mp (mem_of_scanSubscribers h sr hsr)
  simp only [Prod.mk.injEq] at hxd
  exact ⟨x, (Sql.mem_whereTrue.mp hx).1, hxd.2.2⟩

/-- **The notification index never moves.**  On every run of the older store, every subscription
row has `notification_index` 0; so every `SubscriberToNotify` a successful
`DeleteIdentificationServiceArea` answers, and every subscription a successful `GetSubscription`
answers, carries notification index 0. -/
theorem notification_index_stays_zero (steps : List Step) :
    IndexZero (replay steps).subscriptions ∧
    (∀ id owner now fs r c, deleteIdentificationServiceArea id owner
        (Conn.start (replay steps) now fs) = .ok r c →
      ∀ n ∈ r.2, ∀ st ∈ n.subscriptions, st.notificationIndex = 0) ∧
    ∀ id now fs p c, getSubscription id (Conn.start (replay steps) now fs) = .ok p c →
      p.notificationIndex = 0 := by
  have hz : IndexZero (replay steps).subscriptions :=
    replay_of_subscriptionsWrite IndexZero (fun _ h => nomatch h) indexZero_write steps
  refine ⟨hz, fun id owner now fs r c h => ?_, fun id now fs p c h => ?_⟩
  · obtain ⟨-, subscriptions, -, -, subscribers, -, -, -, hsubs, -, hmap⟩ :=
      deleteIdentificationServiceArea_ok h
    rw [mapM_toProtobuf, Except.ok.injEq] at hmap
    intro n hn st hst
    obtain ⟨sr, hsr, rfl⟩ := List.mem_map.mp (hmap ▸ hn)
    obtain ⟨x, hx, hidx⟩ := notificationIndex_of_scanSubscribers hsubs hsr
    rw [List.mem_singleton.mp hst]
    exact Option.some.inj (hidx.symm.trans (hz x hx))
  · obtain ⟨sr, hscan, hp, -⟩ := getSubscription_ok h
    rw [SubscriptionsRow.toProtobuf_eq hp]
    exact Option.some.inj (hz _ (scan_selectSubscriptionByID hscan).1)

/-- Once `x` is inserted at timestamp 1, a read of it at 2 succeeds, with notification index 0. -/
theorem notification_index_stays_zero_getX :
    ∃ p c, getSubscription "x" (Conn.start
        (replay [⟨.insertSubscription ⟨"x", "a", none, 0, "", none, none⟩ [], 1, []⟩]) 2 []) =
      .ok p c ∧ p.notificationIndex = 0 := by
  obtain ⟨p, c, h⟩ : ∃ p c, getSubscription "x" (Conn.start
      (replay [⟨.insertSubscription ⟨"x", "a", none, 0, "", none, none⟩ [], 1, []⟩]) 2 []) =
      .ok p c := ⟨_, _, rfl⟩
  exact ⟨p, c, h, (notification_index_stays_zero _).2.2 _ _ _ p c h⟩

end ProtoStore
end DssStore
