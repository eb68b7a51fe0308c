import DssStore.Cockroach.Reads

/-!
# Optimistic concurrency: the version that goes through

`version_accepted_once` is one half of the newer store's concurrency control: a version that an
update or a delete has spent is refused.  This file proves the other half.  On every state a run
reaches, with a backend that fails no round trip, `UpdateSubscription` and `DeleteSubscription`
go through exactly when the caller names the id, owner and version of a stored row, an update's
cells also having levels the schema accepts and the stored row overlaid by the update passing the
table's `CHECK`.  A committed insert or update answers the version it leaves on the row, so a
client that updates with the version its last write answered goes through, unless the times it
overlays put the start at or after the end.

## What is here

* `pushTables_ok_of_levels`: the tables take every push whose row passes the `CHECK` and whose
  cells have levels in range;
* `updateSubscription_healthy`, `deleteSubscription_healthy`: the two writes run forwards;
* `selectByIDAndOwner_eq_singleton`: with `id` a primary key, the row of an id and owner is the
  one row the read of both finds;
* `write_ok_iff_version`: the characterisation above, on every state a run reaches;
* `update_with_answered_version`: an update naming what the last write answered goes through.
-/

set_option autoImplicit false

namespace DssStore
namespace Cockroach

/-! ## The tables take a push -/

section Push

/-- Upserts of cell rows of one stored subscription, each at a level in range, all go through. -/
theorem foldlM_upsertCellRow_ok {id : String} : ∀ (rows : List CellRow) (d : Db),
    (∀ r ∈ rows, r.subscriptionId = id ∧ 0 ≤ r.cellLevel ∧ r.cellLevel ≤ 30) →
    (∃ q ∈ d.subscriptions, q.id = id) →
    ∃ d', rows.foldlM (fun d r => upsertCellRow r d) d = .ok d'
  | [], d, _, _ => ⟨d, rfl⟩
  | r :: rows, d, hrows, ⟨q, hq, hqid⟩ => by
    obtain ⟨hid, hlev⟩ := hrows r (List.mem_cons_self _ _)
    rw [List.foldlM_cons, upsertCellRow, if_neg (not_not.mpr hlev),
      if_neg (not_forall.mpr ⟨q, by simp [hq, hqid, hid]⟩)]
    exact foldlM_upsertCellRow_ok rows _ (fun r' h' => hrows r' (List.mem_cons_of_mem _ h'))
      ⟨q, hq, hqid⟩

/-- **A push whose row passes the `CHECK` and whose cells have levels the schema accepts goes
through**, on any tables: its row is upserted first, so every cell row's foreign key finds it. -/
theorem pushTables_ok_of_levels {p : Subscription} (now : Int) (d : Db)
    (hcheck : (upsertedRow p now).check = true)
    (hlev : ∀ cell ∈ p.cellList, 0 ≤ cell.level ∧ cell.level ≤ 30) :
    ∃ d', pushTables p now d = .ok d' := by
  have hu := upsertSubscriptionRow_of_check (d := d) hcheck
  obtain ⟨d₁, hfold⟩ := foldlM_upsertCellRow_ok (cellRows p)
    { d with subscriptions :=
        upsertedRow p now :: d.subscriptions.filter fun q => q.id ≠ (upsertedRow p now).id }
    (fun r hr => ⟨cellRows_subscriptionId r hr, by
      obtain ⟨cell, hcell, rfl⟩ := mem_cellRows.mp hr
      exact hlev cell hcell⟩)
    ⟨upsertedRow p now, List.mem_cons_self _ _, rfl⟩
  exact ⟨_, by simp only [pushTables, hu, bind, Except.bind, hfold]; rfl⟩

/-- An overlay of a stored row has the overlay's cells: the stored row carries none. -/
@[simp] theorem cellList_toModel_apply (x : SubscriptionRow) (s : Subscription) :
    (x.toModel.apply s).cellList = s.cellList := by
  cases h : s.cells <;> simp [Subscription.apply, Subscription.cellList, SubscriptionRow.toModel, h]

end Push

/-! ## The writes, run forwards -/

section Forward

variable {d : Db} {now : Int}

theorem fetchSubscriptionByIDAndOwner_healthy {c : Conn Db} {id owner : String}
    {x : SubscriptionRow} (ha : c.phase = .active) (hf : c.faults = [])
    (hsel : selectByIDAndOwner id owner c.view = [x]) :
    ∃ c', attempt (fetchSubscriptionByIDAndOwner id owner) c = .ok (.ok x.toModel) c' ∧
      c'.view = c.view ∧ Continues c c' ∧ c'.faults = [] :=
  ⟨_, attempt_ok.mpr (fetchSubscription_healthy_one (v := c.view) ha hf (by simp only [hsel])),
    rfl, ⟨ha, rfl, rfl⟩, by simp [hf]⟩

/-- An update at the stored row's version, whose push the tables take, commits the push. -/
theorem updateSubscription_healthy {s : Subscription} {x : SubscriptionRow} {d' : Db}
    (hsel : selectByIDAndOwner s.id s.owner d = [x]) (hv : s.version = x.toModel.version)
    (hpush : pushTables (x.toModel.apply s) now d = .ok d') :
    ∃ c, updateSubscription s (Conn.start d now []) =
      .ok { (upsertedRow (x.toModel.apply s) now).toModel with
        cells := (x.toModel.apply s).cells } c ∧ c.db = d' := by
  obtain ⟨c₁, hb, ha₁, hf₁, hv₁, -, hn₁⟩ := begin_start_healthy d now
  obtain ⟨c₂, hfetch, hv₂, hc₂, hf₂⟩ := fetchSubscriptionByIDAndOwner_healthy ha₁ hf₁ (hv₁ ▸ hsel)
  have hnow : c₂.now = now := hc₂.now.trans hn₁
  obtain ⟨c₃, hp, hv₃, hc₃, hf₃⟩ := pushSubscription_healthy_ok hc₂.active hf₂
    (by rw [hv₂, hv₁, hnow]; exact hpush)
  refine ⟨{ (c₃.log .commit).trip with phase := .done, db := c₃.view },
    (bind_of_ok hb).trans ((bind_of_ok hfetch).trans ?_), hv₃⟩
  simp only [if_neg (not_not.mpr hv)]
  exact (bind_of_ok (pure_apply _ _)).trans ((bind_of_ok hp).trans
    ((bind_of_ok (commit_healthy hc₃.active hf₃)).trans (by rw [hnow]; rfl)))

/-- A delete at the stored row's version commits the deletion and answers the row. -/
theorem deleteSubscription_healthy {id owner version : String} {x : SubscriptionRow}
    (hsel : selectByIDAndOwner id owner d = [x]) (hv : version = x.toModel.version) :
    ∃ c, deleteSubscription id owner version (Conn.start d now []) = .ok x.toModel c ∧
      c.db = deleteSubscriptionRow id owner d := by
  obtain ⟨c₁, hb, ha₁, hf₁, hv₁, -, -⟩ := begin_start_healthy d now
  obtain ⟨c₂, hfetch, hv₂, hc₂, hf₂⟩ := fetchSubscriptionByIDAndOwner_healthy ha₁ hf₁ (hv₁ ▸ hsel)
  obtain ⟨c₃, hdel, hv₃, ha₃, hf₃⟩ : ∃ c₃,
      attempt (exec fun _ d => .ok (deleteSubscriptionRow id owner d)) c₂ = .ok (.ok ()) c₃ ∧
        c₃.view = deleteSubscriptionRow id owner c₂.view ∧ c₃.phase = .active ∧ c₃.faults = [] :=
    ⟨_, attempt_ok.mpr (statement_healthy hc₂.active hf₂ rfl), rfl, hc₂.active, by simp [hf₂]⟩
  refine ⟨{ (c₃.log .commit).trip with phase := .done, db := c₃.view },
    (bind_of_ok hb).trans ((bind_of_ok hfetch).trans ?_), by rw [hv₃, hv₂, hv₁]⟩
  simp only [if_neg (not_not.mpr hv)]
  exact (bind_of_ok (pure_apply _ _)).trans ((bind_of_ok hdel).trans
    ((bind_of_ok (pure_apply () _)).trans ((bind_of_ok (commit_healthy ha₃ hf₃)).trans rfl)))

end Forward

/-! ## On the states a run reaches -/

section Replay

variable {d : Db} {now : Int}

/-- With `id` a primary key, a row of an id and owner is the one row a read of both finds. -/
theorem selectByIDAndOwner_eq_singleton {x : SubscriptionRow}
    (hk : (d.subscriptions.map SubscriptionRow.id).Nodup) (hx : x ∈ d.subscriptions) :
    selectByIDAndOwner x.id x.owner d = [x] := by
  have hsel := selectByID_eq_singleton hk hx
  rw [← hsel, selectByIDAndOwner, selectByID]
  refine List.filter_congr fun r hr => ?_
  by_cases hid : r.id = x.id
  · have hrx : r ∈ selectByID x.id d := List.mem_filter.mpr ⟨hr, decide_eq_true hid⟩
    rw [hsel, List.mem_singleton] at hrx
    simp [hrx]
  · simp [hid]

/-- With `id` a primary key and a backend that fails no round trip, an update whose cells have
levels in range goes through exactly when a stored row has its id, owner and version, and that row
overlaid by the update passes the `CHECK`. -/
theorem updateSubscription_healthy_iff {s : Subscription}
    (hk : (d.subscriptions.map SubscriptionRow.id).Nodup)
    (hlev : ∀ cell ∈ s.cellList, 0 ≤ cell.level ∧ cell.level ≤ 30) :
    (∃ r c, updateSubscription s (Conn.start d now []) = .ok r c) ↔
      ∃ x ∈ d.subscriptions, x.id = s.id ∧ x.owner = s.owner ∧
        s.version = timestampToVersionString x.updatedAt ∧
        (upsertedRow (x.toModel.apply s) now).check = true := by
  constructor
  · rintro ⟨r, c, h⟩
    obtain ⟨old, hsel, hv, hpush, -⟩ := updateSubscription_ok h
    obtain ⟨hold, hid, hown⟩ := mem_of_selectByIDAndOwner_eq hsel
    obtain ⟨d₀, -, hu, -⟩ := pushTables_ok hpush
    exact ⟨old, hold, hid, hown, hv, (upsertSubscriptionRow_ok hu).1⟩
  · rintro ⟨x, hx, hid, hown, hv, hcheck⟩
    have hsel := selectByIDAndOwner_eq_singleton hk hx
    rw [hid, hown] at hsel
    obtain ⟨d', hpush⟩ := pushTables_ok_of_levels now d (p := x.toModel.apply s) hcheck
      (by rw [cellList_toModel_apply]; exact hlev)
    obtain ⟨c, h, -⟩ := updateSubscription_healthy hsel hv hpush
    exact ⟨_, c, h⟩

/-- With `id` a primary key and a backend that fails no round trip, a delete goes through exactly
when a stored row has the id, owner and version it names. -/
theorem deleteSubscription_healthy_iff {id owner version : String}
    (hk : (d.subscriptions.map SubscriptionRow.id).Nodup) :
    (∃ r c, deleteSubscription id owner version (Conn.start d now []) = .ok r c) ↔
      ∃ x ∈ d.subscriptions, x.id = id ∧ x.owner = owner ∧
        version = timestampToVersionString x.updatedAt := by
  constructor
  · rintro ⟨r, c, h⟩
    obtain ⟨old, hsel, hv, -⟩ := deleteSubscription_ok h
    obtain ⟨hold, hid, hown⟩ := mem_of_selectByIDAndOwner_eq hsel
    exact ⟨old, hold, hid, hown, hv⟩
  · rintro ⟨x, hx, rfl, rfl, hv⟩
    exact (deleteSubscription_healthy (selectByIDAndOwner_eq_singleton hk hx) hv).elim
      fun c h => ⟨_, c, h.1⟩

end Replay

/-- **Optimistic concurrency, run forwards.**  On every state a run reaches, with a backend that
fails no round trip, an update whose cells have levels in range goes through exactly when a
stored row has its id and owner and the version it names, and that row overlaid by the update
passes the `CHECK`; a delete exactly when a stored row has the id, owner and version it names. -/
theorem write_ok_iff_version (steps : List Step) (now : Int) :
    (∀ s : Subscription, (∀ cell ∈ s.cellList, 0 ≤ cell.level ∧ cell.level ≤ 30) →
      ((∃ r c, updateSubscription s (Conn.start (replay steps).db now []) = .ok r c) ↔
        ∃ x ∈ (replay steps).db.subscriptions, x.id = s.id ∧ x.owner = s.owner ∧
          s.version = timestampToVersionString x.updatedAt ∧
          (upsertedRow (x.toModel.apply s) now).check = true)) ∧
    ∀ id owner version,
      (∃ r c, deleteSubscription id owner version (Conn.start (replay steps).db now []) = .ok r c) ↔
        ∃ x ∈ (replay steps).db.subscriptions, x.id = id ∧ x.owner = owner ∧
          version = timestampToVersionString x.updatedAt :=
  ⟨fun _ hlev => updateSubscription_healthy_iff (cellIndex_history steps).keys hlev,
    fun _ _ _ => deleteSubscription_healthy_iff (cellIndex_history steps).keys⟩

/-- From bootstrap, `entityX42` is inserted at 09:00 on 6 November 2019; an update of it at that
version goes through a second later, as the stored row has that version and no times. -/
theorem write_ok_iff_version_entityX42 :
    (∀ cell ∈ { entityX42 with updatedAt := some 1573030800000000000 }.cellList,
      0 ≤ cell.level ∧ cell.level ≤ 30) ∧
    ((∃ r c, updateSubscription { entityX42 with updatedAt := some 1573030800000000000 }
        (Conn.start (replay [⟨.insertSubscription entityX42, 1573030800000000000, []⟩]).db
          1573030801000000000 []) = .ok r c) ↔
      ∃ x ∈ (replay [⟨.insertSubscription entityX42, 1573030800000000000, []⟩]).db.subscriptions,
        x.id = entityX42.id ∧ x.owner = "a" ∧
          { entityX42 with updatedAt := some 1573030800000000000 }.version =
            timestampToVersionString x.updatedAt ∧
          (upsertedRow (x.toModel.apply { entityX42 with updatedAt := some 1573030800000000000 })
            1573030801000000000).check = true) :=
  ⟨by decide, (write_ok_iff_version _ 1573030801000000000).1 _ (by decide)⟩

/-- **An update with the version the store answered goes through.**  After any run, when one more
insert or update commits and answers `r`, an update that names `r`'s id, owner and version, with
cells of levels in range and times that, overlaid on `r`, pass the `CHECK`, goes through at any
later time on a backend that fails no round trip: the row the write left carries `r`'s version,
and only a write in between can change it. -/
theorem update_with_answered_version (steps : List Step) (st : Step) {r : Subscription}
    (h : (st.run (replay steps).db).toExcept = .ok r)
    (hw : ∀ id owner version, st.call ≠ .deleteSubscription id owner version)
    (s : Subscription) (hid : s.id = r.id) (hown : s.owner = r.owner) (hv : s.version = r.version)
    (hlev : ∀ cell ∈ s.cellList, 0 ≤ cell.level ∧ cell.level ≤ 30) (now : Int)
    (hcheck : (upsertedRow (r.apply s) now).check = true) :
    ∃ r' c', updateSubscription s (Conn.start (replay (steps ++ [st])).db now []) = .ok r' c' := by
  obtain ⟨c, hrun⟩ := exists_of_toExcept_eq_ok h
  obtain ⟨p, hpush, -, rfl⟩ := Step.push_ok hrun hw
  have hk := (cellIndex_history (steps ++ [st])).keys
  rw [replay_append_of_ok steps hrun] at hk ⊢
  exact (updateSubscription_healthy_iff hk hlev).mpr
    ⟨_, pushTables_subscriptions hpush ▸ List.mem_cons_self _ _, hid.symm, hown.symm, hv, hcheck⟩

/-- `entityX42` at the version of 09:00 on 6 November 2019, moved to the two hours from 10:00. -/
def rescheduledX42 : Subscription :=
  { entityX42 with startTime := some 1573034400000000000, endTime := some 1573041600000000000,
                   updatedAt := some 1573030800000000000 }

/-- From bootstrap, `entityX42` is inserted at 09:00 on 6 November 2019, answering that version;
`rescheduledX42`, which names it, goes through a second later. -/
theorem update_with_answered_version_entityX42 :
    (Step.run ⟨.insertSubscription entityX42, 1573030800000000000, []⟩ (replay []).db).toExcept =
        .ok { (upsertedRow entityX42 1573030800000000000).toModel with cells := entityX42.cells } ∧
      ∃ r' c', updateSubscription rescheduledX42
        (Conn.start (replay ([] ++ [⟨.insertSubscription entityX42, 1573030800000000000, []⟩])).db
          1573030801000000000 []) = .ok r' c' :=
  ⟨rfl, update_with_answered_version [] ⟨.insertSubscription entityX42, 1573030800000000000, []⟩
    rfl (fun _ _ _ h => Call.noConfusion h) rescheduledX42 rfl rfl rfl (by decide)
    1573030801000000000 rfl⟩

end Cockroach
end DssStore
