import DssStore.ProtoStore.Deletes

/-!
# The life of an ISA in the older store

`insertIdentificationServiceAreaUnchecked` stores an area's row, first in
`identification_service_areas`, and a row of `cells_identification_service_areas` per cell;
`DeleteIdentificationServiceArea` of its id and owner reads the affected pairs, deletes the row,
whose cascade takes the cell rows, reads the subscribers and answers.  A cell row is written only
when the row of its ISA is there (the `REFERENCES` check of `insertCellIsa`), and the cascade
removes the cell rows of every ISA it deletes, so on every run each cell row belongs to a stored
ISA; an insert that succeeds was handed a fresh id, so the cell rows of its ISA are exactly the
ones it wrote.

## What is here

* `IsaCellsOwned`, the foreign key of `cells_identification_service_areas`, and
  `isaCellsOwned_replay`: every run keeps it;
* forward runs of the deletion's stages, and `deleteIdentificationServiceArea_healthy`: with a
  backend that fails no round trip, a deletion whose scans go through and which finds its row
  succeeds;
* `inserted_isa_deleted_iff_covered`: on every state a run reaches, the owner of a freshly inserted
  ISA can delete it exactly when each of its cells is the cell of some subscription's cell row,
  and a deletion that succeeds answers with the area the insert answered with, a version added,
  and leaves the tables as they were before the insert.
-/

set_option autoImplicit false

namespace DssStore
namespace ProtoStore

variable {d : Db} {now : Int} {fs : List Bool} {c' : Conn Db}

/-! ## The foreign key of the cell rows -/

/-- Every row of `cells_identification_service_areas` belongs to a row of
`identification_service_areas`. -/
def IsaCellsOwned (d : Db) : Prop :=
  ∀ q ∈ d.cellsIdentificationServiceAreas,
    ∃ x ∈ d.identificationServiceAreas, x.id = q.identificationServiceAreaId

/-- The foreign key is a property of the rows of each ISA: tables that hold the same rows of every
ISA agree on it. -/
theorem isaCellsOwned_of_isaRows {d' : Db} (h : ∀ iid, isaRows iid d' = isaRows iid d)
    (hd : IsaCellsOwned d) : IsaCellsOwned d' := by
  intro q hq
  have hq' : q ∈ (isaRows q.identificationServiceAreaId d).2 := by
    rw [← h]
    exact List.mem_filter.mpr ⟨hq, decide_eq_true rfl⟩
  obtain ⟨x, hx, hid⟩ := hd q (List.mem_of_mem_filter hq')
  have hx' : x ∈ (isaRows q.identificationServiceAreaId d').1 := by
    rw [h]
    exact List.mem_filter.mpr ⟨hx, decide_eq_true hid⟩
  exact ⟨x, List.mem_of_mem_filter hx', hid⟩

/-- An insert of an ISA row succeeds only on an id no row has. -/
theorem insertIdentificationServiceAreaRow_fresh {isar : IdentificationServiceAreaRow} {d' : Db}
    {rows : List IdentificationServiceAreaRow}
    (h : insertIdentificationServiceAreaRow isar d = .ok (rows, d')) :
    ∀ x ∈ d.identificationServiceAreas, x.id ≠ isar.id := by
  unfold insertIdentificationServiceAreaRow insertKeyed at h
  split_ifs at h with hcheck hany
  · cases h
  · simpa using hany

/-- The value the driver binds for a cell it accepts is the cell's number. -/
theorem CellID.driverValue_ok {cell : CellID} {v : Int} (h : cell.driverValue = .ok v) :
    v = cell.toNat := by
  unfold CellID.driverValue at h
  split_ifs at h
  exact (Except.ok.inj h).symm

/-- The cell loop of the ISA insert puts one row per cell, at the insert's timestamp, before the
rows already there. -/
theorem writeCells_insertCellIsa {id : String} :
    ∀ {cells : List CellID} {d d' : Db},
      writeCells (fun cell level now d => insertCellIsa ⟨cell, level, id, now⟩ d) cells now d =
        .ok d' →
      d' = { d with cellsIdentificationServiceAreas :=
        (cells.map fun cell => (⟨cell.toNat, cell.level, id, now⟩ : CellIsaTuple)).reverse ++
          d.cellsIdentificationServiceAreas }
  | [], d, _, h => by cases h; rfl
  | cell :: cells, d, d', h => by
    simp only [writeCells, List.foldlM_cons] at h
    rcases hv : cell.driverValue with e | v <;>
      simp only [hv, bind, Except.bind, reduceCtorEq] at h
    rcases hd : insertCellIsa ⟨v, cell.level, id, now⟩ d with e | d₁ <;>
      simp only [hd, reduceCtorEq] at h
    rw [writeCells_insertCellIsa h, insertCellIsa_ok hd, CellID.driverValue_ok hv]
    simp

/-- What a successful ISA insert stored: the area's row, of an id no row had, first in
`identification_service_areas`, and a cell row per cell; the row converts back to the area the
insert answered with, its version the decimal `UnixNano` of the insert's timestamp. -/
theorem insertIdentificationServiceAreaUnchecked_stores {sa : IdentificationServiceArea}
    {cells : List CellID} {r : IdentificationServiceArea}
    (h : insertIdentificationServiceAreaUnchecked sa cells (Conn.start d now fs) = .ok r c') :
    ∃ isar : IdentificationServiceAreaRow, isar.id = sa.id ∧ isar.owner = sa.owner ∧
      (∀ x ∈ d.identificationServiceAreas, x.id ≠ sa.id) ∧
      c'.db = { d with
        identificationServiceAreas := isar :: d.identificationServiceAreas
        cellsIdentificationServiceAreas :=
          (cells.map fun cell => (⟨cell.toNat, cell.level, sa.id, now⟩ : CellIsaTuple)).reverse ++
            d.cellsIdentificationServiceAreas } ∧
      isar.toProtobuf = .ok { r with version := Strconv.formatInt (unixNano now) 10 } := by
  obtain ⟨ts, ts', d₁, p, p', -, -, -, -, hins, hcells, hp, hp', rfl⟩ :=
    insertIdentificationServiceAreaUnchecked_ok h
  refine ⟨IdentificationServiceAreaRow.stored ⟨sa.id, sa.owner, sa.flightsUrl,
    (Ptypes.timestamp (some ts)).1, (Ptypes.timestamp (some ts')).1, now⟩, rfl, rfl,
    insertIdentificationServiceAreaRow_fresh hins, ?_, ?_⟩
  · rw [writeCells_insertCellIsa hcells, (insertIdentificationServiceAreaRow_ok hins).2]
  · simp only [IdentificationServiceAreaRow.toProtobuf, IdentificationServiceAreaRow.stored, hp,
      hp']
    rfl

theorem isaCellsOwned_insertIdentificationServiceAreaUnchecked {sa : IdentificationServiceArea}
    {cells : List CellID} {r : IdentificationServiceArea} (hd : IsaCellsOwned d)
    (h : insertIdentificationServiceAreaUnchecked sa cells (Conn.start d now fs) = .ok r c') :
    IsaCellsOwned c'.db := by
  obtain ⟨isar, hid, -, -, hdb, -⟩ := insertIdentificationServiceAreaUnchecked_stores h
  rw [hdb]
  intro q hq
  rcases List.mem_append.mp hq with hq | hq
  · obtain ⟨cell, -, rfl⟩ := List.mem_map.mp (List.mem_reverse.mp hq)
    exact ⟨isar, List.mem_cons_self _ _, hid⟩
  · obtain ⟨x, hx, hxq⟩ := hd q hq
    exact ⟨x, List.mem_cons_of_mem _ hx, hxq⟩

/-- The cascade of the ISA deletion keeps the foreign key. -/
theorem isaCellsOwned_deleteIdentificationServiceAreaRows {id owner : String}
    (hd : IsaCellsOwned d) : IsaCellsOwned (deleteIdentificationServiceAreaRows id owner d).2 := by
  intro q hq
  obtain ⟨hq, hkept⟩ := List.mem_filter.mp hq
  obtain ⟨x, hx, hxq⟩ := hd q hq
  refine ⟨x, List.mem_filter.mpr ⟨hx, ?_⟩, hxq⟩
  simp only [decide_eq_true_eq] at hkept ⊢
  exact fun hdel => hkept (List.mem_map.mpr ⟨x, List.mem_filter.mpr ⟨hx, by simpa using hdel⟩, hxq⟩)

namespace Call

/-- Some subscription id is not the one a call names. -/
theorem exists_subscriptionId_ne (call : Call) : ∃ sid, call.subscriptionId ≠ some sid := by
  by_cases h : call.subscriptionId = some ""
  · exact ⟨"a", by rw [h]; decide⟩
  · exact ⟨"", h⟩

/-- A call that names no ISA keeps the rows of every ISA. -/
theorem isaRows_run {call : Call} (hi : call.isaId = none) (iid : String) :
    isaRows iid (call.run (Conn.start d now fs)).state.db = isaRows iid d := by
  obtain ⟨sid, hs⟩ := exists_subscriptionId_ne call
  exact (run_untouched call hs (by rw [hi]; exact Option.noConfusion)).2

/-- **Every call keeps the foreign key**, whether it succeeds or fails. -/
theorem isaCellsOwned_run (hd : IsaCellsOwned d) (call : Call) :
    IsaCellsOwned (call.run (Conn.start d now fs)).state.db := by
  cases call with
  | insertIdentificationServiceAreaUnchecked sa cells =>
    exact discardAnswer_keeps _ (sealed_insertIdentificationServiceAreaUnchecked sa cells) _
      (fun _ _ h => isaCellsOwned_insertIdentificationServiceAreaUnchecked hd h) hd
  | deleteIdentificationServiceArea id owner =>
    exact discardAnswer_keeps _ (sealed_deleteIdentificationServiceArea id owner) _
      (fun _ _ h => by
        obtain ⟨_, _, _, _, _, -, -, hdb, -⟩ := deleteIdentificationServiceArea_ok h
        exact hdb ▸ isaCellsOwned_deleteIdentificationServiceAreaRows hd) hd
  | _ => exact isaCellsOwned_of_isaRows (isaRows_run rfl) hd

end Call

theorem isaCellsOwned_foldl : ∀ (steps : List Step) {d : Db}, IsaCellsOwned d →
    IsaCellsOwned (steps.foldl (fun d st => (st.run d).state.db) d)
  | [], _, hd => hd
  | st :: steps, _, hd => isaCellsOwned_foldl steps (Call.isaCellsOwned_run hd st.call)

/-- **On every run each cell row belongs to a stored ISA.** -/
theorem isaCellsOwned_replay (steps : List Step) : IsaCellsOwned (replay steps) :=
  isaCellsOwned_foldl steps fun _ h => nomatch h

/-! ## The deletion, run forwards -/

section Delete

variable {c : Conn Db} {id owner : String}

/-- A left row paired with NULL is a left row that matched no right row. -/
theorem mem_leftJoin_none {α β : Type} {l : List α} {r : List β}
    {cond : α → β → Bool} {a : α} (h : (a, none) ∈ Sql.leftJoin l r cond) :
    a ∈ l ∧ r.filter (cond a) = [] := by
  obtain ⟨a', ha', hmem⟩ := List.mem_flatMap.mp h
  split at hmem
  · rename_i hnil
    obtain ⟨rfl, -⟩ := Prod.mk.inj (List.mem_singleton.mp hmem)
    exact ⟨ha', hnil⟩
  · obtain ⟨_, -, hb⟩ := List.mem_map.mp hmem
    cases hb

/-- The scan of the affected pairs goes through when none of them is NULL. -/
theorem scanAffected_of_some : ∀ {rows : List (Int × Option String)},
    (∀ p ∈ rows, p.2 ≠ none) → ∃ cells subscriptions, scanAffected rows = .ok (cells, subscriptions)
  | [], _ => ⟨[], [], rfl⟩
  | (cell, some subscription) :: rows, h => by
    obtain ⟨cells, subscriptions, hrows⟩ :=
      scanAffected_of_some fun p hp => h p (List.mem_cons_of_mem _ hp)
    exact ⟨cell :: cells, subscription :: subscriptions, by simp only [scanAffected, hrows]; rfl⟩
  | (_, none) :: _, h => absurd rfl (h _ (List.mem_cons_self _ _))

/-- **An ISA whose every cell is covered has its affected pairs scanned**: each of its cells meets
a subscription's cell row, so the join pairs none of them with NULL.  The converse of
`deleteIdentificationServiceArea_ne_ok_of_uncovered`. -/
theorem scanAffected_of_covered
    (hcov : ∀ q ∈ d.cellsIdentificationServiceAreas, q.identificationServiceAreaId = id →
      ∃ s ∈ d.cellsSubscriptions, s.cellId = q.cellId) :
    ∃ cells subscriptions,
      scanAffected (affectedCellsAndSubscriptions id d) = .ok (cells, subscriptions) := by
  refine scanAffected_of_some fun p hp hnone => ?_
  obtain ⟨⟨q, o⟩, hqo, rfl⟩ := List.mem_map.mp hp
  obtain ⟨hjoin, hid⟩ := List.mem_filter.mp hqo
  cases o with
  | some => cases hnone
  | none =>
    obtain ⟨hq, hnil⟩ := mem_leftJoin_none hjoin
    obtain ⟨s, hs, hcell⟩ := hcov q hq (of_decide_eq_true hid)
    have hmem : (s.cellId, s.subscriptionId) ∈
        (Sql.distinct (d.cellsSubscriptions.map fun q => (q.cellId, q.subscriptionId))).filter
          fun b => decide (q.cellId = b.1) :=
      List.mem_filter.mpr ⟨Sql.mem_distinct.mpr (List.mem_map_of_mem _ hs), decide_eq_true hcell.symm⟩
    rw [hnil] at hmem
    cases hmem

/-- The subscriber scan goes through when no row has a NULL `notification_index`. -/
theorem scanSubscribers_of_some : ∀ {details : List (String × String × Option Int)},
    (∀ t ∈ details, t.2.2 ≠ none) → ∃ subscribers, scanSubscribers details = .ok subscribers
  | [], _ => ⟨[], rfl⟩
  | (i, u, some n) :: details, h => by
    obtain ⟨subscribers, hrest⟩ := scanSubscribers_of_some fun t ht => h t (List.mem_cons_of_mem _ ht)
    exact ⟨_, by simp only [scanSubscribers, hrest]; rfl⟩
  | (_, _, none) :: _, h => absurd rfl (h _ (List.mem_cons_self _ _))

theorem scanSubscribers_of_indexZero (hz : IndexZero d.subscriptions) (ids : Option (List String))
    (owner : String) (now : Int) :
    ∃ subscribers, scanSubscribers (subscriptionDetailsForAffectedCells ids owner now d) =
      .ok subscribers :=
  scanSubscribers_of_some fun _ ht => by
    obtain ⟨x, hx, rfl⟩ := List.mem_map.mp ht
    simp [hz x (Sql.mem_whereTrue.mp hx).1]

/-- A deletion that finds a row of the id and owner goes on with the first. -/
theorem deleteRow_healthy_some {isar : IdentificationServiceAreaRow}
    {rest : List IdentificationServiceAreaRow} (ha : c.phase = .active) (hf : c.faults = [])
    (hrows : (deleteIdentificationServiceAreaRows id owner c.view).1 = isar :: rest) :
    deleteRow id owner c = .ok isar { (c.log .statement).trip with
      view := (deleteIdentificationServiceAreaRows id owner c.view).2 } := by
  have hst : attempt (statement (.ok ()) fun _ _ d =>
      .ok (deleteIdentificationServiceAreaRows id owner d)) c = .ok (.ok (isar :: rest))
        { (c.log .statement).trip with
          view := (deleteIdentificationServiceAreaRows id owner c.view).2 } :=
    attempt_ok.mpr (statement_healthy ha hf (by rw [← hrows]))
  unfold deleteRow
  rw [bind_of_ok hst]
  rfl

/-- The subscriber query and its scan, run forwards, on a view with the subscriptions of `d`. -/
theorem readSubscribers_healthy {subscriptions : List String} {subscribers : List SubscriberRow}
    (hscan : scanSubscribers (subscriptionDetailsForAffectedCells (StringArray.value subscriptions)
      owner now d) = .ok subscribers)
    (ha : c.phase = .active) (hf : c.faults = []) (hv : c.view.subscriptions = d.subscriptions)
    (hn : c.now = now) :
    readSubscribers subscriptions owner c =
      .ok subscribers { (c.log .statement).trip with view := c.view } := by
  have hdetails : subscriptionDetailsForAffectedCells (StringArray.value subscriptions) owner c.now
      c.view = subscriptionDetailsForAffectedCells (StringArray.value subscriptions) owner now d := by
    rw [subscriptionDetailsForAffectedCells, subscriptionDetailsForAffectedCells, hv, hn]
  unfold readSubscribers query
  rw [bind_of_ok ((attempt_ok (r := .ok _)).mpr (statement_healthy ha hf rfl))]
  dsimp only
  rw [bind_of_ok (pure_apply _ _), hdetails, hscan]
  rfl

theorem respond_healthy {isar : IdentificationServiceAreaRow} {subscribers : List SubscriberRow}
    {isa : IdentificationServiceArea} (hisa : isar.toProtobuf = .ok isa) :
    respond isar subscribers c =
      .ok (isa, subscribers.map fun sr => ⟨sr.url, [⟨sr.notificationIndex, sr.id⟩]⟩) c := by
  unfold respond
  rw [hisa, mapM_toProtobuf]
  rfl

/-- **A deletion whose scans go through and which finds its row succeeds** on a backend that fails
no round trip, and answers with the row converted and the subscribers. -/
theorem deleteIdentificationServiceArea_healthy {cells : List Int} {subscriptions : List String}
    {isar : IdentificationServiceAreaRow} {rest : List IdentificationServiceAreaRow}
    {subscribers : List SubscriberRow} {isa : IdentificationServiceArea}
    (hscan : scanAffected (affectedCellsAndSubscriptions id d) = .ok (cells, subscriptions))
    (hrows : (deleteIdentificationServiceAreaRows id owner d).1 = isar :: rest)
    (hsubs : scanSubscribers (subscriptionDetailsForAffectedCells (StringArray.value subscriptions)
      owner now d) = .ok subscribers)
    (hisa : isar.toProtobuf = .ok isa) :
    ∃ c, deleteIdentificationServiceArea id owner (Conn.start d now []) =
      .ok (isa, subscribers.map fun sr => ⟨sr.url, [⟨sr.notificationIndex, sr.id⟩]⟩) c := by
  apply Exists.intro
  unfold deleteIdentificationServiceArea
  rw [bind_of_ok (begin_healthy rfl), bind_of_ok (readAffected_healthy hscan rfl rfl rfl),
    bind_of_ok (deleteRow_healthy_some rfl rfl hrows),
    bind_of_ok (readSubscribers_healthy hsubs rfl rfl rfl rfl), bind_of_ok (respond_healthy hisa)]
  exact (bind_of_ok (commit_healthy rfl rfl)).trans (pure_apply _ _)

end Delete

/-! ## An ISA from its insert to its deletion -/

/-- The deletion, by its owner, of an ISA inserted on a fresh id takes back exactly what the
insert stored. -/
theorem deleteIdentificationServiceAreaRows_inserted {id owner : String}
    {isar : IdentificationServiceAreaRow} {fresh : List CellIsaTuple} (hid : isar.id = id)
    (hown : isar.owner = owner) (hisas : ∀ x ∈ d.identificationServiceAreas, x.id ≠ id)
    (hcells : ∀ q ∈ d.cellsIdentificationServiceAreas, q.identificationServiceAreaId ≠ id)
    (hfresh : ∀ q ∈ fresh, q.identificationServiceAreaId = id) :
    deleteIdentificationServiceAreaRows id owner { d with
      identificationServiceAreas := isar :: d.identificationServiceAreas
      cellsIdentificationServiceAreas := fresh ++ d.cellsIdentificationServiceAreas } =
      ([isar], d) := by
  have hdel : (isar :: d.identificationServiceAreas).filter
      (fun r => decide (r.id = id ∧ r.owner = owner)) = [isar] := by
    rw [List.filter_cons_of_pos (by simp [hid, hown]),
      List.filter_eq_nil_iff.mpr fun x hx h => hisas x hx (of_decide_eq_true h).1]
  have hkept : ∀ x ∈ d.identificationServiceAreas, ¬(x.id = id ∧ x.owner = owner) :=
    fun x hx h => hisas x hx h.1
  have hold : ∀ q ∈ d.cellsIdentificationServiceAreas,
      q.identificationServiceAreaId ∉ [isar].map IdentificationServiceAreaRow.id := by
    simpa [hid] using hcells
  have hnew : fresh.filter (fun q =>
      decide (q.identificationServiceAreaId ∉ [isar].map IdentificationServiceAreaRow.id)) = [] :=
    List.filter_eq_nil_iff.mpr fun q hq => by simp [hid, hfresh q hq]
  simp only [deleteIdentificationServiceAreaRows, hdel]
  rw [List.filter_cons_of_neg (by simp [hid, hown]), List.filter_append, hnew, List.nil_append,
    List.filter_eq_self.mpr fun x hx => decide_eq_true (hkept x hx),
    List.filter_eq_self.mpr fun q hq => decide_eq_true (hold q hq)]

/-- **The owner of an inserted ISA deletes it exactly when each of its cells is covered, and the
deletion undoes the insert.**  On every state a run reaches, once
`insertIdentificationServiceAreaUnchecked` has stored an area, its owner's
`DeleteIdentificationServiceArea` of it, with a backend that fails no round trip, succeeds exactly
when every cell the insert was handed is the cell of some row of `cells_subscriptions`.  A deletion
of it that succeeds, on any backend, answers with the id, owner, url and times the insert answered
with, and as version the decimal `UnixNano` of the insert's timestamp where the insert answered
none; and it leaves the tables as they were before the insert.  (The insert's answer also carries
the request's `SpatialVolume`, which `DssStore.Volume4D` leaves out and the deletion's never
has.) -/
theorem inserted_isa_deleted_iff_covered (steps : List Step) (sa : IdentificationServiceArea)
    (cells : List CellID) (now : Int) (fs : List Bool) {r : IdentificationServiceArea}
    {c : Conn Db}
    (h : insertIdentificationServiceAreaUnchecked sa cells (Conn.start (replay steps) now fs) =
      .ok r c) (now' : Int) :
    ((∃ r' c', deleteIdentificationServiceArea sa.id sa.owner (Conn.start c.db now' []) =
        .ok r' c') ↔
      ∀ cell ∈ cells, ∃ q ∈ (replay steps).cellsSubscriptions, q.cellId = cell.toNat) ∧
    ∀ fs' r' c', deleteIdentificationServiceArea sa.id sa.owner (Conn.start c.db now' fs') =
        .ok r' c' →
      r'.1 = { r with version := Strconv.formatInt (unixNano now) 10 } ∧ c'.db = replay steps := by
  obtain ⟨isar, hid, hown, hisas, hdb, hisa⟩ := insertIdentificationServiceAreaUnchecked_stores h
  have hold : ∀ q ∈ (replay steps).cellsIdentificationServiceAreas,
      q.identificationServiceAreaId ≠ sa.id := fun q hq hq' => by
    obtain ⟨x, hx, hxq⟩ := isaCellsOwned_replay steps q hq
    exact hisas x hx (hxq.trans hq')
  have hrows : deleteIdentificationServiceAreaRows sa.id sa.owner c.db = ([isar], replay steps) := by
    rw [hdb]
    exact deleteIdentificationServiceAreaRows_inserted hid hown hisas hold fun q hq => by
      obtain ⟨_, -, rfl⟩ := List.mem_map.mp (List.mem_reverse.mp hq)
      rfl
  refine ⟨⟨fun ⟨r', c', hdel⟩ cell hcell => ?_, fun hcov => ?_⟩, fun fs' r' c' hdel => ?_⟩
  · by_contra hun
    push_neg at hun
    refine deleteIdentificationServiceArea_ne_ok_of_uncovered
      (q := ⟨cell.toNat, cell.level, sa.id, now⟩) ?_ rfl (by rw [hdb]; exact hun) hdel
    rw [hdb]
    exact List.mem_append_left _ (List.mem_reverse.mpr (List.mem_map_of_mem _ hcell))
  · have hscan : ∃ cells subscriptions, scanAffected (affectedCellsAndSubscriptions sa.id c.db) =
        .ok (cells, subscriptions) := scanAffected_of_covered fun q hq hq' => by
      rw [hdb] at hq ⊢
      rcases List.mem_append.mp hq with hq | hq
      · obtain ⟨cell, hcell, rfl⟩ := List.mem_map.mp (List.mem_reverse.mp hq)
        exact hcov cell hcell
      · exact absurd hq' (hold q hq)
    obtain ⟨_, subscriptions, hscan⟩ := hscan
    have hz : IndexZero c.db.subscriptions :=
      hdb ▸ replay_of_subscriptionsWrite IndexZero (fun _ h => nomatch h) indexZero_write steps
    obtain ⟨subscribers, hsubs⟩ :=
      scanSubscribers_of_indexZero hz (StringArray.value subscriptions) sa.owner now'
    exact ⟨_, deleteIdentificationServiceArea_healthy hscan (by rw [hrows]) hsubs hisa⟩
  · obtain ⟨_, _, isar', rest, _, -, hrows', hdb', -, hisa', -⟩ :=
      deleteIdentificationServiceArea_ok hdel
    rw [hrows] at hrows' hdb'
    obtain ⟨rfl, -⟩ := List.cons.inj hrows'
    exact ⟨Except.ok.inj (hisa'.symm.trans hisa), hdb'⟩

/-- Subscription `s` of owner `B` over cell 42, inserted at timestamp 1. -/
def coverS : Step := ⟨.insertSubscription ⟨"s", "B", none, 0, "", none, none⟩ [42], 1, []⟩

/-- Area `i` of owner `A` over cell 42, from 0 s to 10 s, inserted at timestamp 2 after `coverS`:
`A` deletes it at 3, gets it back at version `2`, and the tables are those before the insert. -/
theorem inserted_isa_deleted_iff_covered_i :
    ∃ r c, insertIdentificationServiceAreaUnchecked
        ⟨"i", "A", "f", "", some ⟨some ⟨0, 0⟩, some ⟨10, 0⟩⟩⟩ [42]
        (Conn.start (replay [coverS]) 2 []) = .ok r c ∧
      ∃ r' c', deleteIdentificationServiceArea "i" "A" (Conn.start c.db 3 []) = .ok r' c' ∧
        r'.1 = { r with version := Strconv.formatInt (unixNano 2) 10 } ∧
        c'.db = replay [coverS] := by
  obtain ⟨r, c, h⟩ : ∃ r c, insertIdentificationServiceAreaUnchecked
      ⟨"i", "A", "f", "", some ⟨some ⟨0, 0⟩, some ⟨10, 0⟩⟩⟩ [42]
      (Conn.start (replay [coverS]) 2 []) = .ok r c := ⟨_, _, rfl⟩
  obtain ⟨r', c', hdel⟩ :=
    (inserted_isa_deleted_iff_covered [coverS] _ [42] 2 [] h 3).1.mpr (by decide)
  exact ⟨r, c, h, r', c', hdel,
    (inserted_isa_deleted_iff_covered [coverS] _ [42] 2 [] h 3).2 [] r' c' hdel⟩

end ProtoStore
end DssStore
