import DssStore.ProtoStore.Versions
import DssStore.ProtoStore.Isas

/-!
# The cell index of the older store

`cells_subscriptions` indexes each subscription under its cells.  `insertSubscription` writes a
cell row per cell it is handed, `updateSubscription` upserts one per cell it is handed and deletes
none, and `DeleteSubscription`'s cascade takes the cell rows of the subscription it deletes.  So
the index of a subscription holds the cells handed to its insert and to every update since: an
update that moves a subscription leaves it indexed where it was as well.  The newer store replaces
the cells instead (`DssStore.Cockroach.cells_match_declared`).

## What is here

* `cellIds`, the cell ids the index holds for a subscription, and `CellsAdded`, what a cell loop
  does to them;
* `CellIndex`, the invariant of the tables given the cells a `History` records, and
  `cellIndex_step`: every step keeps it;
* `cell_index_accumulates`: on every run, every cell row names a stored subscription, and the
  index of a subscription holds exactly the cells handed to its last insert and to its updates
  since.
-/

set_option autoImplicit false

namespace DssStore
namespace ProtoStore

/-! ## Cell rows -/

/-- The cell ids `cells_subscriptions` holds for subscription `id`. -/
def cellIds (id : String) (d : Db) : List Int :=
  (d.cellsSubscriptions.filter fun q => q.subscriptionId = id).map CellSubscriptionTuple.cellId

@[simp] theorem cellIds_withSubscriptions (id : String) (d : Db) (subs : List SubscriptionTuple) :
    cellIds id { d with subscriptions := subs } = cellIds id d := rfl

theorem mem_cellIds {id : String} {d : Db} {cid : Int} :
    cid ∈ cellIds id d ↔ ∃ q ∈ d.cellsSubscriptions, q.subscriptionId = id ∧ q.cellId = cid := by
  simp [cellIds, and_assoc]

/-- `d'` is `d` with cell rows of subscription `sid` added, of the cell ids `added`. -/
structure CellsAdded (sid : String) (added : Int → Prop) (d d' : Db) : Prop where
  /-- `subscriptions` is as it was. -/
  subscriptions : d'.subscriptions = d.subscriptions
  /-- Every new cell row is one of `sid`. -/
  rows : ∀ q ∈ d'.cellsSubscriptions, q.subscriptionId = sid ∨ q ∈ d.cellsSubscriptions
  /-- The cell ids of `sid` gain `added`; those of every other subscription stay. -/
  ids : ∀ id cid, cid ∈ cellIds id d' ↔ (id = sid ∧ added cid) ∨ cid ∈ cellIds id d

section CellsAdded

variable {sid : String} {A B : Int → Prop} {d₁ d₂ d₃ : Db}

theorem CellsAdded.trans (h₁ : CellsAdded sid A d₁ d₂) (h₂ : CellsAdded sid B d₂ d₃) :
    CellsAdded sid (fun cid => A cid ∨ B cid) d₁ d₃ :=
  ⟨h₂.subscriptions.trans h₁.subscriptions, fun q hq => (h₂.rows q hq).elim .inl (h₁.rows q),
    fun id cid => by rw [h₂.ids, h₁.ids]; tauto⟩

theorem CellsAdded.congr (h : CellsAdded sid A d₁ d₂) (hAB : ∀ cid, A cid ↔ B cid) :
    CellsAdded sid B d₁ d₂ :=
  ⟨h.subscriptions, h.rows, fun id cid => by rw [h.ids, hAB]⟩

end CellsAdded

theorem cellsAdded_insertCellSubscription {q : CellSubscriptionTuple} {d d' : Db}
    (h : insertCellSubscription q d = .ok d') :
    CellsAdded q.subscriptionId (· = q.cellId) d d' := by
  rw [insertCellSubscription_ok h]
  refine ⟨rfl, fun q' hq' => (List.mem_cons.mp hq').imp (congrArg _) id, fun id cid => ?_⟩
  simp only [mem_cellIds, List.exists_mem_cons_iff]
  exact or_congr_left (and_congr eq_comm eq_comm)

theorem cellsAdded_upsertCellSubscription {q : CellSubscriptionTuple} {d d' : Db}
    (h : upsertCellSubscription q d = .ok d') :
    CellsAdded q.subscriptionId (· = q.cellId) d d' := by
  rw [upsertCellSubscription_ok h]
  refine ⟨rfl, fun q' hq' => (List.mem_cons.mp hq').imp (congrArg _) List.mem_of_mem_filter,
    fun id cid => ?_⟩
  simp only [mem_cellIds, upsertKeyed, List.exists_mem_cons_iff, List.mem_filter]
  refine ⟨fun h => h.imp (and_congr eq_comm eq_comm).mp fun ⟨q', ⟨hq', _⟩, hq⟩ => ⟨q', hq', hq⟩,
    ?_⟩
  rintro (⟨rfl, rfl⟩ | ⟨q', hq', hsid, hcid⟩)
  · exact .inl ⟨rfl, rfl⟩
  by_cases hkey : (q'.cellId, q'.subscriptionId) = (q.cellId, q.subscriptionId)
  · obtain ⟨hc, hs⟩ := Prod.mk.inj hkey
    exact .inl ⟨hs ▸ hsid, hc ▸ hcid⟩
  · exact .inr ⟨q', ⟨hq', decide_eq_true hkey⟩, hsid, hcid⟩

/-- **A cell loop adds the cells it is handed**, and nothing else, when each of its writes adds the
row of its cell. -/
theorem writeCells_cellsAdded {write : Int → Int → Int → Db → Except Err Db} {sid : String}
    (hw : ∀ v l now d d', write v l now d = .ok d' → CellsAdded sid (· = v) d d') {now : Int} :
    ∀ {cells : List CellID} {d d' : Db}, writeCells write cells now d = .ok d' →
      CellsAdded sid (fun cid => ∃ cell ∈ cells, (cell.toNat : Int) = cid) d d'
  | [], d, _, h => by
    cases h
    exact ⟨rfl, fun q hq => .inr hq, fun id cid => by simp⟩
  | cell :: cells, d, d', h => by
    simp only [writeCells, List.foldlM_cons] at h
    rcases hv : cell.driverValue with e | v <;>
      simp only [hv, bind, Except.bind, reduceCtorEq] at h
    rcases hd : write v cell.level now d with e | d₁ <;> simp only [hd, reduceCtorEq] at h
    rw [CellID.driverValue_ok hv] at hd
    exact ((hw _ _ _ _ _ hd).trans (writeCells_cellsAdded hw h)).congr fun cid => by
      rw [List.exists_mem_cons_iff, @eq_comm _ cid]

/-! ## The invariant -/

/-- The invariant of the tables, given the cells declared for each id. -/
structure CellIndex (d : Db) (declared : String → List CellID) : Prop where
  /-- `id` is a primary key. -/
  keys : KeysUnique d
  /-- Every cell row names a stored subscription. -/
  owned : ∀ q ∈ d.cellsSubscriptions, ∃ x ∈ d.subscriptions, x.id = q.subscriptionId
  /-- The cell ids of each subscription are those of its declared cells. -/
  exact : ∀ id cid, cid ∈ cellIds id d ↔ ∃ cell ∈ declared id, (cell.toNat : Int) = cid

section Step

variable {d : Db} {declared : String → List CellID} {now : Int} {fs : List Bool} {c' : Conn Db}

theorem cellIndex_empty : CellIndex Db.empty fun _ => [] :=
  ⟨List.nodup_nil, fun _ h => (nomatch h), fun _ _ => by simp [cellIds, Db.empty]⟩

/-- The invariant reads only `subscriptions` and `cells_subscriptions`. -/
theorem CellIndex.congr {d' : Db} (hi : CellIndex d declared)
    (hs : d'.subscriptions = d.subscriptions) (hc : d'.cellsSubscriptions = d.cellsSubscriptions) :
    CellIndex d' declared :=
  ⟨by rw [KeysUnique, hs]; exact hi.keys, by rw [hs, hc]; exact hi.owned,
    fun id cid => by rw [cellIds, hc]; exact hi.exact id cid⟩

/-- A subscription with no row has no cell rows. -/
theorem CellIndex.cellIds_eq_nil (hi : CellIndex d declared) {id : String}
    (hid : ∀ x ∈ d.subscriptions, x.id ≠ id) : cellIds id d = [] := by
  refine List.eq_nil_iff_forall_not_mem.mpr fun cid hcid => ?_
  obtain ⟨q, hq, hsid, -⟩ := mem_cellIds.mp hcid
  obtain ⟨x, hx, hxq⟩ := hi.owned q hq
  exact hid x hx (hxq.trans hsid)

theorem cellIndex_insertSubscription {s : Dspb.Subscription} {cells : List CellID}
    {r : Dspb.Subscription} (hi : CellIndex d declared)
    (h : insertSubscription s cells (Conn.start d now fs) = .ok r c') :
    CellIndex c'.db fun id => if id = s.id then cells else declared id := by
  obtain ⟨d₁, hins, hcells, -⟩ := insertSubscription_ok h
  have hid : (SubscriptionsRow.applyProtobuf s .zero).state.id = s.id :=
    SubscriptionsRow.applyProtobuf_id fun h => h.symm
  have hadd : CellsAdded s.id (fun cid => ∃ cell ∈ cells, (cell.toNat : Int) = cid) d₁ c'.db :=
    writeCells_cellsAdded (fun _ _ _ _ _ h => by
      rw [← hid]; exact cellsAdded_insertCellSubscription h) hcells
  have hfresh := insertSubscriptionTuple_fresh hins
  obtain ⟨-, rfl⟩ := insertSubscriptionTuple_ok hins
  have hnone : ∀ x ∈ d.subscriptions, x.id ≠ s.id := fun x hx hxid =>
    hfresh (List.mem_map.mpr ⟨x, hx, hxid.trans hid.symm⟩)
  refine ⟨?_, fun q hq => ?_, fun id cid => ?_⟩
  · rw [KeysUnique, hadd.subscriptions]
    exact List.nodup_cons.mpr ⟨hfresh, hi.keys⟩
  · rw [hadd.subscriptions]
    rcases hadd.rows q hq with hsid | hq
    · exact ⟨_, List.mem_cons_self _ _, hid.trans hsid.symm⟩
    · obtain ⟨x, hx, hxq⟩ := hi.owned q hq
      exact ⟨x, List.mem_cons_of_mem _ hx, hxq⟩
  · rw [hadd.ids, cellIds_withSubscriptions]
    by_cases hsid : id = s.id
    · subst hsid
      simp [hi.cellIds_eq_nil hnone]
    · simp only [hsid, false_and, false_or, if_false]
      exact hi.exact id cid

theorem cellIndex_updateSubscription {s : Dspb.Subscription} {cells : List CellID}
    {r : Dspb.Subscription} (hi : CellIndex d declared)
    (h : updateSubscription s cells (Conn.start d now fs) = .ok r c') :
    CellIndex c'.db fun id => if id = s.id then declared id ++ cells else declared id := by
  obtain ⟨sr, d₁, hscan, -, hup, hcells, -⟩ := updateSubscription_ok h
  have hid : (SubscriptionsRow.applyProtobuf s sr).state.id = s.id :=
    SubscriptionsRow.applyProtobuf_id fun _ => (scan_selectSubscriptionByID hscan).2
  have hadd : CellsAdded s.id (fun cid => ∃ cell ∈ cells, (cell.toNat : Int) = cid) d₁ c'.db :=
    writeCells_cellsAdded (fun _ _ _ _ _ h => by
      rw [← hid]; exact cellsAdded_upsertCellSubscription h) hcells
  obtain ⟨-, rfl⟩ := upsertSubscriptionTuple_ok hup
  refine ⟨?_, fun q hq => ?_, fun id cid => ?_⟩
  · rw [KeysUnique, hadd.subscriptions]
    exact nodup_upsertKeyed hi.keys
  · rw [hadd.subscriptions, upsertKeyed]
    rcases hadd.rows q hq with hsid | hq
    · exact ⟨_, List.mem_cons_self _ _, hid.trans hsid.symm⟩
    obtain ⟨x, hx, hxq⟩ := hi.owned q hq
    by_cases hxid : x.id = s.id
    · exact ⟨_, List.mem_cons_self _ _, hid.trans (hxid.symm.trans hxq)⟩
    · refine ⟨x, List.mem_cons_of_mem _ (List.mem_filter.mpr ⟨hx, ?_⟩), hxq⟩
      simpa [SubscriptionsRow.values, hid] using hxid
  · rw [hadd.ids, cellIds_withSubscriptions, hi.exact]
    by_cases hsid : id = s.id
    · simp only [hsid, true_and, if_true, List.mem_append, or_and_right, exists_or]
      exact or_comm
    · simp only [hsid, false_and, false_or, if_false]

/-- A subscription delete that returned a row takes every cell row of its id and no other. -/
theorem cellIds_deleteSubscriptionTuples {cond : SubscriptionTuple → Bool} {id : String}
    (hcond : ∀ x, cond x = true → x.id = id) {t : SubscriptionTuple}
    (ht : t ∈ (deleteSubscriptionTuples cond d).1) (id' : String) (cid : Int) :
    cid ∈ cellIds id' (deleteSubscriptionTuples cond d).2 ↔ id' ≠ id ∧ cid ∈ cellIds id' d := by
  have hdel : ∀ id',
      id' ∈ (deleteSubscriptionTuples cond d).1.map SubscriptionTuple.id ↔ id' = id :=
    fun id' => ⟨fun h => by
      obtain ⟨x, hx, rfl⟩ := List.mem_map.mp h
      exact hcond x (List.mem_filter.mp hx).2,
      fun h => h ▸ List.mem_map.mpr ⟨t, ht, hcond t (List.mem_filter.mp ht).2⟩⟩
  simp only [mem_cellIds, deleteSubscriptionTuples, List.mem_filter, decide_eq_true_eq] at hdel ⊢
  constructor
  · rintro ⟨q, ⟨hq, hkept⟩, hsid, hcid⟩
    exact ⟨fun h => hkept ((hdel _).mpr (hsid.trans h)), q, hq, hsid, hcid⟩
  · rintro ⟨hne, q, hq, hsid, hcid⟩
    exact ⟨q, ⟨hq, fun h => hne (hsid.symm.trans ((hdel _).mp h))⟩, hsid, hcid⟩

theorem cellIndex_deleteSubscription {id version : String} {r : Dspb.Subscription}
    (hi : CellIndex d declared)
    (h : deleteSubscription id version (Conn.start d now fs) = .ok r c') :
    CellIndex c'.db fun id' => if id' = id then [] else declared id' := by
  obtain ⟨updatedAt, sr, -, hscan, hdb, -⟩ := deleteSubscription_ok h
  have hcond : ∀ x, deleteCondition id updatedAt x = true → x.id = id := fun _ => deleteCondition_id
  have ht := mem_of_queryRow_scan hscan
  rw [hdb]
  refine ⟨hi.keys.sublist ((List.filter_sublist _).map _), fun q hq => ?_, fun id' cid => ?_⟩
  · obtain ⟨hq, hkept⟩ := List.mem_filter.mp hq
    obtain ⟨x, hx, hxq⟩ := hi.owned q hq
    refine ⟨x, List.mem_filter.mpr ⟨hx, ?_⟩, hxq⟩
    simp only [Bool.not_eq_true', decide_eq_true_eq] at hkept ⊢
    by_contra hdel
    exact hkept (List.mem_map.mpr ⟨x, List.mem_filter.mpr ⟨hx, by simpa using hdel⟩, hxq⟩)
  · rw [cellIds_deleteSubscriptionTuples hcond ht, hi.exact]
    by_cases hid : id' = id <;> simp [hid]

/-- **Every call keeps the invariant**, with the cells it declares when it goes through. -/
theorem cellIndex_run (hi : CellIndex d declared) {call : Call} {u : Unit}
    (h : call.run (Conn.start d now fs) = .ok u c') : CellIndex c'.db (call.declare declared) := by
  cases call <;> obtain ⟨_, hop⟩ := discardAnswer_ok h
  case insertSubscription => exact cellIndex_insertSubscription hi hop
  case updateSubscription => exact cellIndex_updateSubscription hi hop
  case getSubscription =>
    obtain ⟨_, -, -, hdb⟩ := getSubscription_ok hop
    rw [hdb]; exact hi
  case deleteSubscription => exact cellIndex_deleteSubscription hi hop
  case searchSubscriptions =>
    rw [(searchSubscriptions_ok hop).2.2.2]; exact hi
  case insertIdentificationServiceAreaUnchecked =>
    obtain ⟨_, -, -, -, hdb, -⟩ := insertIdentificationServiceAreaUnchecked_stores hop
    exact hi.congr (by rw [hdb]) (by rw [hdb])
  case deleteIdentificationServiceArea =>
    obtain ⟨_, _, _, _, _, -, -, hdb, -⟩ := deleteIdentificationServiceArea_ok hop
    exact hi.congr (by rw [hdb]; rfl) (by rw [hdb]; rfl)

end Step

theorem cellIndex_step {h : History} (st : Step) (hi : CellIndex h.db h.declared) :
    CellIndex (h.step st).db (h.step st).declared := by
  cases hrun : st.run h.db with
  | error e c => rw [History.step_of_error hrun]; exact hi
  | ok u c => rw [History.step_of_ok hrun]; exact cellIndex_run hi hrun

theorem cellIndex_foldl : ∀ (steps : List Step) (h : History), CellIndex h.db h.declared →
    CellIndex (steps.foldl History.step h).db (steps.foldl History.step h).declared
  | [], _, hi => hi
  | st :: steps, h, hi => cellIndex_foldl steps (h.step st) (cellIndex_step st hi)

/-- **The cell index of the older store only grows between an insert and a delete.**  After any
run, with any calls, arguments, timestamps and backend faults, every row of `cells_subscriptions`
names a stored subscription, and the cell ids the index holds for a subscription are exactly those
of the cells handed to its last successful insert and to every successful update of it since: an
update adds its cells and removes none, so a subscription stays indexed under every cell it was
ever given. -/
theorem cell_index_accumulates (steps : List Step) :
    (∀ q ∈ (replay steps).cellsSubscriptions,
      ∃ x ∈ (replay steps).subscriptions, x.id = q.subscriptionId) ∧
    ∀ id cid, cid ∈ cellIds id (replay steps) ↔
      ∃ cell ∈ (History.replay steps).declared id, (cell.toNat : Int) = cid := by
  have hi := cellIndex_foldl steps History.init cellIndex_empty
  rw [← History.replay_db]
  exact ⟨hi.owned, hi.exact⟩

/-- `x` inserted over cell 42, then updated over cell 84. -/
def moveRun : List Step :=
  [⟨.insertSubscription ⟨"x", "a", none, 0, "", none, none⟩ [42], 1, []⟩,
   ⟨.updateSubscription ⟨"x", "a", none, 0, "", none, none⟩ [84], 2, []⟩]

/-- After the move, `x` is indexed under both cells. -/
example : cellIds "x" (replay moveRun) = [84, 42] := by decide

end ProtoStore
end DssStore
