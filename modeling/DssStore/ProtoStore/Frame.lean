import DssStore.ProtoStore.Runs

/-!
# What a call of the older store can touch

Every write of the older store is keyed: a row of `subscriptions` or of `identification_service_areas`
by its `id`, a cell row by the id of the subscription or ISA it indexes, and the cascades of the
two deletions by the ids of the rows they deleted.  Each call keys all its writes by one id: the
subscription calls by the request's id (`DeleteSubscription` by its `id` argument), the ISA calls by
the ISA's.  So a call leaves the rows of every other subscription and of every other ISA as they
were, whether it succeeds or fails.

## What is here

* `subscriptionRows` and `isaRows`, the rows of one subscription and of one ISA, and `Untouched`,
  that two states hold the same ones;
* one lemma per statement of the store: it keeps the rows of every other key
  (`untouched_insertSubscriptionTuple` and the rest);
* `Call.run_untouched`: a call keeps the rows of every subscription and ISA it does not name, and
  `replay_untouched`: over a run, those rows change only at the calls that name them.

The frame is one of ids, not of owners: `updateSubscription` reads its row by id alone, and
`DeleteSubscription` deletes by id alone, so a call on behalf of any owner can reach any
subscription (`DssStore.ProtoStore.Behaviour` has the update).
-/

set_option autoImplicit false

namespace DssStore
namespace ProtoStore

/-! ## The rows of one subscription and of one ISA -/

/-- The rows of subscription `id`: its row of `subscriptions` and its rows of
`cells_subscriptions`. -/
def subscriptionRows (id : String) (d : Db) :
    List SubscriptionTuple × List CellSubscriptionTuple :=
  (d.subscriptions.filter fun x => x.id = id,
    d.cellsSubscriptions.filter fun q => q.subscriptionId = id)

/-- The rows of ISA `id`: its row of `identification_service_areas` and its rows of
`cells_identification_service_areas`. -/
def isaRows (id : String) (d : Db) : List IdentificationServiceAreaRow × List CellIsaTuple :=
  (d.identificationServiceAreas.filter fun r => r.id = id,
    d.cellsIdentificationServiceAreas.filter fun q => q.identificationServiceAreaId = id)

/-- `d'` holds the rows `d` holds of subscription `sid` and of ISA `iid`. -/
def Untouched (sid iid : String) (d d' : Db) : Prop :=
  subscriptionRows sid d' = subscriptionRows sid d ∧ isaRows iid d' = isaRows iid d

variable {sid iid : String}

theorem Untouched.refl (d : Db) : Untouched sid iid d d := ⟨rfl, rfl⟩

theorem Untouched.trans {d₁ d₂ d₃ : Db} (h₁ : Untouched sid iid d₁ d₂)
    (h₂ : Untouched sid iid d₂ d₃) : Untouched sid iid d₁ d₃ :=
  ⟨h₂.1.trans h₁.1, h₂.2.trans h₁.2⟩

/-- A row of another key is not among the rows of `a`. -/
theorem filter_cons_of_ne {α : Type} {f : α → String} {a : String} {x : α} (hx : f x ≠ a)
    (l : List α) : (x :: l).filter (fun y => f y = a) = l.filter fun y => f y = a := by
  simp [hx]

/-- Keeping the rows that pass `p`, when every row of `a` passes it, keeps the rows of `a`. -/
theorem filter_filter_of_imp {α : Type} {f : α → String} {a : String} {p : α → Bool}
    (hp : ∀ y, f y = a → p y = true) (l : List α) :
    (l.filter p).filter (fun y => f y = a) = l.filter fun y => f y = a := by
  rw [List.filter_filter]
  exact List.filter_congr fun y _ => by by_cases h : f y = a <;> simp [h, hp]

/-! ## The statements keep the rows of every other key -/

theorem untouched_insertSubscriptionTuple {t : SubscriptionTuple} {d d' : Db}
    {rows : List SubscriptionTuple} (h : insertSubscriptionTuple t d = .ok (rows, d'))
    (ht : t.id ≠ sid) : Untouched sid iid d d' := by
  obtain ⟨-, rfl⟩ := insertSubscriptionTuple_ok h
  exact ⟨Prod.ext (filter_cons_of_ne (x := t.stored) ht _) rfl, rfl⟩

theorem untouched_upsertSubscriptionTuple {t : SubscriptionTuple} {d d' : Db}
    {rows : List SubscriptionTuple} (h : upsertSubscriptionTuple t d = .ok (rows, d'))
    (ht : t.id ≠ sid) : Untouched sid iid d d' := by
  obtain ⟨-, rfl⟩ := upsertSubscriptionTuple_ok h
  refine ⟨Prod.ext ?_ rfl, rfl⟩
  show ((t.stored :: d.subscriptions.filter fun q => q.id ≠ t.stored.id).filter
    fun x => x.id = sid) = _
  rw [filter_cons_of_ne (x := t.stored) ht]
  exact filter_filter_of_imp (fun y hy => by simpa [hy] using ht.symm) _

theorem untouched_insertCellSubscription {q : CellSubscriptionTuple} {d d' : Db}
    (h : insertCellSubscription q d = .ok d') (hq : q.subscriptionId ≠ sid) :
    Untouched sid iid d d' := by
  rw [insertCellSubscription_ok h]
  exact ⟨Prod.ext rfl (filter_cons_of_ne hq _), rfl⟩

theorem untouched_upsertCellSubscription {q : CellSubscriptionTuple} {d d' : Db}
    (h : upsertCellSubscription q d = .ok d') (hq : q.subscriptionId ≠ sid) :
    Untouched sid iid d d' := by
  rw [upsertCellSubscription_ok h]
  refine ⟨Prod.ext rfl ?_, rfl⟩
  show ((q :: d.cellsSubscriptions.filter fun x =>
      (x.cellId, x.subscriptionId) ≠ (q.cellId, q.subscriptionId)).filter
    fun x => x.subscriptionId = sid) = _
  rw [filter_cons_of_ne hq]
  exact filter_filter_of_imp (fun y hy => by simp [hy, Ne.symm hq]) _

/-- A deletion whose every deleted row has another id keeps the rows of `sid`, the cascade
included. -/
theorem untouched_deleteSubscriptionTuples {cond : SubscriptionTuple → Bool}
    (hcond : ∀ x, cond x = true → x.id ≠ sid) (d : Db) :
    Untouched sid iid d (deleteSubscriptionTuples cond d).2 := by
  refine ⟨Prod.ext (filter_filter_of_imp (fun x hx => ?_) _)
    (filter_filter_of_imp (fun q hq => ?_) _), rfl⟩
  · simpa using fun hc => hcond x hc hx
  · refine decide_eq_true fun hmem => ?_
    obtain ⟨x, hx, hxid⟩ := List.mem_map.mp hmem
    exact hcond x (List.mem_filter.mp hx).2 (hxid.trans hq)

theorem untouched_insertIdentificationServiceAreaRow {r : IdentificationServiceAreaRow}
    {d d' : Db} {rows : List IdentificationServiceAreaRow}
    (h : insertIdentificationServiceAreaRow r d = .ok (rows, d')) (hr : r.id ≠ iid) :
    Untouched sid iid d d' := by
  obtain ⟨-, rfl⟩ := insertIdentificationServiceAreaRow_ok h
  exact ⟨rfl, Prod.ext (filter_cons_of_ne (x := r.stored) hr _) rfl⟩

theorem untouched_insertCellIsa {q : CellIsaTuple} {d d' : Db} (h : insertCellIsa q d = .ok d')
    (hq : q.identificationServiceAreaId ≠ iid) : Untouched sid iid d d' := by
  rw [insertCellIsa_ok h]
  exact ⟨rfl, Prod.ext rfl (filter_cons_of_ne hq _)⟩

theorem untouched_deleteIdentificationServiceAreaRows {id : String} (hid : id ≠ iid)
    (owner : String) (d : Db) :
    Untouched sid iid d (deleteIdentificationServiceAreaRows id owner d).2 := by
  refine ⟨rfl, Prod.ext (filter_filter_of_imp (fun r hr => ?_) _)
    (filter_filter_of_imp (fun q hq => ?_) _)⟩
  · exact decide_eq_true fun h => hid (h.1.symm.trans hr)
  · refine decide_eq_true fun hmem => ?_
    obtain ⟨r, hr, hrid⟩ := List.mem_map.mp hmem
    exact hid ((of_decide_eq_true (List.mem_filter.mp hr).2).1.symm.trans (hrid.trans hq))

/-- A cell loop whose every write keeps the rows of `sid` and `iid` keeps them. -/
theorem untouched_writeCells {write : Int → Int → Int → Db → Except Err Db}
    (hw : ∀ v l now d d', write v l now d = .ok d' → Untouched sid iid d d') {now : Int}
    {cells : List CellID} {d d' : Db} (h : writeCells write cells now d = .ok d') :
    Untouched sid iid d d' :=
  writeCells_rel (Untouched sid iid) Untouched.refl (fun h₁ h₂ => h₁.trans h₂) hw h

/-! ## The operations -/

variable {d : Db} {now : Int} {fs : List Bool} {c' : Conn Db}

/-- The overlay keeps the request's id when the row has it already, or when the request has none
and the row's is empty. -/
theorem SubscriptionsRow.applyProtobuf_id {s : Dspb.Subscription} {sr : SubscriptionsRow}
    (h : s.id = "" → sr.id = s.id) : (SubscriptionsRow.applyProtobuf s sr).state.id = s.id := by
  obtain ⟨b, e, hstate, -, -⟩ := SubscriptionsRow.applyProtobuf_state s sr
  rw [hstate]
  split
  · rfl
  · exact h (not_not.mp ‹_›)

theorem untouched_insertSubscription {s : Dspb.Subscription} {cells : List CellID}
    {r : Dspb.Subscription} (h : insertSubscription s cells (Conn.start d now fs) = .ok r c')
    (hs : s.id ≠ sid) : Untouched sid iid d c'.db := by
  obtain ⟨d₁, hins, hcells, -⟩ := insertSubscription_ok h
  have hid : (SubscriptionsRow.applyProtobuf s .zero).state.id = s.id :=
    SubscriptionsRow.applyProtobuf_id fun h => by rw [h]; rfl
  have ht : (SubscriptionsRow.applyProtobuf s .zero).state.id ≠ sid := hid ▸ hs
  rw [hid] at hcells
  exact (untouched_insertSubscriptionTuple hins ht).trans
    (untouched_writeCells (fun _ _ _ _ _ h => untouched_insertCellSubscription h hs) hcells)

theorem untouched_updateSubscription {s : Dspb.Subscription} {cells : List CellID}
    {r : Dspb.Subscription} (h : updateSubscription s cells (Conn.start d now fs) = .ok r c')
    (hs : s.id ≠ sid) : Untouched sid iid d c'.db := by
  obtain ⟨sr, d₁, hscan, -, hup, hcells, -⟩ := updateSubscription_ok h
  have hid : (SubscriptionsRow.applyProtobuf s sr).state.id = s.id :=
    SubscriptionsRow.applyProtobuf_id fun _ => (scan_selectSubscriptionByID hscan).2
  have ht : (SubscriptionsRow.applyProtobuf s sr).state.id ≠ sid := hid ▸ hs
  rw [hid] at hcells
  exact (untouched_upsertSubscriptionTuple hup ht).trans
    (untouched_writeCells (fun _ _ _ _ _ h => untouched_upsertCellSubscription h hs) hcells)

theorem deleteCondition_id {id : String} {updatedAt : Option Int} {x : SubscriptionTuple}
    (h : deleteCondition id updatedAt x = true) : x.id = id := by
  cases updatedAt <;> simp_all [deleteCondition]

theorem untouched_deleteSubscription {id version : String} {r : Dspb.Subscription}
    (h : deleteSubscription id version (Conn.start d now fs) = .ok r c') (hid : id ≠ sid) :
    Untouched sid iid d c'.db := by
  obtain ⟨_, _, -, -, hdb, -⟩ := deleteSubscription_ok h
  rw [hdb]
  exact untouched_deleteSubscriptionTuples (fun x hx => (deleteCondition_id hx).trans_ne hid) d

theorem untouched_insertIdentificationServiceAreaUnchecked {sa : IdentificationServiceArea}
    {cells : List CellID} {r : IdentificationServiceArea}
    (h : insertIdentificationServiceAreaUnchecked sa cells (Conn.start d now fs) = .ok r c')
    (hi : sa.id ≠ iid) : Untouched sid iid d c'.db := by
  obtain ⟨_, _, d₁, _, _, -, -, -, -, hins, hcells, -⟩ :=
    insertIdentificationServiceAreaUnchecked_ok h
  exact (untouched_insertIdentificationServiceAreaRow hins hi).trans
    (untouched_writeCells (fun _ _ _ _ _ h => untouched_insertCellIsa h hi) hcells)

/-! ## Calls and runs -/

namespace Call

/-- The subscription a call writes, if any. -/
def subscriptionId : Call → Option String
  | insertSubscription s _ | updateSubscription s _ => some s.id
  | deleteSubscription id _ => some id
  | _ => none

/-- The ISA a call writes, if any. -/
def isaId : Call → Option String
  | insertIdentificationServiceAreaUnchecked sa _ => some sa.id
  | deleteIdentificationServiceArea id _ => some id
  | _ => none

/-- **A call keeps the rows of every subscription and every ISA it does not name**, whether it
succeeds or fails. -/
theorem run_untouched :
    ∀ (call : Call), call.subscriptionId ≠ some sid → call.isaId ≠ some iid →
      Untouched sid iid d (call.run (Conn.start d now fs)).state.db
  | insertSubscription s cells, hs, _ => discardAnswer_keeps _ (sealed_insertSubscription s cells) _
      (fun _ _ h => untouched_insertSubscription h fun he => hs (congrArg some he)) (Untouched.refl d)
  | updateSubscription s cells, hs, _ => discardAnswer_keeps _ (sealed_updateSubscription s cells) _
      (fun _ _ h => untouched_updateSubscription h fun he => hs (congrArg some he)) (Untouched.refl d)
  | getSubscription id, _, _ => discardAnswer_keeps _ (sealed_getSubscription id) _
      (fun _ _ h => by rw [(getSubscription_ok h).choose_spec.2.2]; exact Untouched.refl d)
      (Untouched.refl d)
  | deleteSubscription id version, hs, _ => discardAnswer_keeps _
      (sealed_deleteSubscription id version) _
      (fun _ _ h => untouched_deleteSubscription h fun he => hs (congrArg some he)) (Untouched.refl d)
  | searchSubscriptions cells owner, _, _ => discardAnswer_keeps _
      (sealed_searchSubscriptions cells owner) _
      (fun _ _ h => by rw [(searchSubscriptions_ok h).2.2.2]; exact Untouched.refl d)
      (Untouched.refl d)
  | insertIdentificationServiceAreaUnchecked sa cells, _, hi => discardAnswer_keeps _
      (sealed_insertIdentificationServiceAreaUnchecked sa cells) _
      (fun _ _ h => untouched_insertIdentificationServiceAreaUnchecked h fun he => hi (congrArg some he))
      (Untouched.refl d)
  | deleteIdentificationServiceArea id owner, _, hi => discardAnswer_keeps _
      (sealed_deleteIdentificationServiceArea id owner) _
      (fun _ _ h => by
        obtain ⟨_, _, _, _, _, -, -, hdb, -⟩ := deleteIdentificationServiceArea_ok h
        exact hdb ▸ untouched_deleteIdentificationServiceAreaRows (fun he => hi (congrArg some he)) owner d)
      (Untouched.refl d)

end Call

theorem untouched_foldl : ∀ (more : List Step) (d : Db),
    (∀ st ∈ more, st.call.subscriptionId ≠ some sid) → (∀ st ∈ more, st.call.isaId ≠ some iid) →
      Untouched sid iid d (more.foldl (fun d st => (st.run d).state.db) d)
  | [], d, _, _ => Untouched.refl d
  | st :: more, _, hs, hi =>
    (Call.run_untouched st.call (hs st (List.mem_cons_self _ _))
      (hi st (List.mem_cons_self _ _))).trans
      (untouched_foldl more _ (fun st h => hs st (List.mem_cons_of_mem _ h))
        fun st h => hi st (List.mem_cons_of_mem _ h))

/-- **Over a run, the rows of a subscription or an ISA change only at the calls that name it.** -/
theorem replay_untouched (steps more : List Step)
    (hs : ∀ st ∈ more, st.call.subscriptionId ≠ some sid)
    (hi : ∀ st ∈ more, st.call.isaId ≠ some iid) :
    Untouched sid iid (replay steps) (replay (steps ++ more)) := by
  unfold replay
  rw [List.foldl_append]
  exact untouched_foldl more _ hs hi

/-- `x` of owner `a`, inserted at timestamp 1. -/
def insertX : Step := ⟨.insertSubscription ⟨"x", "a", none, 0, "", none, none⟩ [], 1, []⟩

/-- `y` of owner `b`, inserted at timestamp 2 and deleted at 3. -/
def churnY : List Step :=
  [⟨.insertSubscription ⟨"y", "b", none, 0, "", none, none⟩ [], 2, []⟩,
   ⟨.deleteSubscription "y" "", 3, []⟩]

theorem replay_untouched_churnY :
    (∀ st ∈ churnY, st.call.subscriptionId ≠ some "x") ∧
      (∀ st ∈ churnY, st.call.isaId ≠ some "i") ∧
      Untouched "x" "i" (replay [insertX]) (replay ([insertX] ++ churnY)) :=
  have hs : ∀ st ∈ churnY, st.call.subscriptionId ≠ some "x" := by decide
  have hi : ∀ st ∈ churnY, st.call.isaId ≠ some "i" := by decide
  ⟨hs, hi, replay_untouched [insertX] churnY hs hi⟩

end ProtoStore
end DssStore
