import DssStore.ProtoStore.Subscriptions

/-!
# What the older store's subscription operations do to their callers

`DssStore.ProtoStore.Subscriptions` says what each successful operation did.  Three things its
callers see follow from it, none of them what the newer store does:

* **an insert whose `Begins` `ptypes` refuses still succeeds, with neither time**
  (`insertSubscription_drops_times`): `applyProtobuf` stops at the refused timestamp before it
  reaches `Expires`, and `insertSubscription` drops its error;
* **an update's row belongs to whoever sent it** (`updateSubscription_owner`): the row is read by
  id alone, and the caller's owner is overlaid on it;
* **an update never deletes a cell row** (`updateSubscription_keeps_cells`): where the newer store
  sweeps the cells the subscription no longer has, the Go leaves a `TODO`.

The search returns every subscription of its owner, whatever the cells, as the newer store's
does: `searchSubscriptions_ok`, from `subscriptionsInCells_eq`.
-/

set_option autoImplicit false

namespace DssStore
namespace ProtoStore

variable {d : Db} {now : Int} {fs : List Bool} {c' : Conn Db}

/-! ## The row a read by id finds -/

/-- The row a read by id found, scanned, is a stored row of that id. -/
theorem scan_selectSubscriptionByID {id : String} {d : Db} {sr : SubscriptionsRow}
    (h : (queryRow (selectSubscriptionByID id d) >>= SubscriptionsRow.scan) = .ok sr) :
    sr.values sr.updatedAt ∈ d.subscriptions ∧ sr.id = id := by
  rcases hsel : selectSubscriptionByID id d with _ | ⟨t, rest⟩ <;>
    simp only [hsel, queryRow, bind, Except.bind, reduceCtorEq] at h
  have ht : t ∈ selectSubscriptionByID id d := hsel ▸ List.mem_cons_self _ _
  obtain ⟨ht, hid⟩ := List.mem_filter.mp ht
  rw [SubscriptionsRow.values_of_scan h] at ht hid
  exact ⟨ht, by simpa [SubscriptionsRow.values] using hid⟩

/-! ## Inserting -/

/-- **An insert whose `Begins` `ptypes` refuses stores neither time**, whatever `Expires` was: the
answer carries neither, and the row it stored has `begins_at` and `expires_at` NULL. -/
theorem insertSubscription_drops_times {s : Dspb.Subscription} {cells : List CellID}
    {r : Dspb.Subscription} {ts : Timestamp} {e : Err} (hb : s.begins = some ts)
    (he : Ptypes.validateTimestamp (some ts) = some e)
    (h : insertSubscription s cells (Conn.start d now fs) = .ok r c') :
    r.begins = none ∧ r.expires = none ∧
      ∃ t ∈ c'.db.subscriptions, t.id = r.id ∧ t.beginsAt = none ∧ t.expiresAt = none := by
  obtain ⟨d₁, hins, hcells, hp⟩ := insertSubscription_ok h
  obtain ⟨sr, happly, hb', he'⟩ := SubscriptionsRow.applyProtobuf_of_begins_refused hb he .zero
  have hstate : (SubscriptionsRow.applyProtobuf s .zero).state = sr := by rw [happly]; rfl
  rw [hstate] at hins hcells hp
  obtain ⟨-, rfl⟩ := insertSubscriptionTuple_ok hins
  have hmem : (sr.values now).stored ∈ c'.db.subscriptions := by
    rw [writeCells_subscriptions (fun _ _ _ _ _ => insertCellSubscription_subscriptions) hcells]
    exact List.mem_cons_self _ _
  have hnone : sr.beginsAt = none ∧ sr.expiresAt = none := ⟨hb', he'⟩
  rw [SubscriptionsRow.toProtobuf_eq hp]
  simp only [SubscriptionsRow.values_stored, SubscriptionsRow.stored, hnone] at hmem ⊢
  exact ⟨rfl, rfl, _, hmem, rfl, rfl, rfl⟩

/-- `x` of owner `a`, whose `Begins` is a nanosecond short of a whole second. -/
def refusedBegins : Dspb.Subscription := ⟨"x", "a", some ⟨"u"⟩, 0, "", some ⟨5, -1⟩, some ⟨10, 0⟩⟩

/-- `refusedBegins` inserted into empty tables: the answer and the stored row have no times. -/
theorem insertSubscription_drops_times_refusedBegins :
    ∃ r c, insertSubscription refusedBegins [] (Conn.start ⟨[], [], [], []⟩ 1 []) = .ok r c ∧
      r.begins = none ∧ r.expires = none ∧
        ∃ t ∈ c.db.subscriptions, t.id = r.id ∧ t.beginsAt = none ∧ t.expiresAt = none := by
  obtain ⟨r, c, h⟩ : ∃ r c,
      insertSubscription refusedBegins [] (Conn.start ⟨[], [], [], []⟩ 1 []) = .ok r c :=
    ⟨_, _, rfl⟩
  exact ⟨r, c, h, insertSubscription_drops_times (by rfl) (by rfl) h⟩

/-! ## Updating -/

/-- **An update's row belongs to whoever sent it.**  The row it read by id keeps its id, and takes
the caller's owner whenever the caller sent one; the answer is the row it stored. -/
theorem updateSubscription_owner {s : Dspb.Subscription} {cells : List CellID}
    {r : Dspb.Subscription} (h : updateSubscription s cells (Conn.start d now fs) = .ok r c') :
    r.id = s.id ∧ (s.owner ≠ "" → r.owner = s.owner) ∧
      ∃ t ∈ c'.db.subscriptions, t.id = r.id ∧ t.owner = r.owner := by
  obtain ⟨sr, d₁, hscan, -, hup, hcells, hp⟩ := updateSubscription_ok h
  have hid := (scan_selectSubscriptionByID hscan).2
  obtain ⟨-, rfl⟩ := upsertSubscriptionTuple_ok hup
  have hmem : ((SubscriptionsRow.applyProtobuf s sr).state.values now).stored ∈
      c'.db.subscriptions := by
    rw [writeCells_subscriptions (fun _ _ _ _ _ => upsertCellSubscription_subscriptions) hcells]
    exact List.mem_cons_self _ _
  obtain ⟨b, e, hstate, -, -⟩ := SubscriptionsRow.applyProtobuf_state s sr
  rw [SubscriptionsRow.toProtobuf_eq hp]
  refine ⟨?_, fun hne => ?_, _, hmem, rfl, rfl⟩
  · rw [hstate]
    by_cases hs : s.id ≠ "" <;> simp [hs, hid, SubscriptionsRow.stored]
  · rw [hstate]
    simp [hne, SubscriptionsRow.stored]

/-- A table holding `x` of owner `a`, at timestamp 1, indexed under cell 42. -/
def ownedByA : Db :=
  ⟨[⟨"x", "a", "u", none, some 0, none, none, none, 1⟩], [⟨42, 13, "x", 1⟩], [], []⟩

/-- `b` updates `x`, which `a` owns, and the row becomes `b`'s. -/
theorem updateSubscription_owner_ownedByA :
    ∃ r c, updateSubscription ⟨"x", "b", none, 0, "", none, none⟩ [] (Conn.start ownedByA 2 []) =
      .ok r c ∧ r.id = "x" ∧ ("b" ≠ "" → r.owner = "b") ∧
        ∃ t ∈ c.db.subscriptions, t.id = r.id ∧ t.owner = r.owner := by
  obtain ⟨r, c, h⟩ : ∃ r c, updateSubscription ⟨"x", "b", none, 0, "", none, none⟩ []
      (Conn.start ownedByA 2 []) = .ok r c := ⟨_, _, rfl⟩
  exact ⟨r, c, h, updateSubscription_owner h⟩

/-- The cell rows of `d'` include one of each key `(cell_id, subscription_id)` of `d`. -/
def KeepsCells (d d' : Db) : Prop :=
  ∀ q ∈ d.cellsSubscriptions, ∃ q' ∈ d'.cellsSubscriptions,
    q'.cellId = q.cellId ∧ q'.subscriptionId = q.subscriptionId

theorem upsertCellSubscription_keepsCells {q : CellSubscriptionTuple} {d d' : Db}
    (h : upsertCellSubscription q d = .ok d') : KeepsCells d d' := by
  rw [upsertCellSubscription_ok h]
  intro x hx
  by_cases hkey : (x.cellId, x.subscriptionId) = (q.cellId, q.subscriptionId)
  · obtain ⟨h₁, h₂⟩ := Prod.mk.inj hkey
    exact ⟨q, List.mem_cons_self _ _, h₁.symm, h₂.symm⟩
  · exact ⟨x, List.mem_cons_of_mem _ (List.mem_filter.mpr ⟨hx, decide_eq_true hkey⟩), rfl, rfl⟩

/-- **An update never deletes a cell row**: every `(cell_id, subscription_id)` of the cell index
before it is there after it. -/
theorem updateSubscription_keeps_cells {s : Dspb.Subscription} {cells : List CellID}
    {r : Dspb.Subscription} (h : updateSubscription s cells (Conn.start d now fs) = .ok r c') :
    KeepsCells d c'.db := by
  obtain ⟨sr, d₁, -, -, hup, hcells, -⟩ := updateSubscription_ok h
  obtain ⟨-, rfl⟩ := upsertSubscriptionTuple_ok hup
  have hkeep := writeCells_rel KeepsCells (fun _ q hq => ⟨q, hq, rfl, rfl⟩)
    (fun h₁ h₂ q hq => by
      obtain ⟨q₁, hq₁, hc₁, hs₁⟩ := h₁ q hq
      obtain ⟨q₂, hq₂, hc₂, hs₂⟩ := h₂ q₁ hq₁
      exact ⟨q₂, hq₂, hc₂.trans hc₁, hs₂.trans hs₁⟩)
    (fun _ _ _ _ _ => upsertCellSubscription_keepsCells) hcells
  exact hkeep

/-- An update of `x` with no cells keeps its cell row. -/
theorem updateSubscription_keeps_cells_ownedByA :
    ∃ r c, updateSubscription ⟨"x", "a", none, 0, "", none, none⟩ [] (Conn.start ownedByA 2 []) =
      .ok r c ∧ KeepsCells ownedByA c.db := by
  obtain ⟨r, c, h⟩ : ∃ r c, updateSubscription ⟨"x", "a", none, 0, "", none, none⟩ []
      (Conn.start ownedByA 2 []) = .ok r c := ⟨_, _, rfl⟩
  exact ⟨r, c, h, updateSubscription_keeps_cells h⟩

end ProtoStore
end DssStore
