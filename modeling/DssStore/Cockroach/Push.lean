import DssStore.Cockroach.Tables

/-!
# What a push and a delete do to the tables

`pushSubscription` writes a subscription in three statements: the upsert of its row, which the
table's `CHECK` can refuse, one upsert per cell into the cell index, and the sweep
`DELETE … WHERE cell_id != ALL($1) AND subscription_id = $2` of the subscription's other cell
rows.  `pushTables` is their composition
over the tables; `DssStore.Cockroach.Spec` proves that a successful `pushSubscription` does
exactly it.

This module says what `pushTables` and `deleteSubscriptionRow` do, in terms of the cell rows of
one subscription (`cellsOf`) and their cell ids (`cellKeys`):

* a push of `p` leaves every other subscription's row and cell rows as they were
  (`pushTables_subscriptions`, `cellsOf_pushTables_of_ne`), and leaves `p`'s cell ids exactly the
  ids of `p`'s cells (`mem_cellKeys_pushTables`): each upsert adds its cell, and the sweep removes
  every cell not among them, so whatever the index held for `p.id` before is gone;
* a delete removes the row and, by the cascade, exactly its cell rows.
-/

set_option autoImplicit false

namespace DssStore
namespace Cockroach

variable {d d' : Db}

/-! ## The cell rows of one subscription -/

/-- The rows of `cells_subscriptions` that name subscription `id`. -/
def cellsOf (id : String) (d : Db) : List CellRow :=
  d.cellsSubscriptions.filter fun q => q.subscriptionId = id

/-- The cell ids the index holds for subscription `id`. -/
def cellKeys (id : String) (d : Db) : List Int :=
  (cellsOf id d).map CellRow.cellId

@[simp] theorem mem_cellsOf {id : String} {q : CellRow} :
    q ∈ cellsOf id d ↔ q ∈ d.cellsSubscriptions ∧ q.subscriptionId = id := by
  simp [cellsOf]

theorem mem_cellKeys {id : String} {cid : Int} :
    cid ∈ cellKeys id d ↔ ∃ q ∈ d.cellsSubscriptions, q.subscriptionId = id ∧ q.cellId = cid := by
  simp [cellKeys, and_assoc]

theorem cellKeys_congr {id : String} (h : cellsOf id d' = cellsOf id d) :
    cellKeys id d' = cellKeys id d := by
  rw [cellKeys, h, cellKeys]

/-! ## The statements of a push -/

/-- An upsert of a subscription row that the `CHECK` accepted replaced the row of its key. -/
theorem upsertSubscriptionRow_ok {r : SubscriptionRow} (h : upsertSubscriptionRow r d = .ok d') :
    r.check = true ∧
      d' = { d with subscriptions := r :: d.subscriptions.filter fun q => q.id ≠ r.id } := by
  by_cases hc : r.check = true <;> simp [upsertSubscriptionRow, hc] at h ⊢
  exact h.symm

theorem upsertSubscriptionRow_of_check {r : SubscriptionRow} (hc : r.check = true) :
    upsertSubscriptionRow r d =
      .ok { d with subscriptions := r :: d.subscriptions.filter fun q => q.id ≠ r.id } := by
  simp [upsertSubscriptionRow, hc]

@[simp] theorem deleteLeftOverCells_subscriptions (cids : Option (List Int)) (id : String) :
    (deleteLeftOverCells cids id d).subscriptions = d.subscriptions := rfl

/-- An upsert of a cell row that the schema accepted: the level was in range, the subscription
existed, and the row replaced the one with its key. -/
theorem upsertCellRow_ok {r : CellRow} (h : upsertCellRow r d = .ok d') :
    d' = { d with cellsSubscriptions := r :: d.cellsSubscriptions.filter fun q =>
      ¬(q.cellId = r.cellId ∧ q.subscriptionId = r.subscriptionId) } ∧
    (0 ≤ r.cellLevel ∧ r.cellLevel ≤ 30) ∧ ∃ q ∈ d.subscriptions, q.id = r.subscriptionId := by
  unfold upsertCellRow at h
  split at h
  · cases h
  rename_i hlevel
  split at h
  · cases h
  rename_i howner
  cases h
  push_neg at howner
  exact ⟨rfl, not_not.mp hlevel, howner⟩

theorem cellsOf_upsertCellRow_of_ne {r : CellRow} {x : String} (h : upsertCellRow r d = .ok d')
    (hx : x ≠ r.subscriptionId) : cellsOf x d' = cellsOf x d := by
  obtain ⟨rfl, -⟩ := upsertCellRow_ok h
  simp only [cellsOf, List.filter_cons, List.filter_filter]
  rw [if_neg (by simpa using hx.symm)]
  congr 1
  funext q
  by_cases hq : q.subscriptionId = x
  · simp [hq, hx]
  · simp [hq]

theorem mem_cellKeys_upsertCellRow {r : CellRow} {cid : Int} (h : upsertCellRow r d = .ok d') :
    cid ∈ cellKeys r.subscriptionId d' ↔ cid ∈ cellKeys r.subscriptionId d ∨ cid = r.cellId := by
  obtain ⟨rfl, -⟩ := upsertCellRow_ok h
  simp only [mem_cellKeys, List.mem_cons, List.mem_filter, decide_eq_true_eq]
  constructor
  · rintro ⟨q, rfl | ⟨hq, -⟩, hid, rfl⟩
    · exact .inr rfl
    · exact .inl ⟨q, hq, hid, rfl⟩
  · rintro (⟨q, hq, hid, rfl⟩ | rfl)
    · by_cases hk : q.cellId = r.cellId
      · exact ⟨r, .inl rfl, rfl, hk.symm⟩
      · exact ⟨q, .inr ⟨hq, fun h' => hk h'.1⟩, hid, rfl⟩
    · exact ⟨r, .inl rfl, rfl, rfl⟩

/-- The upserts of cell rows all naming subscription `id`, one after the other: the rows of every
other subscription stay, and `id` gains the cell ids of the rows. -/
theorem foldlM_upsertCellRow {id : String} :
    ∀ {rows : List CellRow} {d d' : Db}, (∀ r ∈ rows, r.subscriptionId = id) →
      rows.foldlM (fun d r => upsertCellRow r d) d = .ok d' →
      d'.subscriptions = d.subscriptions ∧ (∀ x ≠ id, cellsOf x d' = cellsOf x d) ∧
        ∀ cid, cid ∈ cellKeys id d' ↔ cid ∈ cellKeys id d ∨ cid ∈ rows.map CellRow.cellId
  | [], d, d', _, h => by
    cases h
    exact ⟨rfl, fun _ _ => rfl, fun _ => by simp⟩
  | r :: rows, d, d', hrows, h => by
    rw [List.foldlM_cons] at h
    cases hr : upsertCellRow r d with
    | error e => rw [hr] at h; cases h
    | ok d₁ =>
      rw [hr] at h
      have hid : r.subscriptionId = id := hrows r (List.mem_cons_self _ _)
      obtain ⟨hsubs, hcells, hkeys⟩ :=
        foldlM_upsertCellRow (fun q hq => hrows q (List.mem_cons_of_mem _ hq)) h
      refine ⟨by rw [hsubs, (upsertCellRow_ok hr).1], fun x hx => ?_, fun cid => ?_⟩
      · rw [hcells x hx, cellsOf_upsertCellRow_of_ne hr (hid ▸ hx)]
      · rw [hkeys, ← hid, mem_cellKeys_upsertCellRow hr, hid]
        simp only [List.map_cons, List.mem_cons]
        tauto

theorem cellsOf_deleteLeftOverCells_of_ne {cids : Option (List Int)} {id x : String}
    (hx : x ≠ id) : cellsOf x (deleteLeftOverCells cids id d) = cellsOf x d := by
  simp only [cellsOf, deleteLeftOverCells, List.filter_filter]
  congr 1
  funext q
  by_cases hq : q.subscriptionId = x
  · simp [hq, hx]
  · simp [hq]

theorem mem_cellKeys_deleteLeftOverCells {cids : List Int} {id : String} {cid : Int} :
    cid ∈ cellKeys id (deleteLeftOverCells (some cids) id d) ↔ cid ∈ cellKeys id d ∧ cid ∈ cids := by
  simp only [mem_cellKeys, deleteLeftOverCells, List.mem_filter, Sql.allNe_eq_true,
    Option.some.injEq, exists_eq_left', decide_eq_true_eq]
  constructor
  · rintro ⟨q, ⟨hq, hkeep⟩, hid, rfl⟩
    exact ⟨⟨q, hq, hid, rfl⟩, not_not.mp fun hout => hkeep ⟨hout, hid⟩⟩
  · rintro ⟨⟨q, hq, hid, rfl⟩, hin⟩
    exact ⟨q, ⟨hq, fun h => h.1 hin⟩, hid, rfl⟩

/-! ## A push -/

/-- The cell rows `pushSubscription` upserts for `s`, in order. -/
def cellRows (s : Subscription) : List CellRow :=
  s.cellList.map fun c => ⟨c.toInt64, c.level, s.id⟩

/-- What `pushSubscription s` does to the tables at timestamp `now`: upsert the row, upsert the
cell rows one after the other, then delete the subscription's cell rows for other cells. -/
def pushTables (s : Subscription) (now : Int) (d : Db) : Except Err Db := do
  let d ← upsertSubscriptionRow (upsertedRow s now) d
  let d ← (cellRows s).foldlM (fun d r => upsertCellRow r d) d
  return deleteLeftOverCells (some (s.cellList.map CellID.toInt64)) s.id d

section Push

variable {p : Subscription} {now : Int}

/-- A push that went through: the tables after the upserts, before the sweep. -/
theorem pushTables_ok (h : pushTables p now d = .ok d') :
    ∃ d₀ d₁, upsertSubscriptionRow (upsertedRow p now) d = .ok d₀ ∧
      (cellRows p).foldlM (fun d r => upsertCellRow r d) d₀ = .ok d₁ ∧
      d' = deleteLeftOverCells (some (p.cellList.map CellID.toInt64)) p.id d₁ := by
  unfold pushTables at h
  rcases hu : upsertSubscriptionRow (upsertedRow p now) d with e | d₀ <;>
    simp only [hu, bind, Except.bind] at h
  · cases h
  rcases hf : (cellRows p).foldlM (fun d r => upsertCellRow r d) d₀ with e | d₁ <;>
    simp only [hf, pure, Except.pure] at h
  · cases h
  · exact ⟨d₀, d₁, rfl, hf, (Except.ok.inj h).symm⟩

theorem cellRows_subscriptionId : ∀ r ∈ cellRows p, r.subscriptionId = p.id := by
  simp [cellRows]

/-- **A push rewrites the row of its id**, and only that row. -/
theorem pushTables_subscriptions (h : pushTables p now d = .ok d') :
    d'.subscriptions = upsertedRow p now :: d.subscriptions.filter fun q => q.id ≠ p.id := by
  obtain ⟨d₀, d₁, hu, hf, rfl⟩ := pushTables_ok h
  rw [deleteLeftOverCells_subscriptions, (foldlM_upsertCellRow cellRows_subscriptionId hf).1,
    (upsertSubscriptionRow_ok hu).2]
  rfl

/-- A push leaves the row of every other id as it was. -/
theorem selectByID_pushTables_of_ne {x : String} (h : pushTables p now d = .ok d') (hx : x ≠ p.id) :
    selectByID x d' = selectByID x d := by
  have hp : ¬(upsertedRow p now).id = x := fun h' => hx h'.symm
  simp only [selectByID, pushTables_subscriptions h, List.filter_cons, hp, decide_False,
    List.filter_filter]
  exact List.filter_congr fun q _ => by by_cases hq : q.id = x <;> simp [hq, hx]

/-- A push leaves the cell rows of every other subscription as they were. -/
theorem cellsOf_pushTables_of_ne {x : String} (h : pushTables p now d = .ok d') (hx : x ≠ p.id) :
    cellsOf x d' = cellsOf x d := by
  obtain ⟨d₀, d₁, hu, hf, rfl⟩ := pushTables_ok h
  rw [cellsOf_deleteLeftOverCells_of_ne hx,
    (foldlM_upsertCellRow cellRows_subscriptionId hf).2.1 x hx, (upsertSubscriptionRow_ok hu).2]
  rfl

/-- **After a push the index holds exactly the subscription's cells**: each of their `int64`s,
and nothing else, whatever it held before. -/
theorem mem_cellKeys_pushTables {cid : Int} (h : pushTables p now d = .ok d') :
    cid ∈ cellKeys p.id d' ↔ cid ∈ p.cellList.map CellID.toInt64 := by
  obtain ⟨d₀, d₁, -, hf, rfl⟩ := pushTables_ok h
  have hrows : (cellRows p).map CellRow.cellId = p.cellList.map CellID.toInt64 := by
    rw [cellRows, List.map_map]; rfl
  rw [mem_cellKeys_deleteLeftOverCells, (foldlM_upsertCellRow cellRows_subscriptionId hf).2.2,
    hrows]
  tauto

end Push

/-! ## A delete -/

/-- A delete that found its row removes the rows of `id` and `owner`, and every cell row of `id`. -/
theorem deleteSubscriptionRow_of_ne_nil {id owner : String} (h : selectByIDAndOwner id owner d ≠ []) :
    deleteSubscriptionRow id owner d =
      ⟨d.subscriptions.filter (fun q => ¬(q.id = id ∧ q.owner = owner)),
        d.cellsSubscriptions.filter fun q => q.subscriptionId ≠ id⟩ := by
  rw [deleteSubscriptionRow, if_neg h]

theorem selectByID_deleteSubscriptionRow_of_ne {id owner x : String} (hx : x ≠ id) :
    selectByID x (deleteSubscriptionRow id owner d) = selectByID x d := by
  unfold deleteSubscriptionRow
  split
  · rfl
  · simp only [selectByID, List.filter_filter]
    exact List.filter_congr fun q _ => by by_cases hq : q.id = x <;> simp [hq, hx]

theorem cellsOf_deleteSubscriptionRow_of_ne {id owner x : String} (hx : x ≠ id) :
    cellsOf x (deleteSubscriptionRow id owner d) = cellsOf x d := by
  unfold deleteSubscriptionRow
  split
  · rfl
  · simp only [cellsOf, List.filter_filter]
    congr 1
    funext q
    by_cases hq : q.subscriptionId = x
    · simp [hq, hx]
    · simp [hq]

end Cockroach
end DssStore
