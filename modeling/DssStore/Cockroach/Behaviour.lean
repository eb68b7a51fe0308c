import DssStore.Cockroach.Optimistic

/-!
# What the operations return

The results of `DssStore.Cockroach.Spec` say what a successful operation did; put together with
the query semantics of `DssStore.Cockroach.Tables` and the cell encodings of `DssStore.Cell`, they
pin down behaviours the operations' callers see, several of them unlike what their names
promise:

* `SearchSubscriptions` returns **every** subscription of the owner, whatever the cells
  (`searchSubscriptions_eq_owned`): its `LEFT JOIN` filters nothing, and no condition of its
  `WHERE` clause looks at the joined cells;
* it fails outright, with the driver's error, on a cell union holding a cell of face 4 or 5
  (`searchSubscriptions_error_of_high`), cells the write path indexes without complaint;
* an update whose overlay leaves the cells unset empties the subscription's cell index
  (`updateSubscription_nil_cells`): the old entity it overlays is read from `subscriptions`
  alone, so it has no cells to keep;
* a delete with an empty version never succeeds (`deleteSubscription_empty_version`); on a
  stored row it fails with the version error (`deleteSubscription_error_of_empty_version`);
* an insert whose push fails returns without ending its transaction.

Each general result is followed by a run on which it shows, derived from it.
-/

set_option autoImplicit false

namespace DssStore
namespace Cockroach

variable {d : Db} {now : Int} {fs : List Bool} {c' : Conn Db}

/-- A subscription `x` of owner `a`, indexed under the cells `cells`, as a client first sends it. -/
def entityX (cells : List CellID) : Subscription :=
  ⟨"x", "u", 0, "a", some cells, none, none, none⟩

/-- The tables after `x` was inserted with `cells`, at timestamp 1. -/
def tablesX (cells : List CellID) : Db :=
  (replay [⟨.insertSubscription (entityX cells), 1, []⟩]).db

/-! ## Searching -/

/-- The array `pq.Array` encodes a cell union into, when it can: exactly the `int64`s of the
cells, all of which are below `2^63`. -/
theorem cellUnionArray_ok : ∀ {cells : List CellID} {arr : List Int},
    cellUnionArray cells = .ok arr → ∀ c ∈ cells, c.toNat < 2 ^ 63
  | [], _, _ => fun _ h => nomatch h
  | c :: cells, arr, h => by
    simp only [cellUnionArray, List.mapM_cons] at h
    cases hc : CellID.driverValue c with
    | error e => rw [hc] at h; cases h
    | ok v =>
      rw [hc] at h
      cases hrest : cellUnionArray cells with
      | error e => simp only [cellUnionArray] at hrest; rw [hrest] at h; cases h
      | ok vs =>
        intro c' hc'
        rcases List.mem_cons.mp hc' with rfl | hc'
        · by_contra hlt
          rw [driverValue_high (Nat.le_of_not_lt hlt)] at hc
          cases hc
        · exact cellUnionArray_ok hrest c' hc'

/-- Cells all below `2^63` are bound as their `int64`s. -/
theorem cellUnionArray_of_low : ∀ {cells : List CellID}, (∀ c ∈ cells, c.toNat < 2 ^ 63) →
    cellUnionArray cells = .ok (cells.map CellID.toInt64)
  | [], _ => rfl
  | c :: cells, h => by
    have ih := cellUnionArray_of_low fun c' hc' => h c' (List.mem_cons_of_mem _ hc')
    simp only [cellUnionArray] at ih ⊢
    rw [List.mapM_cons, driverValue_eq_int64 (h c (List.mem_cons_self _ _)), ih]
    rfl

/-- One cell from `2^63` up anywhere in the union makes `pq.Array` fail with the driver's error. -/
theorem cellUnionArray_error_of_high {c : CellID} (hhigh : 2 ^ 63 ≤ c.toNat) :
    ∀ {cells : List CellID}, c ∈ cells →
      cellUnionArray cells = .error (.driver "uint64 values with high bit set are not supported")
  | c' :: cells, hc => by
    simp only [cellUnionArray, List.mapM_cons]
    by_cases h' : 2 ^ 63 ≤ c'.toNat
    · rw [driverValue_high h']
      rfl
    · have hrest : c ∈ cells := (List.mem_cons.mp hc).resolve_left fun h => h' (h ▸ hhigh)
      have ih := cellUnionArray_error_of_high hhigh hrest
      simp only [cellUnionArray] at ih
      rw [CellID.driverValue, if_neg h', ih]
      rfl

/-- **A successful search returns every subscription of the owner**, as it stands in the tables,
whatever cells it was asked about. -/
theorem searchSubscriptions_eq_owned {cells : List CellID} {owner : String}
    {subs : List Subscription} (h : searchSubscriptions cells owner (Conn.start d now fs) = .ok subs c') :
    subs = (d.subscriptions.filter fun x => x.owner = owner).map SubscriptionRow.toModel := by
  obtain ⟨-, arr, -, rfl, -⟩ := searchSubscriptions_ok h
  rw [selectJoinedCells_eq]

/-- The search's read, run forwards on the array its cells give. -/
theorem fetchJoined_healthy {c : Conn Db} (owner : String) (arr : Except Err (List Int))
    (ha : c.phase = .active) (hf : c.faults = []) :
    attempt (fetchSubscriptions arr fun arr _ d =>
        .ok (selectJoinedCells (some arr) (fun s => s.owner = owner) d, d)) c =
      match arr with
      | .ok _ => .ok (.ok ((c.view.subscriptions.filter fun x => x.owner = owner).map
          SubscriptionRow.toModel)) { (c.log .statement).trip with view := c.view }
      | .error e => .ok (.error e) (c.log .statement) := by
  cases arr <;> simp [attempt, fetchSubscriptions, statement, bind_apply, ha, hf, Conn.fails,
    selectJoinedCells_eq]

/-- With a backend that fails no round trip, a search of cells all below `2^63` answers every
subscription of the owner. -/
theorem searchSubscriptions_healthy {cells : List CellID} {owner : String} (hne : cells ≠ [])
    (hlow : ∀ c ∈ cells, c.toNat < 2 ^ 63) :
    ∃ c, searchSubscriptions cells owner (Conn.start d now []) =
      .ok ((d.subscriptions.filter fun x => x.owner = owner).map SubscriptionRow.toModel) c ∧
      c.db = d := by
  obtain ⟨c₁, hb, ha₁, hf₁, hv₁, -, -⟩ := begin_start_healthy d now
  have hfetch := fetchJoined_healthy owner (cellUnionArray cells) ha₁ hf₁
  rw [cellUnionArray_of_low hlow, hv₁] at hfetch
  unfold searchSubscriptions
  rw [if_neg (mt List.length_eq_zero.mp hne), cellUnionArray_of_low hlow]
  refine ⟨_, (bind_of_ok (pure_apply () _)).trans ((bind_of_ok hb).trans ((bind_of_ok hfetch).trans
    ((bind_of_ok (pure_apply _ _)).trans
      ((bind_of_ok (commit_healthy (by simpa using ha₁) (by simp [hf₁]))).trans rfl)))), rfl⟩

set_option maxRecDepth 1000 in
/-- A search for cell 7 finds `x`, whose only cell is 42. -/
theorem search_returns_subscription_outside_cells :
    cellKeys "x" (tablesX [42]) = [42] ∧
      ∃ c, searchSubscriptions [7] "a" (Conn.start (tablesX [42]) 2 []) =
        .ok [⟨"x", "u", 0, "a", none, none, none, some 1⟩] c :=
  ⟨by decide, (searchSubscriptions_healthy (List.cons_ne_nil _ _) (by decide)).imp
    fun _ h => h.1.trans rfl⟩

/-- **A search fails on a cell of face 4 or 5**: the driver refuses every `uint64` from `2^63`
up. -/
theorem searchSubscriptions_ne_ok_of_high {cells : List CellID} {owner : String}
    {subs : List Subscription} {c : CellID} (hc : c ∈ cells) (hhigh : 2 ^ 63 ≤ c.toNat) :
    searchSubscriptions cells owner (Conn.start d now fs) ≠ .ok subs c' := fun h => by
  obtain ⟨-, arr, harr, -⟩ := searchSubscriptions_ok h
  exact absurd hhigh (Nat.not_le.mpr (cellUnionArray_ok harr c hc))

/-- With a backend that fails no round trip, such a search rolls back with the driver's error. -/
theorem searchSubscriptions_error_of_high {cells : List CellID} {owner : String} {c : CellID}
    (hc : c ∈ cells) (hhigh : 2 ^ 63 ≤ c.toNat) :
    ∃ c', searchSubscriptions cells owner (Conn.start d now []) =
      .error (.driver "uint64 values with high bit set are not supported") c' ∧ c'.db = d := by
  obtain ⟨c₁, hb, ha₁, hf₁, -, hd₁, -⟩ := begin_start_healthy d now
  have hfetch := fetchJoined_healthy owner (cellUnionArray cells) ha₁ hf₁
  rw [cellUnionArray_error_of_high hhigh hc] at hfetch
  unfold searchSubscriptions
  rw [if_neg (mt List.length_eq_zero.mp (List.ne_nil_of_mem hc)),
    cellUnionArray_error_of_high hhigh hc]
  exact ⟨_, (bind_of_ok (pure_apply () _)).trans ((bind_of_ok hb).trans ((bind_of_ok hfetch).trans
    (bind_of_error (rollbackWith_healthy ha₁ hf₁)))), hd₁⟩

/-- The level-0 cell of face 4: a valid cell whose id is `2^63 + 2^60`. -/
def faceFourCell : CellID := 0x9000000000000000

/-- `x` inserted under the face-4 cell is indexed under its `int64`, and a search of that cell
fails with the driver's error. -/
theorem search_refuses_face_four_cell :
    faceFourCell.isValid = true ∧
      cellKeys "x" (tablesX [faceFourCell]) = [faceFourCell.toInt64] ∧
      ∃ c, searchSubscriptions [faceFourCell] "a" (Conn.start (tablesX [faceFourCell]) 2 []) =
        .error (.driver "uint64 values with high bit set are not supported") c :=
  ⟨by decide, by decide,
    (searchSubscriptions_error_of_high (List.mem_singleton_self _) (by decide)).imp fun _ h => h.1⟩

/-! ## Updating -/

/-- **An update that leaves the cells unset empties the cell index** of the subscription:
`old.Apply(s)` keeps the cells of `old`, and `old` was read without any. -/
theorem updateSubscription_nil_cells {s r : Subscription} (hs : s.cells = none)
    (h : updateSubscription s (Conn.start d now fs) = .ok r c') : cellKeys s.id c'.db = [] := by
  obtain ⟨old, hsel, -, hpush, -⟩ := updateSubscription_ok h
  obtain ⟨-, hoid, -⟩ := mem_of_selectByIDAndOwner_eq hsel
  have hcells : (old.toModel.apply s).cellList = [] := by
    simp [Subscription.cellList, Subscription.apply, hs, SubscriptionRow.toModel]
  have hid : (old.toModel.apply s).id = s.id := by simp [hoid]
  refine List.eq_nil_iff_forall_not_mem.mpr fun cid hcid => ?_
  rw [← hid, mem_cellKeys_pushTables hpush, hcells] at hcid
  exact List.not_mem_nil _ hcid

/-- An overlay of `x` that changes only its url, at its current version. -/
def overlayX : Subscription := ⟨"x", "v", 0, "a", none, none, none, some 100⟩

/-- `x`, inserted with cell 42 at timestamp 100, then updated at 200 by `overlayX`. -/
def overlayRun : List Step :=
  [⟨.insertSubscription (entityX [42]), 100, []⟩, ⟨.updateSubscription overlayX, 200, []⟩]

/-- Both steps of `overlayRun` commit, and `x`, indexed under 42 before the update, is indexed
under nothing after it. -/
theorem update_overlay_drops_cells :
    (replay overlayRun).committed = overlayRun ∧
      cellKeys "x" (replay (overlayRun.take 1)).db = [42] ∧
      cellKeys "x" (replay overlayRun).db = [] := by
  obtain ⟨r, c, h⟩ : ∃ r c, Step.run ⟨.updateSubscription overlayX, 200, []⟩
      (replay [⟨.insertSubscription (entityX [42]), 100, []⟩]).db = .ok r c := ⟨_, _, rfl⟩
  have hdb : (replay overlayRun).db = c.db := congrArg History.db (History.step_of_ok h)
  exact ⟨by decide, by decide, hdb ▸ updateSubscription_nil_cells rfl h⟩

/-! ## Deleting -/

/-- **A delete with an empty version never succeeds**: every stored row has a version, and it is
never empty. -/
theorem deleteSubscription_empty_version {id owner : String} {r : Subscription} :
    deleteSubscription id owner "" (Conn.start d now fs) ≠ .ok r c' := fun h => by
  obtain ⟨old, -, hver, -⟩ := deleteSubscription_ok h
  exact timestampToVersionString_ne_empty old.updatedAt hver.symm

/-- With a backend that fails no round trip, a delete with an empty version of a stored row
rolls back with the version error. -/
theorem deleteSubscription_error_of_empty_version {id owner : String} {x : SubscriptionRow}
    (hsel : selectByIDAndOwner id owner d = [x]) :
    ∃ c, deleteSubscription id owner "" (Conn.start d now []) =
      .error (.message ("version mismatch for subscription " ++ id)) c ∧ c.db = d := by
  obtain ⟨c₁, hb, ha₁, hf₁, hv₁, hd₁, -⟩ := begin_start_healthy d now
  obtain ⟨c₂, hfetch, -, hc₂, hf₂⟩ := fetchSubscriptionByIDAndOwner_healthy ha₁ hf₁ (hv₁ ▸ hsel)
  have hne : "" ≠ x.toModel.version := fun h => timestampToVersionString_ne_empty _ h.symm
  refine ⟨{ (c₂.log .rollback).trip with phase := .done },
    (bind_of_ok hb).trans ((bind_of_ok hfetch).trans ?_), hc₂.db.trans hd₁⟩
  simp only [if_pos hne]
  exact bind_of_error (rollbackWith_healthy hc₂.active hf₂)

/-- A forced delete of `x` by its owner fails with the version error and changes nothing. -/
theorem forced_delete_refused :
    selectByIDAndOwner "x" "a" (tablesX [42]) ≠ [] ∧
      ∃ c, deleteSubscription "x" "a" "" (Conn.start (tablesX [42]) 2 []) =
        .error (.message "version mismatch for subscription x") c ∧ c.db = tablesX [42] := by
  obtain ⟨x, hx⟩ : ∃ x, selectByIDAndOwner "x" "a" (tablesX [42]) = [x] := ⟨_, rfl⟩
  exact ⟨by simp [hx], deleteSubscription_error_of_empty_version hx⟩

/-! ## Ending the transaction -/

/-- An insert whose upsert of the row fails — the third round trip — returns the backend's error
with its transaction still open: `Begin` and two statements, and neither `Commit` nor
`Rollback`. -/
theorem insert_push_failure_leaves_tx_open :
    ∃ c, insertSubscription (entityX [42]) (Conn.start Db.empty 1 [false, false, true]) =
      .error .backend c ∧ c.phase = .active ∧ c.events = [.begin, .statement, .statement] :=
  ⟨_, rfl, rfl, rfl⟩

end Cockroach
end DssStore
