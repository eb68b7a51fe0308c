import DssStore.Cockroach.Runs

/-!
# An insert creates, and never overwrites

`InsertSubscription` reads the id first and refuses it with `AlreadyExists` when a row has it; only
then does it push.  This file says what that gives, on every state a run reaches:

* with a backend that fails no round trip, the insert fails with `AlreadyExists` exactly when a
  subscription has the id, whoever owns it (`insertSubscription_alreadyExists_iff`);
* a failed insert changes nothing, whatever failed;
* with a backend that fails no round trip, an insert of a new id, given as a UUID's text, whose
  row passes the table's `CHECK` and whose cells the schema's `cell_level` check accepts succeeds,
  and adds its row and its cell rows and nothing else (`insertSubscription_fresh`);
* between two inserts of one id, unless a delete of the id comes in between, the second fails
  (`insert_again_fails`).

The third needs its conditions.  A start that does not come before the end, once both are rounded
to microseconds, is refused by the `CHECK`; and an id whose lowest set bit is at position 62, such
as `2^62`, is no valid cell, has `Level()` -1, and the database refuses its cell row: the insert
then fails with the constraint's error (`insert_refused_for_level_out_of_range`).  The id's text
matters because the column is a `UUID`, which the model keeps as text (`Sql.uuidText`).

The first three are proved by running the insert forwards (`insertSubscription_healthy_exists`,
`insertSubscription_healthy_new`), from the forward lemmas for its stages; the fourth from the
inversion lemma `Step.run_ok`.
-/

set_option autoImplicit false

namespace DssStore
namespace Cockroach

/-! ## The stages, run forwards -/

section Forward

variable {c : Conn Db}

theorem fetchSubscription_healthy_one {run : Unit → Int → Db → Except Err (List SubscriptionRow × Db)}
    {r : SubscriptionRow} {v : Db} (ha : c.phase = .active) (hf : c.faults = [])
    (hrun : run () c.now c.view = .ok ([r], v)) :
    fetchSubscription (.ok ()) run c = .ok r.toModel { (c.log .statement).trip with view := v } := by
  unfold fetchSubscription fetchSubscriptions
  rw [bind_assoc, bind_of_ok (statement_healthy ha hf hrun)]
  simp [bind_apply]

theorem fetchSubscription_healthy_none
    {run : Unit → Int → Db → Except Err (List SubscriptionRow × Db)} {v : Db}
    (ha : c.phase = .active) (hf : c.faults = []) (hrun : run () c.now c.view = .ok ([], v)) :
    fetchSubscription (.ok ()) run c = .error .noRows { (c.log .statement).trip with view := v } := by
  unfold fetchSubscription fetchSubscriptions
  rw [bind_assoc, bind_of_ok (statement_healthy ha hf hrun)]
  simp [bind_apply]

/-- The read of `InsertSubscription`, run forwards: the one row of the id, or `sql.ErrNoRows`. -/
theorem fetchSubscriptionByID_healthy (id : String) (ha : c.phase = .active) (hf : c.faults = []) :
    ∃ c', (∀ r, selectByID id c.view = [r] →
        attempt (fetchSubscriptionByID id) c = .ok (.ok r.toModel) c') ∧
      (selectByID id c.view = [] → attempt (fetchSubscriptionByID id) c = .ok (.error .noRows) c') ∧
      c'.view = c.view ∧ Continues c c' ∧ c'.faults = [] :=
  ⟨_, fun _ hr => attempt_ok.mpr (fetchSubscription_healthy_one ha hf (by rw [hr])),
    fun hr => attempt_ok.mpr (fetchSubscription_healthy_none ha hf (by rw [hr])), rfl, ⟨ha, rfl, rfl⟩,
    by simp [hf]⟩

theorem upsertCells_healthy_ok {id : String} : ∀ (l : List (Int × Int)) (c : Conn Db) {d' : Db},
    c.phase = .active → c.faults = [] →
    (l.map fun p => (⟨p.1, p.2, id⟩ : CellRow)).foldlM (fun d r => upsertCellRow r d) c.view =
      .ok d' →
    ∃ c', upsertCells id l c = .ok () c' ∧ c'.view = d' ∧ Continues c c' ∧ c'.faults = []
  | [], c, d', ha, hf, h => by
    cases h
    exact ⟨c, rfl, rfl, ⟨ha, rfl, rfl⟩, hf⟩
  | (cid, clevel) :: rest, c, d', ha, hf, h => by
    rw [List.map_cons, List.foldlM_cons] at h
    cases hr : upsertCellRow ⟨cid, clevel, id⟩ c.view with
    | error e => rw [hr] at h; cases h
    | ok d₁ =>
      rw [hr] at h
      have hst : exec (fun _ d => upsertCellRow ⟨cid, clevel, id⟩ d) c =
          .ok () { (c.log .statement).trip with view := d₁ } :=
        statement_healthy ha hf (by simp [hr, Except.map])
      obtain ⟨c', h', hv, hc, hf'⟩ := upsertCells_healthy_ok rest
        { (c.log .statement).trip with view := d₁ } ha (by simp [hf]) h
      exact ⟨c', (bind_of_ok hst).trans h', hv, ⟨hc.active, hc.db, hc.now⟩, hf'⟩

theorem upsertCells_healthy_error {id : String} {e : Err} :
    ∀ (l : List (Int × Int)) (c : Conn Db), c.phase = .active → c.faults = [] →
    (l.map fun p => (⟨p.1, p.2, id⟩ : CellRow)).foldlM (fun d r => upsertCellRow r d) c.view =
      .error e →
    ∃ c', upsertCells id l c = .error e c'
  | [], c, ha, hf, h => by cases h
  | (cid, clevel) :: rest, c, ha, hf, h => by
    rw [List.map_cons, List.foldlM_cons] at h
    cases hr : upsertCellRow ⟨cid, clevel, id⟩ c.view with
    | error e' =>
      rw [hr] at h
      cases h
      have hst : exec (fun _ d => upsertCellRow ⟨cid, clevel, id⟩ d) c =
          .error e (c.log .statement).trip :=
        statement_healthy_error ha hf (by simp [hr, Except.map])
      exact ⟨_, bind_of_error hst⟩
    | ok d₁ =>
      rw [hr] at h
      have hst : exec (fun _ d => upsertCellRow ⟨cid, clevel, id⟩ d) c =
          .ok () { (c.log .statement).trip with view := d₁ } :=
        statement_healthy ha hf (by simp [hr, Except.map])
      obtain ⟨c', h'⟩ := upsertCells_healthy_error rest
        { (c.log .statement).trip with view := d₁ } ha (by simp [hf]) h
      exact ⟨c', (bind_of_ok hst).trans h'⟩

/-- The cell rows `pushSubscription` upserts, as it builds them: `cids[i]` and `clevels[i]`. -/
theorem zip_cellRows (s : Subscription) :
    ((s.cellList.map CellID.toInt64).zip (s.cellList.map CellID.level)).map
      (fun p => (⟨p.1, p.2, s.id⟩ : CellRow)) = cellRows s := by
  rw [List.zip_map', List.map_map]; rfl

/-- The upsert of the row, as `pushSubscription` reads it back. -/
theorem fetchUpserted_healthy {s : Subscription} {v : Db} (ha : c.phase = .active)
    (hf : c.faults = []) (hu : upsertSubscriptionRow (upsertedRow s c.now) c.view = .ok v) :
    fetchSubscription (.ok ()) (fun _ now d =>
      (upsertSubscriptionRow (upsertedRow s now) d).map fun d => ([upsertedRow s now], d)) c =
      .ok (upsertedRow s c.now).toModel { (c.log .statement).trip with view := v } :=
  fetchSubscription_healthy_one ha hf (by rw [hu]; rfl)

/-- An upsert of the row that the `CHECK` refuses hands back its error. -/
theorem fetchUpserted_healthy_error {s : Subscription} {e : Err} (ha : c.phase = .active)
    (hf : c.faults = []) (hu : upsertSubscriptionRow (upsertedRow s c.now) c.view = .error e) :
    fetchSubscription (.ok ()) (fun _ now d =>
      (upsertSubscriptionRow (upsertedRow s now) d).map fun d => ([upsertedRow s now], d)) c =
      .error e (c.log .statement).trip := by
  unfold fetchSubscription fetchSubscriptions
  rw [bind_assoc, bind_of_error (statement_healthy_error ha hf (by rw [hu]; rfl))]

/-- **A push runs forwards as `pushTables` does**, when the database takes every row. -/
theorem pushSubscription_healthy_ok {s : Subscription} {d' : Db} (ha : c.phase = .active)
    (hf : c.faults = []) (h : pushTables s c.now c.view = .ok d') :
    ∃ c', pushSubscription s c = .ok { (upsertedRow s c.now).toModel with cells := s.cells } c' ∧
      c'.view = d' ∧ Continues c c' ∧ c'.faults = [] := by
  obtain ⟨d₀, d₁, hu, hfold, rfl⟩ := pushTables_ok h
  obtain ⟨c₂, hcells, hv₂, hc₂, hf₂⟩ := upsertCells_healthy_ok
    ((s.cellList.map CellID.toInt64).zip (s.cellList.map CellID.level))
    { (c.log .statement).trip with view := d₀ } ha (by simp [hf])
    (by rw [zip_cellRows]; exact hfold)
  have hsweep : exec (fun _ d =>
      .ok (deleteLeftOverCells (some (s.cellList.map CellID.toInt64)) s.id d)) c₂ =
      .ok () { (c₂.log .statement).trip with
        view := deleteLeftOverCells (some (s.cellList.map CellID.toInt64)) s.id c₂.view } :=
    statement_healthy hc₂.active hf₂ rfl
  refine ⟨{ (c₂.log .statement).trip with
    view := deleteLeftOverCells (some (s.cellList.map CellID.toInt64)) s.id c₂.view }, ?_,
    by simp [hv₂], ⟨hc₂.active, hc₂.db, hc₂.now⟩, by simp [hf₂]⟩
  unfold pushSubscription
  exact (bind_of_ok (fetchUpserted_healthy ha hf hu)).trans
    ((bind_of_ok hcells).trans ((bind_of_ok hsweep).trans rfl))

/-- A push that failed was refused by the `CHECK` of the row, or by the upsert of a cell row. -/
theorem pushTables_error_cases {s : Subscription} {now : Int} {d : Db} {e : Err}
    (h : pushTables s now d = .error e) :
    upsertSubscriptionRow (upsertedRow s now) d = .error e ∨
      ∃ d₀, upsertSubscriptionRow (upsertedRow s now) d = .ok d₀ ∧
        (cellRows s).foldlM (fun d r => upsertCellRow r d) d₀ = .error e := by
  unfold pushTables at h
  rcases hu : upsertSubscriptionRow (upsertedRow s now) d with e' | d₀ <;>
    simp only [hu, bind, Except.bind] at h
  · exact .inl (by cases h; rfl)
  rcases hf : (cellRows s).foldlM (fun d r => upsertCellRow r d) d₀ with e' | d₁ <;>
    simp only [hf, pure, Except.pure, reduceCtorEq] at h
  exact .inr ⟨d₀, rfl, by cases h; exact hf⟩

/-- A push whose row or cell row the database refuses fails with the database's error. -/
theorem pushSubscription_healthy_error {s : Subscription} {e : Err} (ha : c.phase = .active)
    (hf : c.faults = []) (h : pushTables s c.now c.view = .error e) :
    ∃ c', pushSubscription s c = .error e c' := by
  unfold pushSubscription
  rcases pushTables_error_cases h with hu | ⟨d₀, hu, hfold⟩
  · exact ⟨_, bind_of_error (fetchUpserted_healthy_error ha hf hu)⟩
  obtain ⟨c₂, hcells⟩ := upsertCells_healthy_error
    ((s.cellList.map CellID.toInt64).zip (s.cellList.map CellID.level))
    { (c.log .statement).trip with view := d₀ } ha (by simp [hf])
    (by rw [zip_cellRows]; exact hfold)
  exact ⟨c₂, (bind_of_ok (fetchUpserted_healthy ha hf hu)).trans (bind_of_error hcells)⟩

end Forward

/-! ## The insert, run forwards -/

section Insert

variable {d : Db} {now : Int} {s : Subscription}

/-- `Begin` on a backend that fails nothing opens the transaction on the committed tables. -/
theorem begin_start_healthy (d : Db) (now : Int) :
    ∃ c, begin (Conn.start d now []) = .ok () c ∧ c.phase = .active ∧ c.faults = [] ∧
      c.view = d ∧ c.db = d ∧ c.now = now :=
  ⟨_, begin_healthy rfl, rfl, rfl, rfl, rfl, rfl⟩

theorem insertSubscription_healthy_exists {r : SubscriptionRow} (hsel : selectByID s.id d = [r]) :
    ∃ c, insertSubscription s (Conn.start d now []) = .error (.alreadyExists s.id) c ∧ c.db = d := by
  obtain ⟨c₁, hb, ha₁, hf₁, hv₁, hd₁, -⟩ := begin_start_healthy d now
  obtain ⟨c₂, hfetch, -, -, hc₂, hf₂⟩ := fetchSubscriptionByID_healthy s.id ha₁ hf₁
  exact ⟨_, (bind_of_ok hb).trans ((bind_of_ok (hfetch r (hv₁ ▸ hsel))).trans
    (bind_of_error (rollbackWith_healthy hc₂.active hf₂))), hc₂.db.trans hd₁⟩

/-- After a read that found nothing, the insert does what its push does. -/
theorem insertSubscription_healthy_new (now : Int) (hsel : selectByID s.id d = []) :
    (∀ d', pushTables s now d = .ok d' →
      ∃ r c, insertSubscription s (Conn.start d now []) = .ok r c ∧ c.db = d') ∧
    (∀ e, pushTables s now d = .error e →
      ∃ c, insertSubscription s (Conn.start d now []) = .error e c) := by
  obtain ⟨c₁, hb, ha₁, hf₁, hv₁, -, hn₁⟩ := begin_start_healthy d now
  obtain ⟨c₂, -, hfetch, hv₂, hc₂, hf₂⟩ := fetchSubscriptionByID_healthy s.id ha₁ hf₁
  have hview : pushTables s c₂.now c₂.view = pushTables s now d := by rw [hv₂, hv₁, hc₂.now, hn₁]
  refine ⟨fun d' hpush => ?_, fun e hpush => ?_⟩
  · obtain ⟨c₃, hp, hv₃, hc₃, hf₃⟩ := pushSubscription_healthy_ok hc₂.active hf₂ (hview ▸ hpush)
    exact ⟨_, _, (bind_of_ok hb).trans ((bind_of_ok (hfetch (hv₁ ▸ hsel))).trans ((bind_of_ok hp).trans
      ((bind_of_ok (commit_healthy hc₃.active hf₃)).trans rfl))), by simp [hv₃]⟩
  · obtain ⟨c₃, hp⟩ := pushSubscription_healthy_error hc₂.active hf₂ (hview ▸ hpush)
    exact ⟨_, (bind_of_ok hb).trans ((bind_of_ok (hfetch (hv₁ ▸ hsel))).trans
      ((bind_of_ok (pure_apply () c₂)).trans (bind_of_error hp)))⟩

/-- The only error a push's tables can give is a constraint the database checks. -/
theorem pushTables_error {e : Err} (h : pushTables s now d = .error e) :
    ∃ msg, e = .constraint msg := by
  have hrows : ∀ (rows : List CellRow) (d : Db),
      rows.foldlM (fun d r => upsertCellRow r d) d = .error e → ∃ msg, e = .constraint msg := by
    intro rows
    induction rows with
    | nil => intro d h; cases h
    | cons r rows ih =>
      intro d h
      rw [List.foldlM_cons] at h
      unfold upsertCellRow at h
      split at h
      · cases h; exact ⟨_, rfl⟩
      split at h
      · cases h; exact ⟨_, rfl⟩
      exact ih _ h
  rcases pushTables_error_cases h with hu | ⟨d₀, -, hfold⟩
  · unfold upsertSubscriptionRow at hu
    split at hu <;> cases hu
    exact ⟨_, rfl⟩
  · exact hrows _ _ hfold

end Insert

/-! ## A push of a new id

On tables where `id` is a primary key and every cell row names a subscription (`CellIndex`), an id
no row has has no cell rows either, so the push of it removes nothing: its upserts add its cell
rows, and its sweep finds none of them to delete. -/

section Fresh

variable {s : Subscription}

theorem CellID.toInt64_injective {c c' : CellID} (h : c.toInt64 = c'.toInt64) : c = c' := by
  have hc := UInt64.toNat_lt_size c
  have hc' := UInt64.toNat_lt_size c'
  simp only [CellID.toInt64, toInt64, two_pow_63, two_pow_64] at h
  simp only [UInt64.size] at hc hc'
  exact UInt64.toNat.inj (by omega)

theorem mem_cellRows {q : CellRow} :
    q ∈ cellRows s ↔ ∃ cell ∈ s.cellList, q = ⟨cell.toInt64, cell.level, s.id⟩ := by
  simp [cellRows, eq_comm]

/-- Two of a subscription's cell rows with one cell id are one row. -/
theorem cellRows_key {q r : CellRow} (hq : q ∈ cellRows s) (hr : r ∈ cellRows s)
    (h : q.cellId = r.cellId) : q = r := by
  obtain ⟨c, -, rfl⟩ := mem_cellRows.mp hq
  obtain ⟨c', -, rfl⟩ := mem_cellRows.mp hr
  rw [CellID.toInt64_injective h]

/-- The upserts of a push of a new id, each accepted, add exactly its rows. -/
theorem foldlM_upsertCellRow_fresh (hlev : ∀ cell ∈ s.cellList, 0 ≤ cell.level ∧ cell.level ≤ 30) :
    ∀ (rows : List CellRow) (d : Db), (∀ r ∈ rows, r ∈ cellRows s) →
      (∃ x ∈ d.subscriptions, x.id = s.id) →
      (∀ q ∈ d.cellsSubscriptions, q.subscriptionId = s.id → q ∈ cellRows s) →
      ∃ d', rows.foldlM (fun d r => upsertCellRow r d) d = .ok d' ∧
        d'.subscriptions = d.subscriptions ∧
        ∀ q, q ∈ d'.cellsSubscriptions ↔ q ∈ d.cellsSubscriptions ∨ q ∈ rows
  | [], d, _, _, _ => ⟨d, rfl, rfl, fun q => by simp⟩
  | r :: rows, d, hrows, hx, hown => by
    have hr := hrows r (List.mem_cons_self _ _)
    obtain ⟨cell, hcell, rfl⟩ := mem_cellRows.mp hr
    obtain ⟨d₁, hup, hsubs₁, hcells₁⟩ : ∃ d₁,
        upsertCellRow ⟨cell.toInt64, cell.level, s.id⟩ d = .ok d₁ ∧
        d₁.subscriptions = d.subscriptions ∧
        d₁.cellsSubscriptions = ⟨cell.toInt64, cell.level, s.id⟩ :: d.cellsSubscriptions.filter
          fun q => ¬(q.cellId = cell.toInt64 ∧ q.subscriptionId = s.id) := by
      obtain ⟨x, hx, hid⟩ := hx
      rw [upsertCellRow, if_neg (not_not.mpr (hlev cell hcell)),
        if_neg (not_forall.mpr ⟨x, by simp [hx, hid]⟩)]
      exact ⟨_, rfl, rfl, rfl⟩
    obtain ⟨d', hfold, hsubs, hmem⟩ := foldlM_upsertCellRow_fresh hlev rows d₁
      (fun q hq => hrows q (List.mem_cons_of_mem _ hq)) (hsubs₁ ▸ hx) (fun q hq hid => by
        rw [hcells₁] at hq
        rcases List.mem_cons.mp hq with rfl | hq
        · exact hr
        · exact hown q (List.mem_filter.mp hq).1 hid)
    refine ⟨d', by rw [List.foldlM_cons, hup]; exact hfold, hsubs.trans hsubs₁, fun q => ?_⟩
    rw [hmem, hcells₁, List.mem_cons, List.mem_cons, List.mem_filter]
    constructor
    · rintro ((rfl | ⟨hq, -⟩) | hq)
      · exact .inr (.inl rfl)
      · exact .inl hq
      · exact .inr (.inr hq)
    · rintro (hq | rfl | hq)
      · by_cases hk : q.cellId = cell.toInt64 ∧ q.subscriptionId = s.id
        · exact .inl (.inl (cellRows_key (hown q hq hk.2) hr hk.1))
        · exact .inl (.inr ⟨hq, decide_eq_true hk⟩)
      · exact .inl (.inl rfl)
      · exact .inr hq

/-- **A push of a new id adds its row and its cell rows, and nothing else**, on tables that keep
`CellIndex` and a subscription whose cells have levels the schema accepts. -/
theorem pushTables_fresh {d : Db} {declared : String → List CellID} (now : Int)
    (hi : CellIndex d declared) (hnew : ∀ x ∈ d.subscriptions, x.id ≠ s.id)
    (hcheck : (upsertedRow s now).check = true)
    (hlev : ∀ cell ∈ s.cellList, 0 ≤ cell.level ∧ cell.level ≤ 30) :
    ∃ d', pushTables s now d = .ok d' ∧ d'.subscriptions = upsertedRow s now :: d.subscriptions ∧
      ∀ q, q ∈ d'.cellsSubscriptions ↔ q ∈ d.cellsSubscriptions ∨ q ∈ cellRows s := by
  have hnone : ∀ q ∈ d.cellsSubscriptions, q.subscriptionId ≠ s.id := fun q hq hid => by
    obtain ⟨x, hx, hxid⟩ := hi.owned q hq
    exact hnew x hx (hxid.trans hid)
  obtain ⟨d₀, hu, hsubs₀, hcells₀⟩ : ∃ d₀, upsertSubscriptionRow (upsertedRow s now) d = .ok d₀ ∧
      d₀.subscriptions = upsertedRow s now :: d.subscriptions ∧
      d₀.cellsSubscriptions = d.cellsSubscriptions :=
    ⟨_, upsertSubscriptionRow_of_check hcheck,
      by rw [List.filter_eq_self.mpr fun x hx => by simpa using hnew x hx], rfl⟩
  have hnone₀ : ∀ q ∈ d₀.cellsSubscriptions, q.subscriptionId ≠ s.id := hcells₀ ▸ hnone
  obtain ⟨d₁, hfold, hsubs₁, hmem₁⟩ := foldlM_upsertCellRow_fresh hlev (cellRows s) d₀
    (fun _ h => h) ⟨upsertedRow s now, by rw [hsubs₀]; exact List.mem_cons_self _ _, rfl⟩
    (fun q hq hid => absurd hid (hnone₀ q hq))
  have hkeep : deleteLeftOverCells (some (s.cellList.map CellID.toInt64)) s.id d₁ = d₁ := by
    unfold deleteLeftOverCells
    rw [List.filter_eq_self.mpr fun q hq => ?_]
    rw [decide_eq_true_eq, Sql.allNe_eq_true]
    rintro ⟨⟨xs, hxs, hout⟩, hid⟩
    cases hxs
    rcases (hmem₁ q).mp hq with hq | hq
    · exact hnone₀ q hq hid
    · obtain ⟨cell, hcell, rfl⟩ := mem_cellRows.mp hq
      exact hout (List.mem_map_of_mem _ hcell)
  refine ⟨d₁, ?_, by rw [hsubs₁, hsubs₀], fun q => by rw [hmem₁, hcells₀]⟩
  simp only [pushTables, hu, bind, Except.bind, hfold, pure, Except.pure, hkeep]

end Fresh

/-! ## Two inserts of one id -/

/-- With `id` a primary key, a row of the id is the one row a read of it finds. -/
theorem selectByID_eq_singleton {d : Db} {x : SubscriptionRow}
    (hk : (d.subscriptions.map SubscriptionRow.id).Nodup) (hx : x ∈ d.subscriptions) :
    selectByID x.id d = [x] := by
  have hmem : x ∈ selectByID x.id d := List.mem_filter.mpr ⟨hx, by simp⟩
  have hnd : ((selectByID x.id d).map SubscriptionRow.id).Nodup :=
    hk.sublist ((List.filter_sublist _).map _)
  rcases hsel : selectByID x.id d with _ | ⟨a, _ | ⟨b, rest⟩⟩
  · rw [hsel] at hmem; cases hmem
  · rw [hsel, List.mem_singleton] at hmem; rw [hmem]
  · have ha : a.id = x.id := by
      have := (List.mem_filter.mp (hsel ▸ List.mem_cons_self a _ : a ∈ selectByID x.id d)).2
      simpa using this
    have hb : b.id = x.id := by
      have := (List.mem_filter.mp (hsel ▸ List.mem_cons_of_mem a (List.mem_cons_self b _) :
        b ∈ selectByID x.id d)).2
      simpa using this
    rw [hsel] at hnd
    simp only [List.map_cons, List.nodup_cons, List.mem_cons, not_or] at hnd
    exact absurd (ha.trans hb.symm) hnd.1.1

/-- A push keeps a row of every id that had one. -/
theorem exists_id_pushTables {p : Subscription} {now : Int} {d d' : Db} {id : String}
    (h : pushTables p now d = .ok d') (hx : ∃ x ∈ d.subscriptions, x.id = id) :
    ∃ x ∈ d'.subscriptions, x.id = id := by
  obtain ⟨x, hx, hid⟩ := hx
  rw [pushTables_subscriptions h]
  by_cases hp : x.id = p.id
  · exact ⟨upsertedRow p now, List.mem_cons_self _ _, by rw [upsertedRow_id, ← hp, hid]⟩
  · exact ⟨x, List.mem_cons_of_mem _ (List.mem_filter.mpr ⟨hx, by simpa using hp⟩), hid⟩

/-- **A step that is not a delete of `id` keeps a row of `id`**, whether it succeeds or not. -/
theorem exists_id_step {h : History} {st : Step} {id : String}
    (hst : ∀ owner version, st.call ≠ .deleteSubscription id owner version)
    (hx : ∃ x ∈ h.db.subscriptions, x.id = id) : ∃ x ∈ (h.step st).db.subscriptions, x.id = id := by
  cases hrun : st.run h.db with
  | error e c => rw [History.step_of_error hrun]; exact hx
  | ok r c =>
    rw [History.step_of_ok hrun]
    rcases Step.run_ok hrun with ⟨s, -, -, hpush⟩ | ⟨s, old, -, -, -, hpush⟩ |
        ⟨id', owner, version, old, hcall, -, -, hdb⟩
    · exact exists_id_pushTables hpush hx
    · exact exists_id_pushTables hpush hx
    · have hne : id ≠ id' := fun heq => hst owner version (heq ▸ hcall)
      obtain ⟨x, hx, hid⟩ := hx
      have hsel : x ∈ selectByID id c.db := by
        rw [hdb, selectByID_deleteSubscriptionRow_of_ne hne]
        exact List.mem_filter.mpr ⟨hx, by simpa using hid⟩
      exact ⟨x, (List.mem_filter.mp hsel).1, hid⟩

theorem exists_id_foldl {id : String} :
    ∀ (steps : List Step) (h : History),
      (∀ st ∈ steps, ∀ owner version, st.call ≠ .deleteSubscription id owner version) →
      (∃ x ∈ h.db.subscriptions, x.id = id) →
      ∃ x ∈ (steps.foldl History.step h).db.subscriptions, x.id = id
  | [], _, _, hx => hx
  | st :: steps, h, hst, hx =>
    exists_id_foldl steps (h.step st) (fun st' hst' => hst st' (List.mem_cons_of_mem _ hst'))
      (exists_id_step (hst st (List.mem_cons_self _ _)) hx)

theorem replay_append_cons (steps mid : List Step) (st : Step) :
    replay (steps ++ st :: mid) = mid.foldl History.step ((replay steps).step st) := by
  unfold replay
  rw [List.foldl_append, List.foldl_cons]

/-- **Of two inserts of one id, with no delete of the id between them, the second fails**: the
first left a row of the id, and nothing in between took it away. -/
theorem insert_again_fails (steps mid : List Step) {s s' : Subscription} {now now' : Int}
    {fs fs' : List Bool} (hid : s'.id = s.id)
    (hmid : ∀ st ∈ mid, ∀ owner version, st.call ≠ .deleteSubscription s.id owner version)
    (h₁ : ∃ r c, insertSubscription s (Conn.start (replay steps).db now fs) = .ok r c) :
    ∀ r c, insertSubscription s' (Conn.start
      (replay (steps ++ ⟨.insertSubscription s, now, fs⟩ :: mid)).db now' fs') ≠ .ok r c := by
  intro r c h₂
  obtain ⟨r₁, c₁, h₁⟩ := h₁
  have hrow : ∃ x ∈ ((replay steps).step ⟨.insertSubscription s, now, fs⟩).db.subscriptions,
      x.id = s.id := by
    rw [@History.step_of_ok (replay steps) ⟨.insertSubscription s, now, fs⟩ r₁ c₁ h₁]
    exact ⟨upsertedRow s now, by
      rw [pushTables_subscriptions (insertSubscription_ok h₁).2.1]; exact List.mem_cons_self _ _,
      rfl⟩
  obtain ⟨x, hx, hxid⟩ := exists_id_foldl mid _ hmid hrow
  have hnone := (insertSubscription_ok h₂).1
  rw [replay_append_cons] at hnone
  have hmem : x ∈ selectByID s'.id (mid.foldl History.step
      ((replay steps).step ⟨.insertSubscription s, now, fs⟩)).db :=
    List.mem_filter.mpr ⟨hx, by simp [hxid, hid]⟩
  rw [hnone] at hmem
  exact List.not_mem_nil _ hmem

/-! ## On every reachable state -/

/-- With a backend that fails nothing, the insert refuses an id with `AlreadyExists` exactly when a
subscription has it. -/
theorem insertSubscription_alreadyExists_iff (steps : List Step) (s : Subscription) (now : Int) :
    (∃ c, insertSubscription s (Conn.start (replay steps).db now []) =
      .error (.alreadyExists s.id) c) ↔ ∃ x ∈ (replay steps).db.subscriptions, x.id = s.id := by
  have hk := (cellIndex_history steps).keys
  constructor
  · rintro ⟨c, h⟩
    by_contra hno
    have hsel : selectByID s.id (replay steps).db = [] :=
      List.filter_eq_nil_iff.mpr fun x hx hid => hno ⟨x, hx, by simpa using hid⟩
    cases hp : pushTables s now (replay steps).db with
    | ok d' =>
      obtain ⟨r, c', h', -⟩ := (insertSubscription_healthy_new now hsel).1 d' hp
      rw [h'] at h
      cases h
    | error e =>
      obtain ⟨c', h'⟩ := (insertSubscription_healthy_new now hsel).2 e hp
      obtain ⟨msg, rfl⟩ := pushTables_error hp
      rw [h'] at h
      cases h
  · rintro ⟨x, hx, hid⟩
    obtain ⟨c, h, -⟩ := insertSubscription_healthy_exists (hid ▸ selectByID_eq_singleton hk hx)
    exact ⟨c, h⟩

/-- With a backend that fails nothing, an insert of a new id whose row passes the `CHECK` and whose
cells have levels the schema accepts succeeds, adding its row, with the transaction's timestamp,
and its cell rows. -/
theorem insertSubscription_fresh (steps : List Step) (s : Subscription) (now : Int)
    (hnew : ∀ x ∈ (replay steps).db.subscriptions, x.id ≠ s.id)
    (hcheck : (upsertedRow s now).check = true)
    (hlev : ∀ cell ∈ s.cellList, 0 ≤ cell.level ∧ cell.level ≤ 30) :
    ∃ r c, insertSubscription s (Conn.start (replay steps).db now []) = .ok r c ∧
      c.db.subscriptions = upsertedRow s now :: (replay steps).db.subscriptions ∧
      ∀ q, q ∈ c.db.cellsSubscriptions ↔
        q ∈ (replay steps).db.cellsSubscriptions ∨ q ∈ cellRows s := by
  obtain ⟨d', hpush, hsubs, hcells⟩ :=
    pushTables_fresh now (cellIndex_history steps) hnew hcheck hlev
  have hsel : selectByID s.id (replay steps).db = [] :=
    List.filter_eq_nil_iff.mpr fun x hx hid => hnew x hx (by simpa using hid)
  obtain ⟨r, c, h, hdb⟩ := (insertSubscription_healthy_new now hsel).1 d' hpush
  exact ⟨r, c, h, hdb ▸ hsubs, hdb ▸ hcells⟩

/-- **Insertion is create-only**, on every state a run reaches.  With a backend that fails no
round trip, the insert fails with `AlreadyExists` exactly when a subscription, of any owner, has
the id; whatever fails, a failed insert leaves the tables as they were; with a backend that fails
no round trip, an insert of a new id, a UUID's text, whose row passes the `CHECK` and whose cells
have levels in `0..30` succeeds and adds exactly its row, its times rounded and stamped with the
transaction's timestamp, and its cell rows; and after an insert that succeeded, no insert of the
same id succeeds until a delete of the id has come in between. -/
theorem insert_is_create_only (steps : List Step) (s : Subscription) (now : Int) :
    ((∃ c, insertSubscription s (Conn.start (replay steps).db now []) =
        .error (.alreadyExists s.id) c) ↔ ∃ x ∈ (replay steps).db.subscriptions, x.id = s.id) ∧
    (∀ fs e c, insertSubscription s (Conn.start (replay steps).db now fs) = .error e c →
      c.db = (replay steps).db) ∧
    ((∀ x ∈ (replay steps).db.subscriptions, x.id ≠ s.id) → Sql.uuidText s.id = true →
      (upsertedRow s now).check = true → (∀ cell ∈ s.cellList, 0 ≤ cell.level ∧ cell.level ≤ 30) →
      ∃ r c, insertSubscription s (Conn.start (replay steps).db now []) = .ok r c ∧
        c.db.subscriptions = upsertedRow s now :: (replay steps).db.subscriptions ∧
        ∀ q, q ∈ c.db.cellsSubscriptions ↔
          q ∈ (replay steps).db.cellsSubscriptions ∨ q ∈ cellRows s) ∧
    (∀ (fs : List Bool) (mid : List Step) (s' : Subscription) (now' : Int) (fs' : List Bool),
      s'.id = s.id →
      (∀ st ∈ mid, ∀ owner version, st.call ≠ .deleteSubscription s.id owner version) →
      (∃ r c, insertSubscription s (Conn.start (replay steps).db now fs) = .ok r c) →
      ∀ r c, insertSubscription s' (Conn.start
        (replay (steps ++ ⟨.insertSubscription s, now, fs⟩ :: mid)).db now' fs') ≠ .ok r c) :=
  ⟨insertSubscription_alreadyExists_iff steps s now,
    fun _ e c h => sealed_insertSubscription s _ e c h,
    fun hnew _ => insertSubscription_fresh steps s now hnew,
    fun _ mid _ _ _ hid hmid h₁ => insert_again_fails steps mid hid hmid h₁⟩

/-- A subscription of owner `a` at cell 42, a cell id of level 30, under the id
`6ba7b810-9dad-11d1-80b4-00c04fd430c8`. -/
def entityX42 : Subscription :=
  ⟨"6ba7b810-9dad-11d1-80b4-00c04fd430c8", "u", 0, "a", some [42], none, none, none⟩

/-- From bootstrap, `entityX42` is inserted at 09:00 on 6 November 2019, and inserting it again a
second later is refused. -/
theorem insert_is_create_only_entityX42 :
    (∃ r c, insertSubscription entityX42 (Conn.start (replay []).db 1573030800000000000 []) =
        .ok r c ∧
      c.db.subscriptions =
        upsertedRow entityX42 1573030800000000000 :: (replay []).db.subscriptions ∧
      ∀ q, q ∈ c.db.cellsSubscriptions ↔
        q ∈ (replay []).db.cellsSubscriptions ∨ q ∈ cellRows entityX42) ∧
    ∀ r c, insertSubscription entityX42 (Conn.start
      (replay ([] ++ [⟨.insertSubscription entityX42, 1573030800000000000, []⟩])).db
        1573030801000000000 []) ≠ .ok r c :=
  ⟨(insert_is_create_only [] entityX42 1573030800000000000).2.2.1 (by decide) (by decide) rfl
      (by decide),
    (insert_is_create_only [] entityX42 1573030800000000000).2.2.2 [] [] entityX42
      1573030801000000000 [] rfl (fun _ h => absurd h (List.not_mem_nil _)) ⟨_, _, rfl⟩⟩

/-- `entityX42` at the id `2^62` instead of cell 42: no valid cell (its lowest set bit is at the odd
position 62), of `Level()` `30 - 62 / 2 = -1`. -/
def entityAtInvalidCell : Subscription :=
  ⟨"6ba7b810-9dad-11d1-80b4-00c04fd430c8", "u", 0, "a", some [0x4000000000000000], none, none, none⟩

/-- An insert of a new id, a UUID's text, with no times, whose one cell is the invalid id `2^62`,
is refused by the database with the backend healthy: the constraint's error, the transaction left
open. -/
theorem insert_refused_for_level_out_of_range :
    (∀ x ∈ (replay []).db.subscriptions, x.id ≠ entityAtInvalidCell.id) ∧
      Sql.uuidText entityAtInvalidCell.id = true ∧
      CellID.isValid 0x4000000000000000 = false ∧ CellID.level 0x4000000000000000 = -1 ∧
      ∃ c, insertSubscription entityAtInvalidCell
        (Conn.start (replay []).db 1573030800000000000 []) =
          .error (.constraint "cell_level BETWEEN 0 and 30") c ∧ c.phase = .active :=
  ⟨by decide, by decide, by decide, by decide, _, rfl, rfl⟩

end Cockroach
end DssStore
