import DssStore.ProtoStore.Cells
import DssStore.ProtoStore.VersionTokens

/-!
# When the older store's writes go through

`insertSubscription`, `updateSubscription` and `insertIdentificationServiceAreaUnchecked` each run
a statement on the table of their entity, then one statement per cell on its cell index.  The
database can refuse any of them: the driver a cell of `2^63` or more, the `CHECK`s a row whose
times are out of order or a cell level outside `0..30`, the primary keys an id or a cell row
already there.  The inserts `INSERT` their cell rows, and a new id has no cell rows on any state a
run reaches (`cell_index_accumulates`, `isaCellsOwned_replay`), so the second primary key refuses
exactly a cell handed twice; the update `UPSERT`s them, and a cell handed twice is written twice.
The tables store the times rounded to microseconds: the `CHECK`s compare the rounded times, and
the row each write answers with is the rounded one, which converts back unless the rounding carried
a time past the last nanosecond of the year 9999.  The id columns are `UUID`s, which the model
keeps as their text; the results below are about ids given as that text (`Sql.uuidText`).

## What is here

* `execCells_healthy` and `finishWrite_healthy`: with a backend that fails no round trip, the cell
  loop and the end of a write go through whenever their statements do;
* `writeCells_insert_iff`: when a loop of `INSERT`s of cell rows goes through, and
  `writeCells_upsertCellSubscription_iff` for the loop of `UPSERT`s;
* `insert_goes_through_iff`: on every state a run reaches, with a backend that fails no round trip,
  `insertSubscription` goes through exactly when the id is new, the rounded times pass the `CHECK`
  and convert back, every cell is below `2^63` with a level the `CHECK` accepts, and no cell is
  handed twice;
* `update_goes_through_iff`: `updateSubscription` goes through exactly when a row of the id is
  stored, whatever its owner, the version is empty or the row's, the overlaid times, rounded, pass
  the `CHECK` and convert back, and every cell is below `2^63` with a level the `CHECK` accepts;
* `isa_insert_goes_through_iff`: `insertIdentificationServiceAreaUnchecked` goes through exactly
  when both ends of the extents are timestamps `ptypes` accepts, in order and in range once
  rounded, the id is new, and the cells are as for `insertSubscription`.
-/

set_option autoImplicit false

namespace DssStore
namespace ProtoStore

theorem Except.bind_eq_ok_iff {ε α β : Type} {x : Except ε α} {f : α → Except ε β} {b : β} :
    x.bind f = .ok b ↔ ∃ a, x = .ok a ∧ f a = .ok b := by
  cases x <;> simp [Except.bind]

/-- A stage that goes through to a connection of which `Q` holds, followed by a rest that goes
through from every such connection, goes through. -/
theorem exists_bind_ok {α β : Type} {x : Tx Db α} {f : α → Tx Db β} {c : Conn Db} {a : α} {b : β}
    {Q : Conn Db → Prop} (hx : ∃ c', x c = .ok a c' ∧ Q c')
    (hf : ∀ c', Q c' → ∃ c'', f a c' = .ok b c'') : ∃ c'', (x >>= f) c = .ok b c'' := by
  obtain ⟨c', hx, hq⟩ := hx
  obtain ⟨c'', hf⟩ := hf c' hq
  exact ⟨c'', (bind_of_ok hx).trans hf⟩

/-! ## The stages, with a backend that fails no round trip -/

section Healthy

variable {write : Int → Int → Int → Db → Except Err Db}

/-- The cell loop goes through, with the view its statements leave, whenever they go through. -/
theorem execCells_healthy : ∀ {cells : List CellID} {c : Conn Db} {v : Db},
    c.phase = .active → c.faults = [] → writeCells write cells c.now c.view = .ok v →
      ∃ c', execCells write cells c = .ok () c' ∧ c'.phase = .active ∧ c'.faults = [] ∧ c'.view = v
  | [], c, _, ha, hf, h => by
    cases h
    exact ⟨c, rfl, ha, hf, rfl⟩
  | cell :: cells, c, v, ha, hf, h => by
    obtain ⟨x, hx, hrest⟩ := Except.bind_eq_ok_iff.mp h
    obtain ⟨y, hy, hw⟩ := Except.bind_eq_ok_iff.mp hx
    have hst : statement (.ok y)
        (fun v now d => (write v cell.level now d).map fun d => ((), d)) c =
        .ok () { (c.log .statement).trip with view := x } :=
      statement_healthy ha hf (by rw [hw]; rfl)
    obtain ⟨c', hexec, hc'⟩ := execCells_healthy (c := { (c.log .statement).trip with view := x })
      ha (by simp [hf]) hrest
    rw [execCells, hy, bind_of_ok ((attempt_ok (r := .ok ())).mpr hst)]
    exact ⟨c', hexec, hc'⟩

/-- The end of a write goes through, and commits what the cell loop wrote, whenever the loop's
statements go through and the row converts. -/
theorem finishWrite_healthy {cells : List CellID} {sr : SubscriptionsRow} {p : Dspb.Subscription}
    {c : Conn Db} {v : Db} (ha : c.phase = .active) (hf : c.faults = [])
    (hcells : writeCells write cells c.now c.view = .ok v) (hp : sr.toProtobuf = .ok p) :
    ∃ c', finishWrite write cells sr c = .ok p c' ∧ c'.db = v := by
  obtain ⟨c₁, hex, ha₁, hf₁, rfl⟩ := execCells_healthy ha hf hcells
  unfold finishWrite
  rw [bind_of_ok hex, hp, bind_of_ok (rfl : (orThrow (.ok p) : Tx Db _) c₁ = .ok p c₁),
    bind_of_ok (commit_healthy ha₁ hf₁)]
  exact ⟨_, rfl, rfl⟩

end Healthy

/-! ## The cell loops -/

theorem writeCells_cons (write : Int → Int → Int → Db → Except Err Db) (cell : CellID)
    (cells : List CellID) (now : Int) (d : Db) :
    writeCells write (cell :: cells) now d =
      (cell.driverValue.bind fun v => write v cell.level now d).bind fun d₁ =>
        writeCells write cells now d₁ := rfl

section Loop

variable {write : Int → Int → Int → Db → Except Err Db} {Inv : Db → Prop} {keys : Db → List Int}
  {now : Int}

/-- **A loop of `INSERT`s of cell rows** goes through exactly when every cell is below `2^63`, at
a level the `CHECK` accepts, with no row of its key yet, and no cell comes twice: so it does when
each `INSERT`, under an invariant `Inv` it keeps, is refused exactly for its level or for a key
`keys` already holds, and adds its cell to `keys`. -/
theorem writeCells_insert_iff
    (hok : ∀ {v l d}, Inv d → ((∃ d', write v l now d = .ok d') ↔
      (0 ≤ l ∧ l ≤ 30) ∧ v ∉ keys d))
    (hnext : ∀ {v l d d'}, Inv d → write v l now d = .ok d' → Inv d' ∧ keys d' = v :: keys d) :
    ∀ {cells : List CellID} {d : Db}, Inv d →
      ((∃ d', writeCells write cells now d = .ok d') ↔
        (∀ cell ∈ cells, cell.toNat < 2 ^ 63 ∧ (0 ≤ cell.level ∧ cell.level ≤ 30) ∧
          (cell.toNat : Int) ∉ keys d) ∧ cells.Nodup)
  | [], d, _ => by
    simp only [List.not_mem_nil, false_imp_iff, implies_true, List.nodup_nil, and_self, iff_true]
    exact ⟨d, rfl⟩
  | cell :: cells, d, hinv => by
    rw [writeCells_cons]
    by_cases hb : 2 ^ 63 ≤ cell.toNat
    · simp only [driverValue_high hb, Except.bind, reduceCtorEq, exists_false, false_iff,
        List.forall_mem_cons, not_and]
      exact fun h => absurd h.1.1 (not_lt.mpr hb)
    rw [CellID.driverValue, if_neg hb]
    simp only [Except.bind]
    rcases hw : write cell.toNat cell.level now d with e | d₁
    · have hbad := mt (hok (v := (cell.toNat : Int)) (l := cell.level) hinv).mpr (by simp [hw])
      simp only [reduceCtorEq, exists_false, false_iff, List.forall_mem_cons, not_and]
      exact fun h => absurd h.1.2 hbad
    obtain ⟨hcell, hfresh⟩ := (hok hinv).mp ⟨d₁, hw⟩
    obtain ⟨hinv₁, hkeys⟩ := hnext hinv hw
    dsimp only
    rw [writeCells_insert_iff hok hnext hinv₁, hkeys, List.forall_mem_cons, List.nodup_cons]
    simp only [List.mem_cons, not_or, Nat.cast_inj]
    constructor
    · rintro ⟨hall, hnd⟩
      exact ⟨⟨⟨not_le.mp hb, hcell, hfresh⟩, fun c hc => ⟨(hall c hc).1, (hall c hc).2.1,
        (hall c hc).2.2.2⟩⟩, fun hc => (hall cell hc).2.2.1 rfl, hnd⟩
    · rintro ⟨⟨-, hall⟩, hnot, hnd⟩
      exact ⟨fun c hc => ⟨(hall c hc).1, (hall c hc).2.1,
        fun h => hnot (UInt64.toNat.inj h ▸ hc), (hall c hc).2.2⟩, hnd⟩

end Loop

/-! ## The insert -/

theorem insertSubscriptionTuple_ok_iff {t : SubscriptionTuple} {d : Db} :
    (∃ r, insertSubscriptionTuple t d = .ok r) ↔
      t.stored.check = true ∧ t.id ∉ d.subscriptions.map SubscriptionTuple.id := by
  unfold insertSubscriptionTuple insertKeyed
  split_ifs <;> simp_all [Except.map, SubscriptionTuple.stored]

theorem cellIds_insertCell (sid : String) (v l now : Int) (d : Db) :
    cellIds sid { d with cellsSubscriptions := ⟨v, l, sid, now⟩ :: d.cellsSubscriptions } =
      v :: cellIds sid d := by
  simp [cellIds]

/-- One cell row of a stored subscription goes in exactly when its level passes the `CHECK` and
the subscription has no row of that cell yet. -/
theorem insertCellSubscription_ok_iff {sid : String} {v l now : Int} {d : Db}
    (hsid : ∃ x ∈ d.subscriptions, x.id = sid) :
    (∃ d', insertCellSubscription ⟨v, l, sid, now⟩ d = .ok d') ↔
      (0 ≤ l ∧ l ≤ 30) ∧ v ∉ cellIds sid d := by
  obtain ⟨x, hx, rfl⟩ := hsid
  unfold insertCellSubscription cellSubscriptionChecks insertKeyed
  dsimp only
  split_ifs with hl hfk hk
  · simp only [List.all_eq_true, decide_eq_true_eq] at hfk
    exact absurd rfl (hfk x hx)
  · obtain ⟨q, hq, hqk⟩ := List.any_eq_true.mp hk
    obtain ⟨hc, hs⟩ := Prod.mk.inj (of_decide_eq_true hqk)
    simp only [Except.map, reduceCtorEq, exists_false, false_iff, not_and, not_not]
    exact fun _ => mem_cellIds.mpr ⟨q, hq, hs, hc⟩
  · simp only [Except.map, Except.ok.injEq, exists_eq', true_iff]
    refine ⟨hl, fun h => hk ?_⟩
    obtain ⟨q, hq, hs, hc⟩ := mem_cellIds.mp h
    exact List.any_eq_true.mpr ⟨q, hq, by simp [hs, hc]⟩
  · simp [hl]

theorem writeCells_insertCellSubscription_iff {sid : String} {now : Int} :
    ∀ {cells : List CellID} {d : Db}, (∃ x ∈ d.subscriptions, x.id = sid) →
      ((∃ d', writeCells (fun cell level now d => insertCellSubscription ⟨cell, level, sid, now⟩ d)
          cells now d = .ok d') ↔
        (∀ cell ∈ cells, cell.toNat < 2 ^ 63 ∧ (0 ≤ cell.level ∧ cell.level ≤ 30) ∧
          (cell.toNat : Int) ∉ cellIds sid d) ∧ cells.Nodup) :=
  @writeCells_insert_iff _ (fun d => ∃ x ∈ d.subscriptions, x.id = sid) (cellIds sid) now
    insertCellSubscription_ok_iff fun hinv h => by
      rw [insertCellSubscription_ok h]; exact ⟨hinv, cellIds_insertCell _ _ _ _ _⟩

section Insert

variable {d : Db} {declared : String → List CellID} {now : Int}

/-- With a backend that fails no round trip, on tables that keep the invariant of the cell index,
`insertSubscription` goes through exactly when the id is new, the times as stored pass the `CHECK`
and convert back, every cell is below `2^63` at a level the `CHECK` accepts, and no cell comes
twice. -/
theorem insertSubscription_healthy_iff (hi : CellIndex d declared) (s : Dspb.Subscription)
    (cells : List CellID) :
    (∃ r c, insertSubscription s cells (Conn.start d now []) = .ok r c) ↔
      s.id ∉ d.subscriptions.map SubscriptionTuple.id ∧
      ((SubscriptionsRow.applyProtobuf s .zero).state.values now).stored.check = true ∧
      (SubscriptionsRow.applyProtobuf s .zero).state.stored.TimesInRange ∧
      (∀ cell ∈ cells, cell.toNat < 2 ^ 63 ∧ 0 ≤ cell.level ∧ cell.level ≤ 30) ∧ cells.Nodup := by
  have hid : (SubscriptionsRow.applyProtobuf s .zero).state.id = s.id :=
    SubscriptionsRow.applyProtobuf_id fun h => h.symm
  have hstored : ∀ {rows d₁}, insertSubscriptionTuple
      ((SubscriptionsRow.applyProtobuf s .zero).state.values now) d = .ok (rows, d₁) →
      ∃ x ∈ d₁.subscriptions, x.id = (SubscriptionsRow.applyProtobuf s .zero).state.id :=
    fun h => by rw [(insertSubscriptionTuple_ok h).2]; exact ⟨_, List.mem_cons_self _ _, rfl⟩
  constructor
  · rintro ⟨r, c, h⟩
    obtain ⟨d₁, hins, hcells, hp⟩ := insertSubscription_ok h
    obtain ⟨hcheck, hfresh⟩ := insertSubscriptionTuple_ok_iff.mp ⟨_, hins⟩
    obtain ⟨hall, hnd⟩ := (writeCells_insertCellSubscription_iff (hstored hins)).mp ⟨_, hcells⟩
    have htimes := (SubscriptionsRow.toProtobuf_ok_iff _).mp ⟨r, hp⟩
    exact ⟨hid ▸ hfresh, hcheck, htimes, fun cell hc => ⟨(hall cell hc).1, (hall cell hc).2.1⟩,
      hnd⟩
  · rintro ⟨hfresh, hcheck, htimes, hall, hnd⟩
    have hnone : ∀ x ∈ d.subscriptions, x.id ≠ s.id := fun x hx hxid =>
      hfresh (List.mem_map.mpr ⟨x, hx, hxid⟩)
    obtain ⟨⟨rows, d₁⟩, hins⟩ := insertSubscriptionTuple_ok_iff.mpr ⟨hcheck, hid.symm ▸ hfresh⟩
    obtain ⟨rfl, hd₁⟩ := insertSubscriptionTuple_ok hins
    obtain ⟨d', hcells⟩ := (writeCells_insertCellSubscription_iff (hstored hins)).mpr
      ⟨fun cell hc => ⟨(hall cell hc).1, (hall cell hc).2, by
        rw [hd₁, cellIds_withSubscriptions, hid, hi.cellIds_eq_nil hnone]
        exact List.not_mem_nil _⟩, hnd⟩
    obtain ⟨p, hp⟩ := (SubscriptionsRow.toProtobuf_ok_iff
      { (SubscriptionsRow.applyProtobuf s .zero).state.stored with updatedAt := now }).mpr htimes
    have hscan : (queryRow [((SubscriptionsRow.applyProtobuf s .zero).state.values now).stored] >>=
        SubscriptionsRow.scan) = .ok { (SubscriptionsRow.applyProtobuf s .zero).state.stored with
          updatedAt := now } := rfl
    refine ⟨p, ?_⟩
    unfold insertSubscription
    rw [bind_of_ok (begin_healthy rfl), bind_of_ok (scanOrRollback_healthy rfl rfl hins hscan)]
    exact (finishWrite_healthy rfl rfl hcells hp).imp fun _ h => h.1

end Insert

/-! ## The update -/

theorem upsertSubscriptionTuple_ok_iff {t : SubscriptionTuple} {d : Db} :
    (∃ r, upsertSubscriptionTuple t d = .ok r) ↔ t.stored.check = true := by
  unfold upsertSubscriptionTuple
  split_ifs <;> simp_all

theorem upsertCellSubscription_ok_iff {sid : String} {v l now : Int} {d : Db}
    (hsid : ∃ x ∈ d.subscriptions, x.id = sid) :
    (∃ d', upsertCellSubscription ⟨v, l, sid, now⟩ d = .ok d') ↔ 0 ≤ l ∧ l ≤ 30 := by
  obtain ⟨x, hx, rfl⟩ := hsid
  unfold upsertCellSubscription cellSubscriptionChecks
  dsimp only
  split_ifs with hl hfk
  · simp only [List.all_eq_true, decide_eq_true_eq] at hfk
    exact absurd rfl (hfk x hx)
  · simp [hl]
  · simp [hl]

/-- **The cell loop of an update** goes through exactly when every cell is below `2^63` at a level
the `CHECK` accepts: an `UPSERT` replaces a row of the same key, so a cell may come twice. -/
theorem writeCells_upsertCellSubscription_iff {sid : String} {now : Int} :
    ∀ {cells : List CellID} {d : Db}, (∃ x ∈ d.subscriptions, x.id = sid) →
      ((∃ d', writeCells (fun cell level now d => upsertCellSubscription ⟨cell, level, sid, now⟩ d)
          cells now d = .ok d') ↔
        ∀ cell ∈ cells, cell.toNat < 2 ^ 63 ∧ 0 ≤ cell.level ∧ cell.level ≤ 30)
  | [], d, _ => by
    simp only [List.not_mem_nil, false_imp_iff, implies_true, iff_true]
    exact ⟨d, rfl⟩
  | cell :: cells, d, hsid => by
    rw [writeCells_cons, List.forall_mem_cons]
    by_cases hb : 2 ^ 63 ≤ cell.toNat
    · simp only [driverValue_high hb, Except.bind, reduceCtorEq, exists_false, false_iff, not_and]
      exact fun h => absurd h.1 (not_lt.mpr hb)
    rw [CellID.driverValue, if_neg hb]
    simp only [Except.bind]
    rcases hups : upsertCellSubscription ⟨cell.toNat, cell.level, sid, now⟩ d with e | d₁
    · have hbad := mt (@upsertCellSubscription_ok_iff sid cell.toNat cell.level now d hsid).mpr
        (by simp [hups])
      simp only [reduceCtorEq, exists_false, false_iff, not_and]
      exact fun h => absurd h.2 hbad
    have hcell := (upsertCellSubscription_ok_iff hsid).mp ⟨d₁, hups⟩
    have hsid₁ : ∃ x ∈ d₁.subscriptions, x.id = sid := by
      rw [upsertCellSubscription_ok hups]; exact hsid
    dsimp only
    rw [writeCells_upsertCellSubscription_iff hsid₁]
    exact ⟨fun h => ⟨⟨not_le.mp hb, hcell⟩, h⟩, fun h => h.2⟩

/-- With unique ids, the read of an id finds its row. -/
theorem selectSubscriptionByID_of_keysUnique {d : Db} (hk : KeysUnique d) {t : SubscriptionTuple}
    (ht : t ∈ d.subscriptions) : ∃ rest, selectSubscriptionByID t.id d = t :: rest := by
  have hne : selectSubscriptionByID t.id d ≠ [] :=
    List.ne_nil_of_mem (List.mem_filter.mpr ⟨ht, decide_eq_true rfl⟩)
  obtain ⟨t', rest, hsel⟩ := List.exists_cons_of_ne_nil hne
  obtain ⟨ht', hid⟩ := List.mem_filter.mp (hsel ▸ List.mem_cons_self t' rest)
  exact ⟨rest, hsel.trans (by rw [List.inj_on_of_nodup_map hk ht' ht (of_decide_eq_true hid)])⟩

section Update

variable {d : Db} {now : Int}

/-- With a backend that fails no round trip, on tables whose ids are unique, `updateSubscription`
goes through exactly when a row of the id is stored, the version is empty or the row's, the
overlaid row as stored passes the `CHECK` and converts back, and every cell is below `2^63` at a
level the `CHECK` accepts. -/
theorem updateSubscription_healthy_iff (hk : KeysUnique d) (s : Dspb.Subscription)
    (cells : List CellID) :
    (∃ r c, updateSubscription s cells (Conn.start d now []) = .ok r c) ↔
      ∃ t ∈ d.subscriptions, t.id = s.id ∧ ∃ sr, SubscriptionsRow.scan t = .ok sr ∧
        (s.version = "" ∨ s.version = timestampToVersionString t.updatedAt) ∧
        ((SubscriptionsRow.applyProtobuf s sr).state.values now).stored.check = true ∧
        (SubscriptionsRow.applyProtobuf s sr).state.stored.TimesInRange ∧
        ∀ cell ∈ cells, cell.toNat < 2 ^ 63 ∧ 0 ≤ cell.level ∧ cell.level ≤ 30 := by
  have hstored : ∀ {sr : SubscriptionsRow} {rows d₁}, upsertSubscriptionTuple
      ((SubscriptionsRow.applyProtobuf s sr).state.values now) d = .ok (rows, d₁) →
      ∃ x ∈ d₁.subscriptions, x.id = (SubscriptionsRow.applyProtobuf s sr).state.id :=
    fun h => by rw [(upsertSubscriptionTuple_ok h).2]; exact ⟨_, List.mem_cons_self _ _, rfl⟩
  constructor
  · rintro ⟨r, c, h⟩
    obtain ⟨sr, d₁, hscan, hver, hups, hcells, hp⟩ := updateSubscription_ok h
    obtain ⟨hmem, hid⟩ := scan_selectSubscriptionByID hscan
    have htimes := (SubscriptionsRow.toProtobuf_ok_iff _).mp ⟨r, hp⟩
    refine ⟨_, hmem, hid, sr, ?_, (sr.versionOK_iff _).mp hver,
      upsertSubscriptionTuple_ok_iff.mp ⟨_, hups⟩, htimes,
      (writeCells_upsertCellSubscription_iff (hstored hups)).mp ⟨_, hcells⟩⟩
    exact SubscriptionsRow.scan_values _ _
  · rintro ⟨t, ht, hid, sr, hsr, hver, hcheck, htimes, hall⟩
    obtain ⟨rest, hsel⟩ := selectSubscriptionByID_of_keysUnique hk ht
    have hscan : (queryRow (selectSubscriptionByID s.id d) >>= SubscriptionsRow.scan) = .ok sr := by
      rw [← hid, hsel]; exact hsr
    rw [SubscriptionsRow.values_of_scan hsr] at hver
    have hok : sr.versionOK s.version = true := (sr.versionOK_iff _).mpr hver
    obtain ⟨⟨rows, d₁⟩, hups⟩ := upsertSubscriptionTuple_ok_iff.mpr hcheck
    obtain ⟨rfl, -⟩ := upsertSubscriptionTuple_ok hups
    obtain ⟨d', hcells⟩ :=
      (@writeCells_upsertCellSubscription_iff _ now _ _ (hstored hups)).mpr hall
    obtain ⟨p, hp⟩ := (SubscriptionsRow.toProtobuf_ok_iff
      { (SubscriptionsRow.applyProtobuf s sr).state.stored with updatedAt := now }).mpr htimes
    refine ⟨p, ?_⟩
    unfold updateSubscription
    rw [bind_of_ok (begin_healthy rfl), bind_of_ok (scanOrRollback_healthy rfl rfl rfl hscan)]
    have hscan' : (queryRow [((SubscriptionsRow.applyProtobuf s sr).state.values now).stored] >>=
        SubscriptionsRow.scan) = .ok { (SubscriptionsRow.applyProtobuf s sr).state.stored with
          updatedAt := now } := rfl
    rw [hok, Bool.not_true, if_neg Bool.false_ne_true, bind_of_ok (pure_apply () _),
      bind_of_ok (scanOrRollback_healthy rfl rfl hups hscan')]
    exact (finishWrite_healthy rfl rfl hcells hp).imp fun _ h => h.1

end Update

/-! ## The ISA insert -/

/-- The cell ids `cells_identification_service_areas` holds for ISA `id`. -/
def isaCellIds (id : String) (d : Db) : List Int :=
  (d.cellsIdentificationServiceAreas.filter fun q => q.identificationServiceAreaId = id).map
    CellIsaTuple.cellId

theorem isaCellIds_insertCell (iid : String) (v l now : Int) (d : Db) :
    isaCellIds iid { d with cellsIdentificationServiceAreas :=
      ⟨v, l, iid, now⟩ :: d.cellsIdentificationServiceAreas } = v :: isaCellIds iid d := by
  simp [isaCellIds]

/-- One cell row of a stored ISA goes in exactly when its level passes the `CHECK` and the ISA
has no row of that cell yet. -/
theorem insertCellIsa_ok_iff {iid : String} {v l now : Int} {d : Db}
    (hiid : ∃ x ∈ d.identificationServiceAreas, x.id = iid) :
    (∃ d', insertCellIsa ⟨v, l, iid, now⟩ d = .ok d') ↔
      (0 ≤ l ∧ l ≤ 30) ∧ v ∉ isaCellIds iid d := by
  obtain ⟨x, hx, rfl⟩ := hiid
  unfold insertCellIsa insertKeyed
  dsimp only
  split_ifs with hl hfk hk
  · simp only [List.all_eq_true, decide_eq_true_eq] at hfk
    exact absurd rfl (hfk x hx)
  · obtain ⟨q, hq, hqk⟩ := List.any_eq_true.mp hk
    obtain ⟨hc, hs⟩ := Prod.mk.inj (of_decide_eq_true hqk)
    simp only [Except.map, reduceCtorEq, exists_false, false_iff, not_and, not_not]
    exact fun _ => List.mem_map.mpr ⟨q, List.mem_filter.mpr ⟨hq, decide_eq_true hs⟩, hc⟩
  · simp only [Except.map, Except.ok.injEq, exists_eq', true_iff]
    refine ⟨hl, fun h => hk ?_⟩
    obtain ⟨q, hq, hc⟩ := List.mem_map.mp h
    obtain ⟨hq, hs⟩ := List.mem_filter.mp hq
    exact List.any_eq_true.mpr ⟨q, hq, by simp [of_decide_eq_true hs, hc]⟩
  · simp [hl]

theorem writeCells_insertCellIsa_iff {iid : String} {now : Int} :
    ∀ {cells : List CellID} {d : Db}, (∃ x ∈ d.identificationServiceAreas, x.id = iid) →
      ((∃ d', writeCells (fun cell level now d => insertCellIsa ⟨cell, level, iid, now⟩ d)
          cells now d = .ok d') ↔
        (∀ cell ∈ cells, cell.toNat < 2 ^ 63 ∧ (0 ≤ cell.level ∧ cell.level ≤ 30) ∧
          (cell.toNat : Int) ∉ isaCellIds iid d) ∧ cells.Nodup) :=
  @writeCells_insert_iff _ (fun d => ∃ x ∈ d.identificationServiceAreas, x.id = iid)
    (isaCellIds iid) now insertCellIsa_ok_iff fun hinv h => by
      rw [insertCellIsa_ok h]; exact ⟨hinv, isaCellIds_insertCell _ _ _ _ _⟩

theorem insertIdentificationServiceAreaRow_ok_iff {isar : IdentificationServiceAreaRow} {d : Db} :
    (∃ r, insertIdentificationServiceAreaRow isar d = .ok r) ↔
      Sql.timestamptz isar.startsAt < Sql.timestamptz isar.endsAt ∧
        isar.id ∉ d.identificationServiceAreas.map IdentificationServiceAreaRow.id := by
  unfold insertIdentificationServiceAreaRow insertKeyed
  split_ifs <;> simp_all [Except.map, IdentificationServiceAreaRow.stored]

theorem checkedTimestamp_of_valid {ts : Timestamp} (h : Ptypes.validateTimestamp (some ts) = none) :
    checkedTimestamp (some ts) = .ok (Ptypes.timestamp (some ts)).1 := by
  simp [checkedTimestamp, Ptypes.timestamp, h]

section Isa

variable {d : Db} {now : Int}

/-- On tables whose cell rows name stored ISAs, an id no ISA has has no cell rows. -/
theorem IsaCellsOwned.isaCellIds_eq_nil {id : String} (hd : IsaCellsOwned d)
    (hfresh : id ∉ d.identificationServiceAreas.map IdentificationServiceAreaRow.id) :
    isaCellIds id d = [] := by
  refine List.eq_nil_iff_forall_not_mem.mpr fun cid hcid => ?_
  obtain ⟨q, hq, rfl⟩ := List.mem_map.mp hcid
  obtain ⟨hq, hqid⟩ := List.mem_filter.mp hq
  obtain ⟨x, hx, hxq⟩ := hd q hq
  exact hfresh (List.mem_map.mpr ⟨x, hx, hxq.trans (of_decide_eq_true hqid)⟩)

/-- The ISA insert, run forwards: when both ends are accepted, the row and its cell rows go in and
the rounded ends convert back, it answers the area with the converted ends. -/
theorem insertIdentificationServiceAreaUnchecked_healthy {sa : IdentificationServiceArea}
    {cells : List CellID} {starts ends : Int} {d₁ d' : Db} {p p' : Timestamp}
    (hstarts : checkedTimestamp (sa.extents.bind Volume4D.timeStart) = .ok starts)
    (hends : checkedTimestamp (sa.extents.bind Volume4D.timeEnd) = .ok ends)
    (hins : insertIdentificationServiceAreaRow ⟨sa.id, sa.owner, sa.flightsUrl, starts, ends, now⟩
      d = .ok ([IdentificationServiceAreaRow.stored
        ⟨sa.id, sa.owner, sa.flightsUrl, starts, ends, now⟩], d₁))
    (hcells : writeCells (fun cell level now d => insertCellIsa ⟨cell, level, sa.id, now⟩ d) cells
      now d₁ = .ok d')
    (hp : Ptypes.timestampProto (Sql.timestamptz starts) = .ok p)
    (hp' : Ptypes.timestampProto (Sql.timestamptz ends) = .ok p') :
    ∃ c, insertIdentificationServiceAreaUnchecked sa cells (Conn.start d now []) =
      .ok { id := sa.id, owner := sa.owner, flightsUrl := sa.flightsUrl, version := "",
            extents := some ⟨some p, some p'⟩ } c := by
  unfold insertIdentificationServiceAreaUnchecked
  rw [hstarts, hends]
  simp only [orThrow, pure_bind]
  rw [bind_of_ok (begin_healthy rfl),
    bind_of_ok ((attempt_ok (r := .ok _)).mpr (statement_healthy rfl rfl hins))]
  simp only [orRollback, queryRow, pure_bind]
  refine exists_bind_ok (execCells_healthy rfl rfl hcells) fun c' ⟨ha, hf, _⟩ => ?_
  simp only [IdentificationServiceAreaRow.stored, hp, hp', pure_bind]
  exact ⟨_, (bind_of_ok (commit_healthy ha hf)).trans (pure_apply _ _)⟩

/-- With a backend that fails no round trip, on tables whose cell rows name stored ISAs,
`insertIdentificationServiceAreaUnchecked` goes through exactly when both ends of the extents are
timestamps `ptypes` accepts, in order and in range once rounded to microseconds, the id is new,
every cell is below `2^63` at a level the `CHECK` accepts, and no cell comes twice. -/
theorem insertIdentificationServiceAreaUnchecked_healthy_iff (hd : IsaCellsOwned d)
    (sa : IdentificationServiceArea) (cells : List CellID) :
    (∃ r c, insertIdentificationServiceAreaUnchecked sa cells (Conn.start d now []) = .ok r c) ↔
      ∃ starts ends, checkedTimestamp (sa.extents.bind Volume4D.timeStart) = .ok starts ∧
        checkedTimestamp (sa.extents.bind Volume4D.timeEnd) = .ok ends ∧
        Sql.timestamptz starts < Sql.timestamptz ends ∧
        Ptypes.InRange (Sql.timestamptz starts) ∧ Ptypes.InRange (Sql.timestamptz ends) ∧
        sa.id ∉ d.identificationServiceAreas.map IdentificationServiceAreaRow.id ∧
        (∀ cell ∈ cells, cell.toNat < 2 ^ 63 ∧ 0 ≤ cell.level ∧ cell.level ≤ 30) ∧ cells.Nodup := by
  constructor
  · rintro ⟨r, c, h⟩
    obtain ⟨ts, ts', d₁, p, p', hts, hts', hv, hv', hins, hcells, hp, hp', -⟩ :=
      insertIdentificationServiceAreaUnchecked_ok h
    obtain ⟨hlt, hfresh⟩ := insertIdentificationServiceAreaRow_ok_iff.mp ⟨_, hins⟩
    have hinv : ∃ x ∈ d₁.identificationServiceAreas, x.id = sa.id := by
      rw [(insertIdentificationServiceAreaRow_ok hins).2]; exact ⟨_, List.mem_cons_self _ _, rfl⟩
    obtain ⟨hall, hnd⟩ := (writeCells_insertCellIsa_iff hinv).mp ⟨_, hcells⟩
    exact ⟨_, _, hts ▸ checkedTimestamp_of_valid hv, hts' ▸ checkedTimestamp_of_valid hv', hlt,
      (Ptypes.timestampProto_eq_ok_iff.mp hp).1, (Ptypes.timestampProto_eq_ok_iff.mp hp').1,
      hfresh, fun cell hc => ⟨(hall cell hc).1, (hall cell hc).2.1⟩, hnd⟩
  · rintro ⟨starts, ends, hstarts, hends, hlt, hin, hin', hfresh, hall, hnd⟩
    obtain ⟨⟨rows, d₁⟩, hins⟩ : ∃ r, insertIdentificationServiceAreaRow
        ⟨sa.id, sa.owner, sa.flightsUrl, starts, ends, now⟩ d = .ok r :=
      insertIdentificationServiceAreaRow_ok_iff.mpr ⟨hlt, hfresh⟩
    obtain ⟨rfl, hd₁⟩ := insertIdentificationServiceAreaRow_ok hins
    have hinv : ∃ x ∈ d₁.identificationServiceAreas, x.id = sa.id := by
      rw [hd₁]; exact ⟨_, List.mem_cons_self _ _, rfl⟩
    have hnone : isaCellIds sa.id d₁ = [] := by rw [hd₁]; exact hd.isaCellIds_eq_nil hfresh
    obtain ⟨d', hcells⟩ := (@writeCells_insertCellIsa_iff sa.id now cells d₁ hinv).mpr
      ⟨fun cell hc => ⟨(hall cell hc).1, (hall cell hc).2, by rw [hnone]; exact List.not_mem_nil _⟩,
        hnd⟩
    exact ⟨_, insertIdentificationServiceAreaUnchecked_healthy hstarts hends hins hcells
      (Ptypes.timestampProto_eq_ok_iff.mpr ⟨hin, rfl⟩)
      (Ptypes.timestampProto_eq_ok_iff.mpr ⟨hin', rfl⟩)⟩

end Isa

/-! ## On every run -/

/-- **When the older store's insert goes through.**  On every state a run reaches, whatever its
calls, arguments, timestamps and backend faults, `insertSubscription` of a subscription whose id is
the text of a UUID, with a backend that fails no round trip, goes through exactly when no stored
subscription has the id, the times it keeps, rounded to microseconds as `subscriptions` stores them,
pass the `CHECK begins_at < expires_at` and convert back in `toProtobuf`, every cell is below `2^63`
(`pq`'s converter refuses the others) with a level the `CHECK` on `cell_level` accepts, and no cell
is handed twice: the primary key `(cell_id, subscription_id)` refuses the second row of a repeated
cell, and the transaction is rolled back. -/
theorem insert_goes_through_iff (steps : List Step) (s : Dspb.Subscription) (cells : List CellID)
    (now : Int) : Sql.uuidText s.id = true →
    ((∃ r c, insertSubscription s cells (Conn.start (replay steps) now []) = .ok r c) ↔
      s.id ∉ (replay steps).subscriptions.map SubscriptionTuple.id ∧
      ((SubscriptionsRow.applyProtobuf s .zero).state.values now).stored.check = true ∧
      (SubscriptionsRow.applyProtobuf s .zero).state.stored.TimesInRange ∧
      (∀ cell ∈ cells, cell.toNat < 2 ^ 63 ∧ 0 ≤ cell.level ∧ cell.level ≤ 30) ∧ cells.Nodup) :=
  fun _ => by
    have hi := cellIndex_foldl steps History.init cellIndex_empty
    rw [History.foldl_db] at hi
    exact insertSubscription_healthy_iff hi s cells

/-- `subscriptionA` to begin and expire 300 ns apart, within one microsecond at 10:00. -/
def subscriptionWithinMicrosecond : Dspb.Subscription :=
  { subscriptionA with begins := some ⟨1573034400, 100⟩, expires := some ⟨1573034400, 400⟩ }

/-- From bootstrap, the insert of `subscriptionWithinMicrosecond` is refused: its times, in order
as sent, are equal once rounded. -/
theorem insert_goes_through_iff_withinMicrosecond :
    ¬∃ r c, insertSubscription subscriptionWithinMicrosecond [42]
      (Conn.start (replay []) 1573030800000000000 []) = .ok r c :=
  mt (insert_goes_through_iff [] _ [42] _ (by decide)).mp (by decide)

/-- A cell handed twice: the insert is rolled back. -/
example : (replay [⟨.insertSubscription subscriptionA [42, 42], 1573030800000000000, []⟩])
    = Db.empty := by decide

/-- **When the older store's update goes through.**  On every state a run reaches, whatever its
calls, arguments, timestamps and backend faults, `updateSubscription` of a subscription whose id is
the text of a UUID, with a backend that fails no round trip, goes through exactly when a row of the
id is stored, whoever owns it, the caller's version is empty or `timestampToVersionString` of the
row's `updated_at`, the row overlaid by `applyProtobuf`, its times rounded to microseconds as
`subscriptions` stores them, passes `CHECK (begins_at IS NULL OR expires_at IS NULL OR begins_at <
expires_at)` and converts back in `toProtobuf`, and every cell is below `2^63` with a level the
`CHECK` on `cell_level` accepts.  Unlike the insert it accepts a cell handed twice: the second
`UPSERT` replaces the first row. -/
theorem update_goes_through_iff (steps : List Step) (s : Dspb.Subscription) (cells : List CellID)
    (now : Int) : Sql.uuidText s.id = true →
    ((∃ r c, updateSubscription s cells (Conn.start (replay steps) now []) = .ok r c) ↔
      ∃ t ∈ (replay steps).subscriptions, t.id = s.id ∧ ∃ sr, SubscriptionsRow.scan t = .ok sr ∧
        (s.version = "" ∨ s.version = timestampToVersionString t.updatedAt) ∧
        ((SubscriptionsRow.applyProtobuf s sr).state.values now).stored.check = true ∧
        (SubscriptionsRow.applyProtobuf s sr).state.stored.TimesInRange ∧
        ∀ cell ∈ cells, cell.toNat < 2 ^ 63 ∧ 0 ≤ cell.level ∧ cell.level ≤ 30) :=
  fun _ => updateSubscription_healthy_iff (keysUnique_replay steps) s cells

/-- `subscriptionA` at the version of 09:00 on 6 November 2019, to expire at 12:00. -/
def rescheduledA : Dspb.Subscription :=
  { subscriptionA with version := timestampToVersionString 1573030800000000000,
                       expires := some ⟨1573041600, 0⟩ }

/-- `subscriptionA`, inserted at 09:00, is updated by `rescheduledA` at 10:00. -/
theorem update_goes_through_iff_rescheduledA :
    ∃ r c, updateSubscription rescheduledA [42]
      (Conn.start (replay [⟨.insertSubscription subscriptionA [], 1573030800000000000, []⟩])
        1573034400000000000 []) = .ok r c :=
  (update_goes_through_iff _ rescheduledA [42] _ (by decide)).mpr
    ⟨_, List.mem_singleton.mpr rfl, rfl, _, rfl, .inr rfl, by decide, by decide, by decide⟩

/-- An update handed a cell twice goes through, and indexes it once. -/
example : cellIds subscriptionA.id (replay
    [⟨.insertSubscription subscriptionA [42], 1573030800000000000, []⟩,
     ⟨.updateSubscription subscriptionA [84, 84], 1573034400000000000, []⟩]) = [84, 42] := by
  decide

/-- **When the older store's ISA insert goes through.**  On every state a run reaches, whatever its
calls, arguments, timestamps and backend faults, `insertIdentificationServiceAreaUnchecked` of an
area whose id is the text of a UUID, with a backend that fails no round trip, goes through exactly
when `ptypes.Timestamp` accepts both ends of the extents, the start comes before the end once both
are rounded to microseconds as `identification_service_areas` stores them (`CHECK (starts_at IS
NULL OR ends_at IS NULL OR starts_at < ends_at)`), both rounded ends convert back in
`TimestampProto`, no stored ISA has the id, every cell is below `2^63` with a level the `CHECK` on
`cell_level` accepts, and no cell is handed twice. -/
theorem isa_insert_goes_through_iff (steps : List Step) (sa : IdentificationServiceArea)
    (cells : List CellID) (now : Int) : Sql.uuidText sa.id = true →
    ((∃ r c, insertIdentificationServiceAreaUnchecked sa cells
        (Conn.start (replay steps) now []) = .ok r c) ↔
      ∃ starts ends, checkedTimestamp (sa.extents.bind Volume4D.timeStart) = .ok starts ∧
        checkedTimestamp (sa.extents.bind Volume4D.timeEnd) = .ok ends ∧
        Sql.timestamptz starts < Sql.timestamptz ends ∧
        Ptypes.InRange (Sql.timestamptz starts) ∧ Ptypes.InRange (Sql.timestamptz ends) ∧
        sa.id ∉ (replay steps).identificationServiceAreas.map IdentificationServiceAreaRow.id ∧
        (∀ cell ∈ cells, cell.toNat < 2 ^ 63 ∧ 0 ≤ cell.level ∧ cell.level ≤ 30) ∧ cells.Nodup) :=
  fun _ =>
    insertIdentificationServiceAreaUnchecked_healthy_iff (isaCellsOwned_replay steps) sa cells

/-- An area of owner `A` over the two hours from 10:00 on 6 November 2019. -/
def areaA : IdentificationServiceArea :=
  ⟨"6ba7b811-9dad-11d1-80b4-00c04fd430c8", "A", "f", "",
    some ⟨some ⟨1573034400, 0⟩, some ⟨1573041600, 0⟩⟩⟩

/-- From bootstrap, `areaA` is inserted at 09:00 over cell 42. -/
theorem isa_insert_goes_through_iff_areaA :
    ∃ r c, insertIdentificationServiceAreaUnchecked areaA [42]
      (Conn.start (replay []) 1573030800000000000 []) = .ok r c :=
  (isa_insert_goes_through_iff [] areaA [42] _ (by decide)).mpr
    ⟨_, _, rfl, rfl, by decide, by decide, by decide, by decide, by decide, by decide⟩

/-- An ISA whose extents end before they start is refused. -/
example : replay [⟨.insertIdentificationServiceAreaUnchecked
    { areaA with extents := some ⟨some ⟨1573041600, 0⟩, some ⟨1573034400, 0⟩⟩ } [42],
      1573030800000000000, []⟩] = Db.empty := by
  decide

end ProtoStore
end DssStore
