import DssStore.ProtoStore.Store

/-!
# What the ISA deletion does

`deleteIdentificationServiceArea_ok` says what a successful `DeleteIdentificationServiceArea`
did, from one lemma per stage of it; `sealed_deleteIdentificationServiceArea` that a failed one
changed nothing.  Two things follow from the queries the stages run:

* **the subscriber query notifies every subscription that has not expired**
  (`deleteIdentificationServiceArea_notifies_unexpired`), whatever its owner and its cells: the
  last disjunct of its `WHERE` clause, `transaction_timestamp() <= expires_at`, stands alone;
* **an ISA with a cell no subscription covers cannot be deleted**
  (`deleteIdentificationServiceArea_ne_ok_of_uncovered`): its `LEFT JOIN` pairs that cell with
  NULL, and the scan of NULL into a Go `string` fails.

Each is followed by a state on which it shows.
-/

set_option autoImplicit false

namespace DssStore
namespace ProtoStore

variable {c c' : Conn Db}

/-! ## The stages -/

theorem readAffected_ok {id : String} {subscriptions : List String}
    (h : readAffected id c = .ok subscriptions c') :
    ∃ cells, scanAffected (affectedCellsAndSubscriptions id c.view) = .ok (cells, subscriptions) ∧
      c'.view = c.view ∧ Continues c c' := by
  unfold readAffected at h
  obtain ⟨r₁, c₁, h₁, h⟩ := bind_ok.mp h
  split at h
  · exact absurd h rollbackWith_bind_ne_ok
  obtain ⟨_, _, hp, h⟩ := bind_ok.mp h
  cases hp
  obtain ⟨rfl, hv₁, hc₁⟩ := query_ok (attempt_ok.mp h₁)
  rcases hscan : scanAffected (affectedCellsAndSubscriptions id c.view) with e | ⟨cells, _⟩ <;>
    simp only [hscan] at h
  · exact absurd h rollbackWith_ne_ok
  · cases h
    exact ⟨cells, rfl, hv₁, hc₁⟩

/-- The deletion either found its row, and carries on with it deleted, or ended the
transaction. -/
theorem deleteRow_ok {id owner : String} {isar : IdentificationServiceAreaRow}
    (h : deleteRow id owner c = .ok isar c') :
    (∃ rest, (deleteIdentificationServiceAreaRows id owner c.view).1 = isar :: rest ∧
      c'.view = (deleteIdentificationServiceAreaRows id owner c.view).2 ∧ Continues c c') ∨
    c'.phase ≠ .active := by
  unfold deleteRow at h
  obtain ⟨r₁, c₁, h₁, h⟩ := bind_ok.mp h
  split at h
  · rename_i rest
    rw [pure_apply] at h
    cases h
    obtain ⟨_, -, hrun, hc₁⟩ := statement_ok (attempt_ok.mp h₁)
    have hrows : deleteIdentificationServiceAreaRows id owner c.view = (isar :: rest, c'.view) := by
      simpa using hrun
    exact .inl ⟨rest, by rw [hrows], by rw [hrows], hc₁⟩
  · obtain ⟨_, c₂, h₂, h⟩ := bind_ok.mp h
    rw [pure_apply] at h
    cases h
    exact .inr (rollback_ended h₂)

theorem readSubscribers_ok {subscriptions : List String} {owner : String}
    {subscribers : List SubscriberRow} (h : readSubscribers subscriptions owner c = .ok subscribers c') :
    c.phase = .active ∧ scanSubscribers (subscriptionDetailsForAffectedCells
      (StringArray.value subscriptions) owner c.now c.view) = .ok subscribers ∧
      c'.view = c.view ∧ Continues c c' := by
  unfold readSubscribers at h
  obtain ⟨r₁, c₁, h₁, h⟩ := bind_ok.mp h
  split at h
  · exact absurd h rollbackWith_bind_ne_ok
  obtain ⟨_, _, hp, h⟩ := bind_ok.mp h
  cases hp
  have hq := attempt_ok.mp h₁
  obtain ⟨rfl, hv₁, hc₁⟩ := query_ok hq
  rcases hscan : scanSubscribers (subscriptionDetailsForAffectedCells
      (StringArray.value subscriptions) owner c.now c.view) with e | _ <;> simp only [hscan] at h
  · exact absurd h rollbackWith_ne_ok
  · cases h
    exact ⟨active_of_statement_ok hq, rfl, hv₁, hc₁⟩

theorem respond_ok {isar : IdentificationServiceAreaRow} {subscribers : List SubscriberRow}
    {r : IdentificationServiceArea × List SubscriberToNotify} (h : respond isar subscribers c = .ok r c') :
    c' = c ∧ isar.toProtobuf = .ok r.1 ∧ subscribers.mapM SubscriberRow.toProtobuf = .ok r.2 := by
  unfold respond at h
  rcases hisa : isar.toProtobuf with e | isa <;> simp only [hisa] at h
  · exact absurd h rollbackWith_bind_ne_ok
  obtain ⟨_, _, hp, h⟩ := bind_ok.mp h
  cases hp
  rcases hsubs : subscribers.mapM SubscriberRow.toProtobuf with e | _ <;> simp only [hsubs] at h
  · exact absurd h rollbackWith_ne_ok
  · cases h
    exact ⟨rfl, rfl, rfl⟩

/-! ## The whole deletion -/

variable {id owner : String} {d : Db} {now : Int} {fs : List Bool}

/-- **A successful ISA deletion** scanned every affected pair, deleted a row of the ISA with its
cell rows, and answers with that row and with the subscribers its query found. -/
theorem deleteIdentificationServiceArea_ok {r : IdentificationServiceArea × List SubscriberToNotify}
    (h : deleteIdentificationServiceArea id owner (Conn.start d now fs) = .ok r c') :
    ∃ cells subscriptions isar rest subscribers,
      scanAffected (affectedCellsAndSubscriptions id d) = .ok (cells, subscriptions) ∧
      (deleteIdentificationServiceAreaRows id owner d).1 = isar :: rest ∧
      c'.db = (deleteIdentificationServiceAreaRows id owner d).2 ∧
      scanSubscribers (subscriptionDetailsForAffectedCells (StringArray.value subscriptions) owner
        now d) = .ok subscribers ∧
      isar.toProtobuf = .ok r.1 ∧ subscribers.mapM SubscriberRow.toProtobuf = .ok r.2 := by
  unfold deleteIdentificationServiceArea at h
  obtain ⟨_, c₁, h₁, h⟩ := bind_ok.mp h
  obtain ⟨hv₁, -, -, hn₁⟩ := begin_ok h₁
  obtain ⟨subscriptions, c₂, h₂, h⟩ := bind_ok.mp h
  obtain ⟨cells, hscan, hv₂, hc₂⟩ := readAffected_ok h₂
  obtain ⟨isar, c₃, h₃, h⟩ := bind_ok.mp h
  obtain ⟨subscribers, c₄, h₄, h⟩ := bind_ok.mp h
  obtain ⟨hactive, hsubs, hv₄, hc₄⟩ := readSubscribers_ok h₄
  obtain ⟨rest, hrows, hv₃, hc₃⟩ := (deleteRow_ok h₃).resolve_right (· hactive)
  obtain ⟨r', c₅, h₅, h⟩ := bind_ok.mp h
  obtain ⟨hc₅, hisa, hmap⟩ := respond_ok h₅
  obtain ⟨_, c₆, h₆, h⟩ := bind_ok.mp h
  cases h
  obtain ⟨-, hdb, -⟩ := commit_ok h₆
  rw [hc₅] at hdb
  have hview : c₂.view = d := hv₂.trans hv₁
  have hnow : c₃.now = now := hc₃.now.trans (hc₂.now.trans hn₁)
  rw [hview] at hrows hv₃
  rw [hv₃, hnow] at hsubs
  rw [hv₁] at hscan
  exact ⟨cells, subscriptions, isar, rest, subscribers, hscan, hrows, hdb.trans (hv₄.trans hv₃),
    hsubs, hisa, hmap⟩

section Stages

variable {P : ∀ {α : Type}, Tx Db α → Prop}

theorem stagewise_readAffected (hP : Stagewise P) (id : String) : P (readAffected id) := by
  have hscan : ∀ rows : List (Int × Option String), P (match scanAffected rows with
      | .error e => rollbackWith e
      | .ok (_, subscriptions) => pure subscriptions : Tx Db (List String)) := fun rows => by
    split
    · exact hP.rollbackWith _
    · exact hP.pure _
  refine hP.bind (hP.attempt _ _) fun r => ?_
  split
  · exact hP.bind (hP.rollbackWith _) hscan
  · exact hP.bind (hP.pure _) hscan

theorem stagewise_deleteRow (hP : Stagewise P) (id owner : String) : P (deleteRow id owner) := by
  refine hP.bind (hP.attempt _ _) fun r => ?_
  split
  · exact hP.pure _
  · exact hP.bind hP.rollback fun _ => hP.pure _

theorem stagewise_readSubscribers (hP : Stagewise P) (subscriptions : List String)
    (owner : String) : P (readSubscribers subscriptions owner) := by
  have hscan : ∀ details : List (String × String × Option Int), P (match scanSubscribers details with
      | .error e => rollbackWith e
      | .ok subscribers => pure subscribers : Tx Db (List SubscriberRow)) := fun details => by
    split
    · exact hP.rollbackWith _
    · exact hP.pure _
  refine hP.bind (hP.attempt _ _) fun r => ?_
  split
  · exact hP.bind (hP.rollbackWith _) hscan
  · exact hP.bind (hP.pure _) hscan

theorem stagewise_respond (hP : Stagewise P) (isar : IdentificationServiceAreaRow)
    (subscribers : List SubscriberRow) : P (respond isar subscribers) := by
  have hmap : ∀ isa, P (match subscribers.mapM SubscriberRow.toProtobuf with
      | .error e => rollbackWith e
      | .ok subscribersToNotify => pure (isa, subscribersToNotify) :
        Tx Db (IdentificationServiceArea × List SubscriberToNotify)) := fun isa => by
    rcases subscribers.mapM SubscriberRow.toProtobuf with e | _
    · exact hP.rollbackWith _
    · exact hP.pure _
  unfold respond
  rcases isar.toProtobuf with e | isa
  · exact hP.bind (hP.rollbackWith e) hmap
  · exact hP.bind (hP.pure isa) hmap

end Stages

/-- A failed ISA deletion leaves the tables as they were. -/
theorem sealed_deleteIdentificationServiceArea (id owner : String) :
    Sealed (deleteIdentificationServiceArea id owner) :=
  sealed_bind quiet_begin fun _ => sealed_bind (stagewise_readAffected quiet_stagewise id) fun _ =>
    sealed_bind (stagewise_deleteRow quiet_stagewise id owner) fun isar =>
      sealed_bind (stagewise_readSubscribers quiet_stagewise _ owner) fun subscribers =>
        sealed_bind (stagewise_respond quiet_stagewise isar subscribers) sealed_commit_pure

/-! ## Who is notified -/

/-- A subscription whose `expires_at` is at or after the transaction's timestamp passes the
subscriber query's `WHERE`, whatever the ids, the owner and its `begins_at`. -/
theorem subscriberCondition_of_unexpired {ids : Option (List String)} {x : SubscriptionTuple}
    {e : Int} (he : x.expiresAt = some e) (hn : now ≤ e) :
    subscriberCondition ids owner now x = some true := by
  simp [subscriberCondition, he, Sql.cmp3, hn]

theorem mem_scanSubscribers : ∀ {details : List (String × String × Option Int)}
    {subscribers : List SubscriberRow}, scanSubscribers details = .ok subscribers →
    ∀ {i u : String} {n : Int}, (i, u, some n) ∈ details → (⟨i, u, n⟩ : SubscriberRow) ∈ subscribers
  | [], _, _, _, _, _, h => nomatch h
  | (i', u', some n') :: details, subscribers, h, i, u, n, hmem => by
    simp only [scanSubscribers] at h
    cases hrest : scanSubscribers details with
    | error e => rw [hrest] at h; cases h
    | ok rest =>
      rw [hrest] at h
      cases h
      rcases List.mem_cons.mp hmem with heq | hmem
      · cases heq; exact List.mem_cons_self _ _
      · exact List.mem_cons_of_mem _ (mem_scanSubscribers hrest hmem)
  | (_, _, none) :: _, _, h, _, _, _, _ => by cases h

theorem mapM_toProtobuf (subscribers : List SubscriberRow) :
    subscribers.mapM SubscriberRow.toProtobuf =
      .ok (subscribers.map fun sr => ⟨sr.url, [⟨sr.notificationIndex, sr.id⟩]⟩) := by
  induction subscribers with
  | nil => rfl
  | cons sr subscribers ih =>
    simp only [List.mapM_cons, ih]
    rfl

/-- **Every subscription that has not expired is notified** by a successful ISA deletion: the
subscriptions of the ISA's own owner, and those that share no cell with it, included. -/
theorem deleteIdentificationServiceArea_notifies_unexpired
    {r : IdentificationServiceArea × List SubscriberToNotify}
    (h : deleteIdentificationServiceArea id owner (Conn.start d now fs) = .ok r c')
    {x : SubscriptionTuple} (hx : x ∈ d.subscriptions) {e n : Int} (he : x.expiresAt = some e)
    (hn : now ≤ e) (hidx : x.notificationIndex = some n) :
    (⟨x.url, [⟨n, x.id⟩]⟩ : SubscriberToNotify) ∈ r.2 := by
  obtain ⟨-, subscriptions, -, -, subscribers, -, -, -, hsubs, -, hmap⟩ :=
    deleteIdentificationServiceArea_ok h
  have hdetail : (x.id, x.url, some n) ∈ subscriptionDetailsForAffectedCells
      (StringArray.value subscriptions) owner now d := by
    rw [← hidx]
    exact List.mem_map.mpr ⟨x, Sql.mem_whereTrue.mpr ⟨hx, subscriberCondition_of_unexpired he hn⟩, rfl⟩
  rw [mapM_toProtobuf] at hmap
  rw [← Except.ok.inj hmap]
  exact List.mem_map.mpr ⟨_, mem_scanSubscribers hsubs hdetail, rfl⟩

/-- An ISA `i` of owner `A` over cell 42, from 10:00 to 12:00 on 6 November 2019; a subscription
`s1` of owner `B` over cell 42, and a subscription `s2` of owner `A` over cell 84, expiring at
12:00.  Every row was written at 09:00. -/
def notifyDb : Db :=
  ⟨[⟨"s1", "B", "u1", none, some 0, none, none, none, 1573030800000000000⟩,
     ⟨"s2", "A", "u2", none, some 0, none, none, some 1573041600000000000, 1573030800000000000⟩],
   [⟨42, 30, "s1", 1573030800000000000⟩, ⟨84, 30, "s2", 1573030800000000000⟩],
   [⟨"i", "A", "f", 1573034400000000000, 1573041600000000000, 1573030800000000000⟩],
   [⟨42, 30, "i", 1573030800000000000⟩]⟩

/-- Deleting `i` at 11:00 notifies `s2`, though `s2` is `A`'s own and shares no cell with `i`. -/
theorem isa_delete_notifies_own_unrelated_subscription :
    (∀ x ∈ notifyDb.subscriptions, x.id = "s2" → x.owner = "A") ∧
    (∀ q ∈ notifyDb.cellsIdentificationServiceAreas, q.identificationServiceAreaId = "i" →
      ∀ q' ∈ notifyDb.cellsSubscriptions, q'.subscriptionId = "s2" → q'.cellId ≠ q.cellId) ∧
      ∃ r c, deleteIdentificationServiceArea "i" "A" (Conn.start notifyDb 1573038000000000000 []) =
        .ok r c ∧ (⟨"u2", [⟨0, "s2"⟩]⟩ : SubscriberToNotify) ∈ r.2 := by
  obtain ⟨r, c, h⟩ : ∃ r c,
      deleteIdentificationServiceArea "i" "A" (Conn.start notifyDb 1573038000000000000 []) =
        .ok r c := ⟨_, _, rfl⟩
  exact ⟨by decide, by decide, r, c, h, deleteIdentificationServiceArea_notifies_unexpired h
    (List.mem_cons_of_mem _ (List.mem_singleton_self _)) rfl (by decide) rfl⟩

/-! ## Which ISAs can be deleted -/

/-- A cell of the ISA that no subscription covers comes back from the join paired with NULL. -/
theorem mem_affectedCellsAndSubscriptions_none {q : CellIsaTuple}
    (hq : q ∈ d.cellsIdentificationServiceAreas) (hid : q.identificationServiceAreaId = id)
    (huncovered : ∀ s ∈ d.cellsSubscriptions, s.cellId ≠ q.cellId) :
    (q.cellId, none) ∈ affectedCellsAndSubscriptions id d := by
  have hnil : (Sql.distinct (d.cellsSubscriptions.map fun s => (s.cellId, s.subscriptionId))).filter
      (fun b => decide (q.cellId = b.1)) = [] := by
    refine List.filter_eq_nil_iff.mpr fun b hb hcell => ?_
    obtain ⟨s, hs, rfl⟩ := List.mem_map.mp (Sql.mem_distinct.mp hb)
    exact huncovered s hs (of_decide_eq_true hcell).symm
  exact List.mem_map.mpr ⟨(q, none), List.mem_filter.mpr
    ⟨Sql.mem_leftJoin_of_filter_eq_nil hq hnil, by simpa using hid⟩, rfl⟩

theorem scanAffected_ne_ok_of_mem_none : ∀ {rows : List (Int × Option String)} {cell : Int}
    {r : List Int × List String}, (cell, none) ∈ rows → scanAffected rows ≠ .ok r
  | [], _, _, hmem => nomatch hmem
  | (_, some _) :: rows, cell, r, hmem => fun h => by
    rcases List.mem_cons.mp hmem with heq | hmem
    · cases heq
    · simp only [scanAffected] at h
      cases hrest : scanAffected rows with
      | error e => rw [hrest] at h; cases h
      | ok r' => exact scanAffected_ne_ok_of_mem_none hmem hrest
  | (_, none) :: _, _, _, _ => fun h => by cases h

/-- **An ISA with a cell no subscription covers cannot be deleted**, by its owner or anyone. -/
theorem deleteIdentificationServiceArea_ne_ok_of_uncovered {q : CellIsaTuple}
    (hq : q ∈ d.cellsIdentificationServiceAreas) (hid : q.identificationServiceAreaId = id)
    (huncovered : ∀ s ∈ d.cellsSubscriptions, s.cellId ≠ q.cellId)
    {r : IdentificationServiceArea × List SubscriberToNotify} :
    deleteIdentificationServiceArea id owner (Conn.start d now fs) ≠ .ok r c' := fun h => by
  obtain ⟨_, _, _, _, _, hscan, -⟩ := deleteIdentificationServiceArea_ok h
  exact scanAffected_ne_ok_of_mem_none (mem_affectedCellsAndSubscriptions_none hq hid huncovered)
    hscan

/-- An ISA `i` of owner `A` over cell 42, from 10:00 to 12:00 on 6 November 2019, written at 09:00,
and no subscription. -/
def uncoveredDb : Db :=
  ⟨[], [], [⟨"i", "A", "f", 1573034400000000000, 1573041600000000000, 1573030800000000000⟩],
    [⟨42, 30, "i", 1573030800000000000⟩]⟩

/-- `A` cannot delete `i` at 11:00: the scan of the NULL its join pairs cell 42 with fails, and the
tables stay as they were. -/
theorem isa_delete_fails_on_uncovered_cell :
    uncoveredDb.identificationServiceAreas.filter (fun r => r.id = "i" ∧ r.owner = "A") ≠ [] ∧
      ∃ c, deleteIdentificationServiceArea "i" "A" (Conn.start uncoveredDb 1573038000000000000 []) =
        .error (.scan "sql: Scan error on column index 1, name \"subscription_id\": converting NULL to string is unsupported") c ∧
        c.db = uncoveredDb :=
  ⟨by decide, ⟨_, rfl, rfl⟩⟩

end ProtoStore
end DssStore
