import DssStore.Cockroach.Store

/-!
# What each operation of the newer store does

One lemma per function of `DssStore.Cockroach.Store`, saying what a successful run of it did; the
proofs take the run apart with `bind_ok` and never look inside a callee.  For the four Store
operations the result is stated about the committed tables, and paired with the fact that a
failed operation changes nothing (`Sealed`).

The effect of `pushSubscription` on the tables is `pushTables`: the upsert of the row, the upsert of
one cell row per cell, and the sweep of the subscription's other cell rows.
-/

set_option autoImplicit false

namespace DssStore
namespace Cockroach

variable {c c' : Conn Db}

/-! ## Reading -/

theorem fetchSubscriptions_ok {β : Type} {args : Except Err β}
    {run : β → Int → Db → Except Err (List SubscriptionRow × Db)} {subs : List Subscription}
    (h : fetchSubscriptions args run c = .ok subs c') :
    ∃ a rows, args = .ok a ∧ run a c.now c.view = .ok (rows, c'.view) ∧
      subs = rows.map SubscriptionRow.toModel ∧ Continues c c' := by
  obtain ⟨rows, c₁, h₁, h₂⟩ := bind_ok.mp h
  rw [pure_apply] at h₂
  cases h₂
  obtain ⟨a, ha, hrun, hc⟩ := statement_ok h₁
  exact ⟨a, rows, ha, hrun, rfl, hc⟩

theorem fetchSubscription_ok {β : Type} {args : Except Err β}
    {run : β → Int → Db → Except Err (List SubscriptionRow × Db)} {s : Subscription}
    (h : fetchSubscription args run c = .ok s c') :
    ∃ a r, args = .ok a ∧ run a c.now c.view = .ok ([r], c'.view) ∧ s = r.toModel ∧
      Continues c c' := by
  obtain ⟨subs, c₁, h₁, h₂⟩ := bind_ok.mp h
  obtain ⟨a, rows, ha, hrun, rfl, hc⟩ := fetchSubscriptions_ok h₁
  rcases rows with _ | ⟨r, _ | ⟨r', rows⟩⟩
  · simp [bind_apply] at h₂
  · simp only [bind_apply, List.map_cons, List.map_nil, List.length_singleton] at h₂
    simp at h₂
    obtain ⟨rfl, rfl⟩ := h₂
    exact ⟨a, r, ha, hrun, rfl, hc⟩
  · simp [bind_apply] at h₂

/-- A read by `fetchSubscription` fails with `sql.ErrNoRows` only when it found no row, and
then it has kept the transaction open. -/
theorem fetchSubscription_noRows {rows : Db → List SubscriptionRow} (ha : c.phase = .active)
    (h : fetchSubscription (.ok ()) (fun _ _ d => .ok (rows d, d)) c = .error .noRows c') :
    rows c.view = [] ∧ c'.view = c.view ∧ Continues c c' := by
  rcases bind_error.mp h with h₁ | ⟨subs, c₁, h₁, h₂⟩
  · rcases bind_error.mp h₁ with h₁ | ⟨_, _, _, h₂⟩
    · obtain ⟨-, -, -, -, hcases⟩ := statement_error h₁
      rcases hcases ha with h | h | ⟨_, -, h⟩ <;> cases h
    · cases h₂
  · obtain ⟨_, rs, ha', hrun, rfl, hc⟩ := fetchSubscriptions_ok h₁
    cases ha'
    obtain ⟨hrs, hv⟩ : rows c.view = rs ∧ c.view = c₁.view := by simpa using hrun
    rcases rs with _ | ⟨r, _ | ⟨r', rs⟩⟩
    · simp only [bind_apply, List.map_nil, List.length_nil] at h₂
      simp at h₂
      obtain rfl := h₂
      exact ⟨hrs, hv.symm, hc⟩
    · simp [bind_apply] at h₂
    · simp [bind_apply] at h₂

/-- A single-row read by `fetchSubscription` that succeeded found exactly one row. -/
theorem fetchSubscription_read_ok {rows : Db → List SubscriptionRow} {s : Subscription}
    (h : fetchSubscription (.ok ()) (fun _ _ d => .ok (rows d, d)) c = .ok s c') :
    ∃ r, rows c.view = [r] ∧ s = r.toModel ∧ c'.view = c.view ∧ Continues c c' := by
  obtain ⟨_, r, -, hrun, rfl, hc⟩ := fetchSubscription_ok h
  obtain ⟨hr, hv⟩ : rows c.view = [r] ∧ c.view = c'.view := by simpa using hrun
  exact ⟨r, hr, rfl, hv.symm, hc⟩

/-! ## Writing -/

theorem upsertCells_ok {id : String} :
    ∀ {l : List (Int × Int)} {c c' : Conn Db}, c.phase = .active →
      upsertCells id l c = .ok () c' →
      (l.map fun p => (⟨p.1, p.2, id⟩ : CellRow)).foldlM (fun d r => upsertCellRow r d) c.view =
        .ok c'.view ∧ Continues c c'
  | [], c, c', ha, h => by
    cases h
    exact ⟨rfl, ha, rfl, rfl⟩
  | (cid, clevel) :: rest, c, c', ha, h => by
    obtain ⟨_, c₁, h₁, h₂⟩ := bind_ok.mp h
    obtain ⟨_, -, hrun, hc₁⟩ := statement_ok h₁
    obtain ⟨hfold, hc₂⟩ := upsertCells_ok hc₁.active h₂
    have hrow : upsertCellRow ⟨cid, clevel, id⟩ c.view = .ok c₁.view := by
      cases hu : upsertCellRow ⟨cid, clevel, id⟩ c.view <;> simp_all [Except.map]
    simp only [List.map_cons, List.foldlM_cons, hrow]
    exact ⟨hfold, hc₁.trans hc₂⟩

/-- **`pushSubscription` does `pushTables`**, and returns the row it wrote with the cells it was
handed reattached. -/
theorem pushSubscription_ok {s s' : Subscription} (h : pushSubscription s c = .ok s' c') :
    pushTables s c.now c.view = .ok c'.view ∧
      s' = { (upsertedRow s c.now).toModel with cells := s.cells } ∧ Continues c c' := by
  unfold pushSubscription at h
  dsimp only at h
  obtain ⟨s₁, c₁, h₁, h₂⟩ := bind_ok.mp h
  obtain ⟨_, r, -, hrun, rfl, hc₁⟩ := fetchSubscription_ok h₁
  obtain ⟨hr, hv₁⟩ : upsertedRow s c.now = r ∧
      upsertSubscriptionRow (upsertedRow s c.now) c.view = .ok c₁.view := by
    rcases hu : upsertSubscriptionRow (upsertedRow s c.now) c.view with e | d₁ <;>
      simp only [hu, Except.map, reduceCtorEq, Except.ok.injEq, Prod.mk.injEq,
        List.cons.injEq, and_true] at hrun
    exact ⟨hrun.1, by rw [hrun.2]⟩
  subst hr
  obtain ⟨_, c₂, h₃, h₄⟩ := bind_ok.mp h₂
  obtain ⟨hfold, hc₂⟩ := upsertCells_ok hc₁.active h₃
  obtain ⟨_, c₃, h₅, h₆⟩ := bind_ok.mp h₄
  obtain ⟨_, -, hrun', hc₃⟩ := statement_ok h₅
  rw [pure_apply] at h₆
  cases h₆
  have hsweep : deleteLeftOverCells (some (s.cellList.map CellID.toInt64)) s.id c₂.view =
      c'.view := by
    simpa [Except.map] using hrun'
  have hcells : ((s.cellList.map CellID.toInt64).zip (s.cellList.map CellID.level)).map
      (fun p => (⟨p.1, p.2, s.id⟩ : CellRow)) = cellRows s := by
    rw [List.zip_map', List.map_map]; rfl
  refine ⟨?_, rfl, hc₁.trans (hc₂.trans hc₃)⟩
  have hfold' : (cellRows s).foldlM (fun d r => upsertCellRow r d) c₁.view = .ok c₂.view := by
    rw [← hcells]; exact hfold
  simp only [pushTables, hv₁, bind, Except.bind, hfold', pure, Except.pure, hsweep]

/-- The tail shared by `InsertSubscription` and `UpdateSubscription`: push, commit, return what
was pushed. -/
theorem pushCommit_ok {p r : Subscription}
    (h : (do let s ← pushSubscription p; commit; return s) c = .ok r c') :
    pushTables p c.now c.view = .ok c'.db ∧
      r = { (upsertedRow p c.now).toModel with cells := p.cells } := by
  obtain ⟨_, c₁, h₁, h₂⟩ := bind_ok.mp h
  obtain ⟨hpush, rfl, hc₁⟩ := pushSubscription_ok h₁
  obtain ⟨rfl, hdb⟩ := commit_pure_ok h₂
  exact ⟨hdb ▸ hpush, rfl⟩

/-! ## The Store operations -/

variable {d : Db} {now : Int} {fs : List Bool}

/-- **A successful insert** found no subscription with the id, and committed `pushTables`. -/
theorem insertSubscription_ok {s r : Subscription}
    (h : insertSubscription s (Conn.start d now fs) = .ok r c') :
    selectByID s.id d = [] ∧ pushTables s now d = .ok c'.db ∧
      r = { (upsertedRow s now).toModel with cells := s.cells } := by
  unfold insertSubscription at h
  obtain ⟨_, c₁, h₁, h₂⟩ := bind_ok.mp h
  obtain ⟨hv₁, ha₁, -, hn₁⟩ := begin_ok h₁
  obtain ⟨r₁, c₂, h₃, h₄⟩ := bind_ok.mp h₂
  split at h₄
  · obtain ⟨hnone, hv₂, hc₂⟩ := fetchSubscription_noRows ha₁ (attempt_ok.mp h₃)
    obtain ⟨_, _, hp, h₅⟩ := bind_ok.mp h₄
    cases hp
    obtain ⟨hpush, rfl⟩ := pushCommit_ok h₅
    have hnow : c₂.now = now := hc₂.now.trans hn₁
    rw [hv₂, hv₁, hnow] at hpush
    rw [hv₁] at hnone
    exact ⟨hnone, hpush, by rw [hnow]⟩
  · exact absurd h₄ rollbackWith_bind_ne_ok
  · exact absurd h₄ rollbackWith_bind_ne_ok

/-- **A successful update** found the one row of the id and owner, at the caller's version, and
committed `pushTables` of that row overlaid by the caller's entity. -/
theorem updateSubscription_ok {s r : Subscription}
    (h : updateSubscription s (Conn.start d now fs) = .ok r c') :
    ∃ old, selectByIDAndOwner s.id s.owner d = [old] ∧ s.version = old.toModel.version ∧
      pushTables (old.toModel.apply s) now d = .ok c'.db ∧
      r = { (upsertedRow (old.toModel.apply s) now).toModel with
        cells := (old.toModel.apply s).cells } := by
  unfold updateSubscription at h
  obtain ⟨_, c₁, h₁, h₂⟩ := bind_ok.mp h
  obtain ⟨hv₁, ha₁, -, hn₁⟩ := begin_ok h₁
  obtain ⟨r₁, c₂, h₃, h₄⟩ := bind_ok.mp h₂
  split at h₄
  · exact absurd h₄ rollbackWith_bind_ne_ok
  · exact absurd h₄ rollbackWith_bind_ne_ok
  obtain ⟨row, hrow, rfl, hv₂, hc₂⟩ := fetchSubscription_read_ok (attempt_ok.mp h₃)
  split at h₄
  · exact absurd h₄ rollbackWith_bind_ne_ok
  rename_i hver
  obtain ⟨_, _, hp, h₅⟩ := bind_ok.mp h₄
  cases hp
  obtain ⟨hpush, rfl⟩ := pushCommit_ok h₅
  have hnow : c₂.now = now := hc₂.now.trans hn₁
  rw [hv₂, hv₁, hnow] at hpush
  rw [hv₁] at hrow
  exact ⟨row, hrow, not_not.mp hver, hpush, by rw [hnow]⟩

/-- **A successful delete** found the one row of the id and owner, at the caller's version,
committed its deletion, and returns the row as it was. -/
theorem deleteSubscription_ok {id owner version : String} {r : Subscription}
    (h : deleteSubscription id owner version (Conn.start d now fs) = .ok r c') :
    ∃ old, selectByIDAndOwner id owner d = [old] ∧ version = old.toModel.version ∧
      c'.db = deleteSubscriptionRow id owner d ∧ r = old.toModel := by
  unfold deleteSubscription at h
  obtain ⟨_, c₁, h₁, h₂⟩ := bind_ok.mp h
  obtain ⟨hv₁, ha₁, -, -⟩ := begin_ok h₁
  obtain ⟨r₁, c₂, h₃, h₄⟩ := bind_ok.mp h₂
  split at h₄
  · exact absurd h₄ rollbackWith_bind_ne_ok
  · exact absurd h₄ rollbackWith_bind_ne_ok
  obtain ⟨row, hrow, rfl, hv₂, hc₂⟩ := fetchSubscription_read_ok (attempt_ok.mp h₃)
  split at h₄
  · exact absurd h₄ rollbackWith_bind_ne_ok
  rename_i hver
  obtain ⟨_, _, hp, h₅⟩ := bind_ok.mp h₄
  cases hp
  obtain ⟨r₂, c₄, h₇, h₈⟩ := bind_ok.mp h₅
  split at h₈
  · exact absurd h₈ rollbackWith_bind_ne_ok
  obtain ⟨_, _, hp, h₁₀⟩ := bind_ok.mp h₈
  cases hp
  obtain ⟨_, -, hrun, -⟩ := statement_ok (attempt_ok.mp h₇)
  obtain ⟨rfl, hdb⟩ := commit_pure_ok h₁₀
  have hdel : deleteSubscriptionRow id owner c₂.view = c₄.view := by
    simpa [Except.map] using hrun
  rw [hv₂, hv₁] at hdel
  rw [hv₁] at hrow
  exact ⟨row, hrow, not_not.mp hver, hdb.trans hdel.symm, rfl⟩

/-- **A successful search** was handed cells, could encode every one of them, and returns the
subscriptions of the owner that the joined query finds in the tables as they were. -/
theorem searchSubscriptions_ok {cells : List CellID} {owner : String} {subs : List Subscription}
    (h : searchSubscriptions cells owner (Conn.start d now fs) = .ok subs c') :
    cells ≠ [] ∧ ∃ arr, cellUnionArray cells = .ok arr ∧
      subs = (selectJoinedCells (some arr) (fun s => s.owner = owner) d).map
        SubscriptionRow.toModel ∧ c'.db = d := by
  unfold searchSubscriptions at h
  split at h
  · obtain ⟨_, _, h₀, -⟩ := bind_ok.mp h
    cases h₀
  rename_i hne
  obtain ⟨_, _, h₀, h⟩ := bind_ok.mp h
  cases h₀
  obtain ⟨_, c₁, h₁, h₂⟩ := bind_ok.mp h
  obtain ⟨hv₁, -, hdb₁, -⟩ := begin_ok h₁
  obtain ⟨r₁, c₂, h₃, h₄⟩ := bind_ok.mp h₂
  split at h₄
  · exact absurd h₄ rollbackWith_bind_ne_ok
  obtain ⟨_, _, hp, h₆⟩ := bind_ok.mp h₄
  cases hp
  obtain ⟨arr, rows, harr, hrun, rfl, hc₂⟩ := fetchSubscriptions_ok (attempt_ok.mp h₃)
  obtain ⟨rfl, hdb⟩ := commit_pure_ok h₆
  obtain ⟨hrows, hv₂⟩ : selectJoinedCells (some arr) (fun s => s.owner = owner) c₁.view = rows ∧
      c₁.view = c₂.view := by simpa using hrun
  rw [hv₁] at hrows hv₂
  refine ⟨fun hc => hne (by simp [hc]), arr, harr, by rw [← hrows]; rfl, ?_⟩
  rw [hdb, ← hv₂]
  rfl

/-! ## A failed operation changes nothing

Every call an operation makes before its `commit` is `Quiet`, and each operation ends with
`commit; return`: so each is `Sealed`, and a failed operation leaves the committed tables as they
were, whatever failed and however far it got. -/

theorem quiet_fetchSubscriptions {β : Type} (args : Except Err β)
    (run : β → Int → Db → Except Err (List SubscriptionRow × Db)) :
    Quiet (fetchSubscriptions args run) :=
  quiet_bind (quiet_statement _ _) fun _ => quiet_pure _

theorem quiet_fetchSubscription {β : Type} (args : Except Err β)
    (run : β → Int → Db → Except Err (List SubscriptionRow × Db)) :
    Quiet (fetchSubscription args run) := by
  refine quiet_bind (quiet_fetchSubscriptions args run) fun subs => ?_
  have hpick : Quiet (match subs with
      | [] => throw .noRows
      | s :: _ => pure s : Tx Db Subscription) := by
    split
    · exact quiet_throw _
    · exact quiet_pure _
  dsimp only
  split
  · exact quiet_bind (quiet_throw _) fun _ => hpick
  · exact quiet_bind (quiet_pure _) fun _ => hpick

theorem quiet_upsertCells (id : String) : ∀ l, Quiet (upsertCells id l)
  | [] => quiet_pure _
  | _ :: rest => quiet_bind (quiet_exec _) fun _ => quiet_upsertCells id rest

theorem quiet_pushSubscription (s : Subscription) : Quiet (pushSubscription s) :=
  quiet_bind (quiet_fetchSubscription _ _) fun _ =>
    quiet_bind (quiet_upsertCells _ _) fun _ => quiet_bind (quiet_exec _) fun _ => quiet_pure _

theorem sealed_pushCommit (p : Subscription) :
    Sealed (do let s ← pushSubscription p; commit; return s) :=
  sealed_bind (quiet_pushSubscription p) fun s => sealed_commit_pure s

theorem sealed_insertSubscription (s : Subscription) : Sealed (insertSubscription s) := by
  refine sealed_bind quiet_begin fun _ =>
    sealed_bind (quiet_attempt (quiet_fetchSubscription _ _)) fun r => ?_
  split
  · exact sealed_bind (quiet_pure _) fun _ => sealed_pushCommit s
  · exact sealed_bind (quiet_rollbackWith _) fun _ => sealed_pushCommit s
  · exact sealed_bind (quiet_rollbackWith _) fun _ => sealed_pushCommit s

theorem sealed_updateSubscription (s : Subscription) : Sealed (updateSubscription s) := by
  refine sealed_bind quiet_begin fun _ =>
    sealed_bind (quiet_attempt (quiet_fetchSubscription _ _)) fun r => ?_
  split
  · exact sealed_bind (quiet_rollbackWith _) fun old => sealed_pushCommit (old.apply s)
  · exact sealed_bind (quiet_rollbackWith _) fun old => sealed_pushCommit (old.apply s)
  · split
    · exact sealed_bind (quiet_rollbackWith _) fun old => sealed_pushCommit (old.apply s)
    · exact sealed_bind (quiet_pure _) fun old => sealed_pushCommit (old.apply s)

theorem sealed_deleteSubscription (id owner version : String) :
    Sealed (deleteSubscription id owner version) := by
  have hdelete : ∀ old : Subscription, Sealed (do
      match ← attempt (exec fun _ d => .ok (deleteSubscriptionRow id owner d)) with
      | .error e => rollbackWith e
      | .ok () => pure ()
      commit
      return old) := fun old => by
    refine sealed_bind (quiet_attempt (quiet_exec _)) fun r => ?_
    split
    · exact sealed_bind (quiet_rollbackWith _) fun _ => sealed_commit_pure old
    · exact sealed_bind (quiet_pure _) fun _ => sealed_commit_pure old
  refine sealed_bind quiet_begin fun _ =>
    sealed_bind (quiet_attempt (quiet_fetchSubscription _ _)) fun r => ?_
  split
  · exact sealed_bind (quiet_rollbackWith _) hdelete
  · exact sealed_bind (quiet_rollbackWith _) hdelete
  · split
    · exact sealed_bind (quiet_rollbackWith _) hdelete
    · exact sealed_bind (quiet_pure _) hdelete

theorem sealed_searchSubscriptions (cells : List CellID) (owner : String) :
    Sealed (searchSubscriptions cells owner) := by
  have hsearch : Sealed (do
      begin
      let subscriptions ← match ← attempt (fetchSubscriptions (cellUnionArray cells) fun arr _ d =>
          .ok (selectJoinedCells (some arr) (fun s => s.owner = owner) d, d)) with
        | .error e => rollbackWith e
        | .ok subscriptions => pure subscriptions
      commit
      return subscriptions) := by
    refine sealed_bind quiet_begin fun _ =>
      sealed_bind (quiet_attempt (quiet_fetchSubscriptions _ _)) fun r => ?_
    split
    · exact sealed_bind (quiet_rollbackWith _) sealed_commit_pure
    · exact sealed_bind (quiet_pure _) sealed_commit_pure
  unfold searchSubscriptions
  split
  · exact sealed_bind (quiet_throw _) fun _ => hsearch
  · exact sealed_bind (quiet_pure _) fun _ => hsearch

end Cockroach
end DssStore
