import DssStore.ProtoStore.Behaviour
import DssStore.ProtoStore.DeleteIsa

/-!
# Runs of the older store

A run is any sequence of the seven operations of the older store, each on a fresh connection with
its own timestamp and its own backend faults, from the tables right after bootstrap.

Two of the operations end with a `return nil, err` that skips the rollback: `insertSubscription`
and `updateSubscription` hand back the error of `sr.toProtobuf()` and leave their transaction
open.  The row they convert is the one the database handed back by `RETURNING`, and that row holds
its times rounded to microseconds: a time `ptypes` accepted, from 9999-12-31T23:59:59.9999995Z on,
comes back as the first instant of the year 10000, which `ptypes.TimestampProto` refuses.  So on a
run that error does come, and only so: every time the tables hold is one `toProtobuf` accepted
before the write committed, and every time a caller overlays is one `ptypes` accepted.  Every other
failure ends the transaction, though not always once: `DeleteIdentificationServiceArea`, when the
ISA is not there, rolls back, sends its subscriber query on the ended transaction, and rolls back
again (the example after `deleteIdentificationServiceArea_ends`).  Unlike the newer store, whose
insert leaves its transaction open whenever the push fails, a failure here never commits.

## What is here

* `Closes` for the stages and `Ends` for the operations (`DssStore.Tx`): a failed operation ended
  the transaction it began, or began none; for the two writes, `insertSubscription_error` and
  `updateSubscription_error` name the one exception;
* `RowsReadable`, the invariant of the tables: every stored subscription has a
  `notification_index`, and each of its `begins_at` and `expires_at` is NULL or in the years
  `ptypes` accepts.  Every call keeps it (`rowsReadable_run`), so every run does
  (`rowsReadable_replay`), and so every stored row that scans converts back
  (`toProtobuf_ok_of_replay`);
* `run_error_of_replay`: on a run, a failed call changed nothing, and ended its transaction unless
  it wrote a subscription with a time that rounds past the year 9999.
-/

set_option autoImplicit false

namespace DssStore
namespace ProtoStore

variable {d : Db} {now : Int} {fs : List Bool} {e : Err} {c' : Conn Db}

/-- The tables right after bootstrap. -/
def Db.empty : Db := ⟨[], [], [], []⟩

/-! ## Failures end the transaction, but one -/

/-- The end of a write fails with its transaction open only with the error of `toProtobuf` on the
row it answers with: its one `return nil, err` that skips the rollback. -/
theorem finishWrite_error (write : Int → Int → Int → Db → Except Err Db) (cells : List CellID)
    {sr : SubscriptionsRow} {c : Conn Db} (h : finishWrite write cells sr c = .error e c') :
    c'.phase ≠ .active ∨ sr.toProtobuf = .error e := by
  unfold finishWrite at h
  rcases bind_error.mp h with h₁ | ⟨_, c₁, -, k₁⟩
  · exact .inl (stagewise_execCells closes_stagewise write cells c e c' h₁)
  rcases hp : sr.toProtobuf with e' | p <;> rw [hp] at k₁
  · simp only [orThrow, bind_apply] at k₁
    cases k₁
    exact .inr rfl
  · exact .inl (closes_bind (closes_pure p) closes_commit_pure c₁ e c' k₁)

/-- `TimestampProto` of a nullable time rounded to microseconds fails only on the rounding of a
time, with its error. -/
theorem mapM_timestamptz_error {t : Option Int} (ht : ∀ b ∈ t, Ptypes.InRange b)
    (h : (t.map Sql.timestamptz).mapM Ptypes.timestampProto = .error e) :
    ∃ b, Ptypes.InRange b ∧ Ptypes.timestampProto (Sql.timestamptz b) = .error e := by
  rcases t with _ | b
  · cases h
  · rcases hb : Ptypes.timestampProto (Sql.timestamptz b) with e' | ts <;>
      simp only [Option.map, Option.mapM, hb, bind, Except.bind, pure, Except.pure,
        reduceCtorEq] at h
    exact ⟨b, ht b rfl, by cases h; exact hb⟩

/-- **`toProtobuf` refuses a row whose times were in range only at a time that rounds past the
year 9999**, and with `TimestampProto`'s error on it. -/
theorem toProtobuf_stored_error {sr : SubscriptionsRow} (hsr : sr.TimesInRange) {now : Int}
    (h : { sr.stored with updatedAt := now }.toProtobuf = .error e) :
    ∃ t, Ptypes.InRange t ∧ Ptypes.timestampProto (Sql.timestamptz t) = .error e := by
  unfold SubscriptionsRow.toProtobuf SubscriptionsRow.stored at h
  rcases hb : (sr.beginsAt.map Sql.timestamptz).mapM Ptypes.timestampProto with e' | b <;>
    simp only [hb, bind, Except.bind, reduceCtorEq] at h
  · exact mapM_timestamptz_error hsr.1 (by cases h; exact hb)
  rcases hx : (sr.expiresAt.map Sql.timestamptz).mapM Ptypes.timestampProto with e' | x <;>
    simp only [hx, pure, Except.pure, reduceCtorEq] at h
  exact mapM_timestamptz_error hsr.2 (by cases h; exact hx)

/-- **A failed insert has ended its transaction, unless a time it was handed rounds past the year
9999**: the row it answers with is the row as stored, whose times `applyProtobuf` set. -/
theorem insertSubscription_error {s : Dspb.Subscription} {cells : List CellID}
    (h : insertSubscription s cells (Conn.start d now fs) = .error e c') :
    c'.phase ≠ .active ∨
      ∃ t, Ptypes.InRange t ∧ Ptypes.timestampProto (Sql.timestamptz t) = .error e := by
  rcases bind_error.mp h with h₁ | ⟨_, c₁, -, k₁⟩
  · exact .inl (ends_begin.start h₁)
  rcases bind_error.mp k₁ with h₂ | ⟨sr, c₂, h₂, k₂⟩
  · exact .inl (stagewise_scanOrRollback closes_stagewise _ _ _ _ h₂)
  obtain ⟨rows, hrun, hscan, hc₂⟩ := scanOrRollback_ok h₂
  obtain ⟨rfl, -⟩ := insertSubscriptionTuple_ok hrun
  obtain rfl := scan_written hscan
  exact (finishWrite_error _ _ k₂).imp_right (toProtobuf_stored_error
    (SubscriptionsRow.applyProtobuf_timesInRange s SubscriptionsRow.zero_timesInRange))

/-- A stored subscription that reads back: `scan` takes its `notification_index`, which is not
NULL, and `toProtobuf` its times, each of `begins_at` and `expires_at` NULL or in the years
`ptypes` accepts. -/
def SubscriptionTuple.Readable (t : SubscriptionTuple) : Prop :=
  t.notificationIndex.isSome ∧ (∀ b ∈ t.beginsAt, Ptypes.InRange b) ∧
    ∀ e ∈ t.expiresAt, Ptypes.InRange e

/-- The invariant of the tables: every stored subscription reads back. -/
def RowsReadable (d : Db) : Prop := ∀ t ∈ d.subscriptions, t.Readable

/-- **A failed update, on tables whose rows read back, has ended its transaction, unless a time it
was handed rounds past the year 9999.**  The row it answers with is a stored row overlaid by
`applyProtobuf`, as stored. -/
theorem updateSubscription_error {s : Dspb.Subscription} {cells : List CellID}
    (hd : RowsReadable d) (h : updateSubscription s cells (Conn.start d now fs) = .error e c') :
    c'.phase ≠ .active ∨
      ∃ t, Ptypes.InRange t ∧ Ptypes.timestampProto (Sql.timestamptz t) = .error e := by
  rcases bind_error.mp h with h₁ | ⟨_, c₁, h₁, k₁⟩
  · exact .inl (ends_begin.start h₁)
  rcases bind_error.mp k₁ with h₂ | ⟨sr, c₂, h₂, k₂⟩
  · exact .inl (stagewise_scanOrRollback closes_stagewise _ _ _ _ h₂)
  obtain ⟨rows, hrun, hscan, -⟩ := scanOrRollback_ok h₂
  have hsr : sr.TimesInRange := by
    have hv : c₁.view = d := (begin_ok h₁).1
    rw [← (Prod.mk.inj (Except.ok.inj hrun)).1, hv] at hscan
    exact (hd _ (scan_selectSubscriptionByID hscan).1).2
  rcases bind_error.mp k₂ with h₃ | ⟨_, c₃, -, k₃⟩
  · exact .inl (closes_ite (closes_rollbackWith _) (closes_pure _) _ _ _ h₃)
  rcases bind_error.mp k₃ with h₄ | ⟨sr', c₄, h₄, k₄⟩
  · exact .inl (stagewise_scanOrRollback closes_stagewise _ _ _ _ h₄)
  obtain ⟨rows', hrun', hscan', -⟩ := scanOrRollback_ok h₄
  obtain ⟨rfl, -⟩ := upsertSubscriptionTuple_ok hrun'
  obtain rfl := scan_written hscan'
  exact (finishWrite_error _ _ k₄).imp_right
    (toProtobuf_stored_error (SubscriptionsRow.applyProtobuf_timesInRange s hsr))

/-- A table holding `x`, whose `begins_at` is past the year 9999: no call stores one, but an
update of a row that has one answers with the error of `toProtobuf`, its transaction open. -/
def farBegins : Db :=
  ⟨[⟨"x", "a", "u", none, some 0, none, some 300000000000000000000, none, 1⟩], [], [], []⟩

example : ∃ e c', updateSubscription ⟨"x", "", none, 0, "", none, none⟩ []
    (Conn.start farBegins 2 []) = .error e c' ∧ c'.phase = .active :=
  ⟨_, _, rfl, rfl⟩

theorem closes_respondRow (sr : SubscriptionsRow) : Closes (respondRow sr) :=
  closes_bind (closes_stagewise.orRollback _) closes_commit_pure

theorem getSubscription_ends (id : String) : Ends (getSubscription id) :=
  ends_begin.bind fun _ =>
    closes_bind (stagewise_scanOrRollback closes_stagewise _) closes_respondRow

theorem deleteSubscription_ends (id version : String) : Ends (deleteSubscription id version) :=
  ends_begin.bind fun _ => closes_bind
    (closes_ite (closes_pure _) (closes_bind (closes_stagewise.orRollback _) fun _ => closes_pure _))
    fun _ => closes_bind (stagewise_scanOrRollback closes_stagewise _) closes_respondRow

theorem searchSubscriptions_ends (cells : List CellID) (owner : String) :
    Ends (searchSubscriptions cells owner) :=
  ends_throwIf_bind <| ends_begin.bind fun _ =>
    closes_bind (closes_attempt _) fun r => closes_bind (closes_stagewise.orRollback r) fun _ =>
      closes_bind (closes_stagewise.orRollback _) closes_commit_pure

theorem insertIdentificationServiceAreaUnchecked_ends (sa : IdentificationServiceArea)
    (cells : List CellID) : Ends (insertIdentificationServiceAreaUnchecked sa cells) :=
  ends_orThrow_bind fun _ => ends_orThrow_bind fun _ => ends_begin.bind fun _ =>
    closes_bind (closes_attempt _) fun r => closes_bind (closes_stagewise.orRollback r) fun _ =>
      closes_bind (closes_stagewise.orRollback _) fun _ =>
        closes_bind (stagewise_execCells closes_stagewise _ _) fun _ =>
          closes_bind (closes_stagewise.orRollback _) fun _ =>
            closes_bind (closes_stagewise.orRollback _) fun _ => closes_commit_pure _

theorem deleteIdentificationServiceArea_ends (id owner : String) :
    Ends (deleteIdentificationServiceArea id owner) :=
  ends_begin.bind fun _ => closes_bind (stagewise_readAffected closes_stagewise id) fun _ =>
    closes_bind (stagewise_deleteRow closes_stagewise id owner) fun isar =>
      closes_bind (stagewise_readSubscribers closes_stagewise _ owner) fun subscribers =>
        closes_bind (stagewise_respond closes_stagewise isar subscribers) closes_commit_pure

/-- When the ISA is not there, the deletion still ends its transaction, but twice: its `DELETE`
finds no row and rolls back, its subscriber query is sent on the ended transaction, and the
failure of that query rolls back again. -/
example : ∃ e c', deleteIdentificationServiceArea "i" "A" (Conn.start Db.empty 0 []) = .error e c' ∧
    c'.events = [.begin, .statement, .statement, .rollback, .statement, .rollback] :=
  ⟨_, _, rfl, rfl⟩

/-! ## The rows the tables hold read back -/

theorem rowsReadable_insertSubscription {s : Dspb.Subscription} {cells : List CellID}
    {r : Dspb.Subscription} (hd : RowsReadable d)
    (h : insertSubscription s cells (Conn.start d now fs) = .ok r c') : RowsReadable c'.db := by
  obtain ⟨d₁, hins, hcells, hp⟩ := insertSubscription_ok h
  obtain ⟨-, rfl⟩ := insertSubscriptionTuple_ok hins
  rw [RowsReadable, writeCells_subscriptions (fun _ _ _ _ _ => insertCellSubscription_subscriptions)
    hcells]
  exact List.forall_mem_cons.mpr ⟨⟨rfl, (SubscriptionsRow.toProtobuf_ok_iff _).mp ⟨r, hp⟩⟩, hd⟩

theorem rowsReadable_updateSubscription {s : Dspb.Subscription} {cells : List CellID}
    {r : Dspb.Subscription} (hd : RowsReadable d)
    (h : updateSubscription s cells (Conn.start d now fs) = .ok r c') : RowsReadable c'.db := by
  obtain ⟨sr, d₁, -, -, hup, hcells, hp⟩ := updateSubscription_ok h
  obtain ⟨-, rfl⟩ := upsertSubscriptionTuple_ok hup
  rw [RowsReadable, writeCells_subscriptions (fun _ _ _ _ _ => upsertCellSubscription_subscriptions)
    hcells]
  exact List.forall_mem_cons.mpr ⟨⟨rfl, (SubscriptionsRow.toProtobuf_ok_iff _).mp ⟨r, hp⟩⟩,
    fun t ht => hd t (List.mem_of_mem_filter ht)⟩

theorem rowsReadable_deleteSubscription {id version : String} {r : Dspb.Subscription}
    (hd : RowsReadable d) (h : deleteSubscription id version (Conn.start d now fs) = .ok r c') :
    RowsReadable c'.db := by
  obtain ⟨_, _, -, -, hdb, -⟩ := deleteSubscription_ok h
  rw [hdb]
  exact fun t ht => hd t (List.mem_of_mem_filter ht)

theorem rowsReadable_insertIdentificationServiceAreaUnchecked {sa : IdentificationServiceArea}
    {cells : List CellID} {r : IdentificationServiceArea} (hd : RowsReadable d)
    (h : insertIdentificationServiceAreaUnchecked sa cells (Conn.start d now fs) = .ok r c') :
    RowsReadable c'.db := by
  obtain ⟨_, _, d₁, _, _, -, -, -, -, hins, hcells, -⟩ :=
    insertIdentificationServiceAreaUnchecked_ok h
  obtain ⟨-, rfl⟩ := insertIdentificationServiceAreaRow_ok hins
  rw [RowsReadable, writeCells_subscriptions (fun _ _ _ _ _ => insertCellIsa_subscriptions) hcells]
  exact hd

/-! ## Calls and runs -/

/-- A call of the older store. -/
inductive Call
  | insertSubscription (s : Dspb.Subscription) (cells : List CellID)
  | updateSubscription (s : Dspb.Subscription) (cells : List CellID)
  | getSubscription (id : String)
  | deleteSubscription (id version : String)
  | searchSubscriptions (cells : List CellID) (owner : String)
  | insertIdentificationServiceAreaUnchecked (sa : IdentificationServiceArea) (cells : List CellID)
  | deleteIdentificationServiceArea (id owner : String)

/-- `x`, its answer set aside. -/
def discardAnswer {α : Type} (x : Tx Db α) : Tx Db Unit := x >>= fun _ => pure ()

theorem discardAnswer_error {α : Type} {x : Tx Db α} {c : Conn Db}
    (h : discardAnswer x c = .error e c') : x c = .error e c' :=
  (bind_error.mp h).resolve_right fun ⟨_, _, _, h⟩ => nomatch h

/-- A property of the tables kept by every success of `x`, and by its failures since it is sealed,
is kept by `x` with its answer set aside. -/
theorem discardAnswer_keeps {α : Type} {x : Tx Db α} (I : Db → Prop) (hx : Sealed x) (c : Conn Db)
    (hok : ∀ a c', x c = .ok a c' → I c'.db) (hc : I c.db) : I (discardAnswer x c).state.db := by
  unfold discardAnswer
  rw [bind_apply]
  rcases h : x c with ⟨a, c₁⟩ | ⟨e, c₁⟩
  · exact hok a c₁ h
  · exact (hx c e c₁ h).symm ▸ hc

/-- An operation that ends its transaction and is sealed, its answer set aside, fails only with
the tables unchanged and its transaction ended. -/
theorem discardAnswer_error_ends {α : Type} {x : Tx Db α} (hx : Ends x) (hs : Sealed x)
    (h : discardAnswer x (Conn.start d now fs) = .error e c') : c'.db = d ∧ c'.phase ≠ .active :=
  ⟨hs _ _ _ (discardAnswer_error h), hx.start (discardAnswer_error h)⟩

namespace Call

/-- The operation a call runs, its answer set aside. -/
def run : Call → Tx Db Unit
  | insertSubscription s cells => discardAnswer (ProtoStore.insertSubscription s cells)
  | updateSubscription s cells => discardAnswer (ProtoStore.updateSubscription s cells)
  | getSubscription id => discardAnswer (ProtoStore.getSubscription id)
  | deleteSubscription id version => discardAnswer (ProtoStore.deleteSubscription id version)
  | searchSubscriptions cells owner => discardAnswer (ProtoStore.searchSubscriptions cells owner)
  | insertIdentificationServiceAreaUnchecked sa cells =>
    discardAnswer (ProtoStore.insertIdentificationServiceAreaUnchecked sa cells)
  | deleteIdentificationServiceArea id owner =>
    discardAnswer (ProtoStore.deleteIdentificationServiceArea id owner)

/-- **Every call keeps the invariant**, whether it succeeds or fails. -/
theorem rowsReadable_run (hd : RowsReadable d) :
    ∀ call : Call, RowsReadable (call.run (Conn.start d now fs)).state.db
  | insertSubscription s cells => discardAnswer_keeps _ (sealed_insertSubscription s cells) _
      (fun _ _ h => rowsReadable_insertSubscription hd h) hd
  | updateSubscription s cells => discardAnswer_keeps _ (sealed_updateSubscription s cells) _
      (fun _ _ h => rowsReadable_updateSubscription hd h) hd
  | getSubscription id => discardAnswer_keeps _ (sealed_getSubscription id) _
      (fun _ _ h => (getSubscription_ok h).elim fun _ h => h.2.2 ▸ hd) hd
  | deleteSubscription id version => discardAnswer_keeps _ (sealed_deleteSubscription id version) _
      (fun _ _ h => rowsReadable_deleteSubscription hd h) hd
  | searchSubscriptions cells owner => discardAnswer_keeps _
      (sealed_searchSubscriptions cells owner) _
      (fun _ _ h => (searchSubscriptions_ok h).2.2.2 ▸ hd) hd
  | insertIdentificationServiceAreaUnchecked sa cells => discardAnswer_keeps _
      (sealed_insertIdentificationServiceAreaUnchecked sa cells) _
      (fun _ _ h => rowsReadable_insertIdentificationServiceAreaUnchecked hd h) hd
  | deleteIdentificationServiceArea id owner => discardAnswer_keeps _
      (sealed_deleteIdentificationServiceArea id owner) _
      (fun _ _ h => by
        obtain ⟨_, _, _, _, _, -, -, hdb, -⟩ := deleteIdentificationServiceArea_ok h
        exact hdb ▸ hd) hd

/-- Whether the call writes a subscription, the two operations with a `return nil, err` that
skips the rollback. -/
def writesSubscription : Call → Bool
  | insertSubscription _ _ | updateSubscription _ _ => true
  | _ => false

/-- A failed call, on tables whose rows read back, changed nothing, and ended its transaction
unless it writes a subscription and a time it was handed rounds past the year 9999. -/
theorem run_error (hd : RowsReadable d) : ∀ {call : Call},
    call.run (Conn.start d now fs) = .error e c' →
      c'.db = d ∧ (c'.phase ≠ .active ∨ call.writesSubscription = true ∧
        ∃ t, Ptypes.InRange t ∧ Ptypes.timestampProto (Sql.timestamptz t) = .error e)
  | insertSubscription s cells, h =>
    ⟨sealed_insertSubscription s cells _ _ _ (discardAnswer_error h),
      (insertSubscription_error (discardAnswer_error h)).imp_right fun h => ⟨rfl, h⟩⟩
  | updateSubscription s cells, h =>
    ⟨sealed_updateSubscription s cells _ _ _ (discardAnswer_error h),
      (updateSubscription_error hd (discardAnswer_error h)).imp_right fun h => ⟨rfl, h⟩⟩
  | getSubscription id, h => (discardAnswer_error_ends (getSubscription_ends id)
      (sealed_getSubscription id) h).imp_right .inl
  | deleteSubscription id version, h => (discardAnswer_error_ends
      (deleteSubscription_ends id version) (sealed_deleteSubscription id version) h).imp_right .inl
  | searchSubscriptions cells owner, h => (discardAnswer_error_ends (searchSubscriptions_ends cells owner)
      (sealed_searchSubscriptions cells owner) h).imp_right .inl
  | insertIdentificationServiceAreaUnchecked sa cells, h => (discardAnswer_error_ends
      (insertIdentificationServiceAreaUnchecked_ends sa cells)
      (sealed_insertIdentificationServiceAreaUnchecked sa cells) h).imp_right .inl
  | deleteIdentificationServiceArea id owner, h => (discardAnswer_error_ends
      (deleteIdentificationServiceArea_ends id owner)
      (sealed_deleteIdentificationServiceArea id owner) h).imp_right .inl

end Call

/-- One call, made at timestamp `now`, against a backend whose round trips fail as `faults`
says. -/
structure Step where
  /-- The call. -/
  call : Call
  /-- `transaction_timestamp()` of its transaction. -/
  now : Int
  /-- Which of its round trips fail. -/
  faults : List Bool

/-- A step's run on the committed tables `d`. -/
def Step.run (st : Step) (d : Db) : EStateM.Result Err (Conn Db) Unit :=
  st.call.run (Conn.start d st.now st.faults)

/-- The committed tables after a run from bootstrap. -/
def replay (steps : List Step) : Db := steps.foldl (fun d st => (st.run d).state.db) Db.empty

theorem rowsReadable_foldl : ∀ (steps : List Step) {d : Db}, RowsReadable d →
    RowsReadable (steps.foldl (fun d st => (st.run d).state.db) d)
  | [], _, hd => hd
  | st :: steps, _, hd => rowsReadable_foldl steps (Call.rowsReadable_run hd st.call)

/-- **Every row a run leaves reads back.** -/
theorem rowsReadable_replay (steps : List Step) : RowsReadable (replay steps) :=
  rowsReadable_foldl steps fun _ h => nomatch h

/-- **Every stored row a run leaves, once scanned, converts back**: `toProtobuf` never fails on
what the store holds. -/
theorem toProtobuf_ok_of_replay (steps : List Step) {t : SubscriptionTuple}
    (ht : t ∈ (replay steps).subscriptions) {sr : SubscriptionsRow}
    (hsr : SubscriptionsRow.scan t = .ok sr) : ∃ p, sr.toProtobuf = .ok p := by
  rw [SubscriptionsRow.values_of_scan hsr] at ht
  exact (SubscriptionsRow.toProtobuf_ok_iff sr).mpr (rowsReadable_replay steps _ ht).2

/-- The row an insert of `x`, beginning at 5 s, stores converts back. -/
theorem toProtobuf_ok_of_replay_insert :
    ∃ sr, (⟨"x", "a", "", none, some 0, none, some 5000000000, none, 1⟩ : SubscriptionTuple) ∈
      (replay [⟨.insertSubscription ⟨"x", "a", none, 0, "", some ⟨5, 0⟩, none⟩ [], 1, []⟩]).subscriptions ∧
      SubscriptionsRow.scan ⟨"x", "a", "", none, some 0, none, some 5000000000, none, 1⟩ = .ok sr ∧
      ∃ p, sr.toProtobuf = .ok p := by
  have ht : (⟨"x", "a", "", none, some 0, none, some 5000000000, none, 1⟩ : SubscriptionTuple) ∈
      (replay [⟨.insertSubscription ⟨"x", "a", none, 0, "", some ⟨5, 0⟩, none⟩ [], 1, []⟩]).subscriptions :=
    List.mem_singleton.mpr rfl
  exact ⟨_, ht, rfl, toProtobuf_ok_of_replay _ ht rfl⟩

/-- **On a run, a failed call changed nothing, and ended its transaction unless it wrote a
subscription with a time that rounds past the year 9999**, whose error is then the one
`TimestampProto` gives that time. -/
theorem run_error_of_replay (steps : List Step) {st : Step}
    (h : st.run (replay steps) = .error e c') :
    c'.db = replay steps ∧ (c'.phase ≠ .active ∨ st.call.writesSubscription = true ∧
      ∃ t, Ptypes.InRange t ∧ Ptypes.timestampProto (Sql.timestamptz t) = .error e) :=
  Call.run_error (rowsReadable_replay steps) h

/-- A subscription of owner `a` expiring at 9999-12-31T23:59:59.9999995Z, which `ptypes`
accepts. -/
def farExpires : Dspb.Subscription :=
  ⟨"6ba7b810-9dad-11d1-80b4-00c04fd430c8", "a", some ⟨"u"⟩, 0, "", none,
    some ⟨253402300799, 999999500⟩⟩

/-- Inserting `farExpires` right after bootstrap: the table rounds its expiry to the year 10000,
`toProtobuf` refuses the row handed back, and the insert returns with its transaction open and
the tables unchanged. -/
theorem run_error_of_replay_farExpires :
    ∃ e c, Step.run ⟨.insertSubscription farExpires [], 1573030800000000000, []⟩ (replay []) =
      .error e c ∧ c.phase = .active ∧ c.db = replay [] ∧
      ∃ t, Ptypes.InRange t ∧ Ptypes.timestampProto (Sql.timestamptz t) = .error e := by
  refine ⟨_, _, rfl, rfl, ?_⟩
  obtain ⟨hdb, hopen⟩ := run_error_of_replay []
    (rfl : Step.run ⟨.insertSubscription farExpires [], 1573030800000000000, []⟩ (replay []) = _)
  exact ⟨hdb, (hopen.resolve_left fun h => h rfl).2⟩

end ProtoStore
end DssStore
