import DssStore.ProtoStore.Reads
import DssStore.ProtoStore.Deletes
import DssStore.ProtoStore.History

/-!
# Optimistic concurrency in the older store: each version is accepted once

`updateSubscription` goes through only when the caller's version is `timestampToVersionString` of
the stored row's `updated_at`, and `DeleteSubscription` with a version only when a row of the id is
stamped with the time `versionStringToTimestamp` reads the version as, rounded to microseconds; the
empty version checks nothing.  Every successful insert or update stamps its row with the
transaction's timestamp, and a versioned delete that returns a row leaves no row of the id, `id`
being a primary key.  So once a version of an id has been accepted, every row of the id is later
than the time the version stands for, and with commits in increasing order the version is never
accepted again, by an update or by a delete, though the two compare it differently.

As in the newer store (`DssStore.Cockroach.version_accepted_once`), the argument needs the commit
timestamps in the years `int64` counts: the version of an update is read back through
`UnixNano`, which wraps outside them.  It also needs them to be whole numbers of microseconds, as
every `transaction_timestamp()` is: a version read back and rounded up to a later commit's time
would let a delete accept a version an update had already spent.

## What is here

* `Call.checkedVersion` and `acceptedAt`: the committed calls that checked a version of an id;
* `Step.checked_ok`, what a committed step that checked a version read and left, and `Fresh`, the
  invariant of histories whose commits are in increasing order;
* `each_version_accepted_once`: in every run whose commits have increasing timestamps, whole
  numbers of microseconds inside the years `int64` counts, each version of an id is accepted at
  most once.
-/

set_option autoImplicit false

namespace DssStore
namespace ProtoStore

/-! ## Accepted versions -/

/-- The id and version a call checks before it writes: `updateSubscription` the version of its
protobuf, `DeleteSubscription` its version argument.  The empty version checks nothing, and the
other calls check none. -/
def Call.checkedVersion : Call → Option (String × String)
  | .updateSubscription s _ => if s.version = "" then none else some (s.id, s.version)
  | .deleteSubscription id version => if version = "" then none else some (id, version)
  | _ => none

/-- The steps among `steps` that checked version `v` of id `id`. -/
def acceptedAt (id v : String) (steps : List Step) : List Step :=
  steps.filter fun st => st.call.checkedVersion = some (id, v)

theorem acceptedAt_append_singleton (id v : String) (steps : List Step) (st : Step) :
    acceptedAt id v (steps ++ [st]) =
      acceptedAt id v steps ++ if st.call.checkedVersion = some (id, v) then [st] else [] := by
  by_cases h : st.call.checkedVersion = some (id, v) <;> simp [acceptedAt, h]

/-! ## What a committed step does to the versions -/

/-- A row a call leaves is stamped with the call's timestamp, or was there before. -/
theorem SubscriptionsWrite.stamped {now : Int} {subs subs' : List SubscriptionTuple}
    (hw : SubscriptionsWrite now subs subs') : ∀ x ∈ subs', x.updatedAt = now ∨ x ∈ subs := by
  cases hw with
  | keep => exact fun x hx => .inr hx
  | insert s _ => exact fun x hx => (List.mem_cons.mp hx).imp (fun h => by rw [h]; rfl) id
  | update s sr _ =>
    exact fun x hx => (List.mem_cons.mp hx).imp (fun h => by rw [h]; rfl) List.mem_of_mem_filter
  | delete cond => exact fun x hx => .inr (List.mem_of_mem_filter hx)

/-- The row a single-row read returned, scanned, is among the rows. -/
theorem mem_of_queryRow_scan {rows : List SubscriptionTuple} {sr : SubscriptionsRow}
    (h : (queryRow rows >>= SubscriptionsRow.scan) = .ok sr) : sr.values sr.updatedAt ∈ rows := by
  rcases rows with _ | ⟨t, rest⟩ <;> simp only [queryRow, bind, Except.bind, reduceCtorEq] at h
  rw [← SubscriptionsRow.values_of_scan h]
  exact List.mem_cons_self _ _

/-- **A committed step that checked version `v` of `id`** read it off a stored row of `id`: as
`timestampToVersionString` of the row's time for an update, as a time that rounds to the row's for
a delete.  It left no row of `id` but its own, stamped with its timestamp. -/
theorem Step.checked_ok {st : Step} {d : Db} {c : Conn Db} {u : Unit} (hk : KeysUnique d)
    (h : st.run d = .ok u c) {id v : String} (hv : st.call.checkedVersion = some (id, v)) :
    (∃ old ∈ d.subscriptions, old.id = id ∧ (v = timestampToVersionString old.updatedAt ∨
      ∃ t, versionStringToTimestamp v = .ok t ∧ Sql.timestamptz t = old.updatedAt)) ∧
    ∀ x ∈ c.db.subscriptions, x.id = id → x.updatedAt = st.now := by
  obtain ⟨call, now, fs⟩ := st
  cases call with
  | updateSubscription s cells =>
    simp only [Call.checkedVersion] at hv
    split_ifs at hv with hne
    obtain ⟨rfl, rfl⟩ := Prod.mk.inj (Option.some.inj hv)
    obtain ⟨_, hop⟩ := discardAnswer_ok h
    obtain ⟨sr, d₁, hscan, hver, hup, hcells, -⟩ := updateSubscription_ok hop
    obtain ⟨hmem, hid⟩ := scan_selectSubscriptionByID hscan
    refine ⟨⟨_, hmem, hid, .inl ?_⟩, fun x hx hxid => ?_⟩
    · simpa [SubscriptionsRow.versionOK, hne] using hver
    obtain ⟨-, rfl⟩ := upsertSubscriptionTuple_ok hup
    rw [writeCells_subscriptions (fun _ _ _ _ _ => upsertCellSubscription_subscriptions)
      hcells] at hx
    rcases List.mem_cons.mp hx with rfl | hx
    · rfl
    · have hkept := (List.mem_filter.mp hx).2
      simp [SubscriptionTuple.stored, SubscriptionsRow.values,
        SubscriptionsRow.applyProtobuf_id fun _ => hid, hxid] at hkept
  | deleteSubscription id' version =>
    simp only [Call.checkedVersion] at hv
    split_ifs at hv with hne
    obtain ⟨rfl, rfl⟩ := Prod.mk.inj (Option.some.inj hv)
    obtain ⟨_, hop⟩ := discardAnswer_ok h
    obtain ⟨_, sr, hver, hscan, hdb, -⟩ := deleteSubscription_ok hop
    obtain ⟨t, ht, rfl⟩ := (hver.resolve_left fun h => hne h.1).2
    refine ⟨?_, fun x hx hxid => ?_⟩
    · obtain ⟨hold, hcond⟩ := List.mem_filter.mp (mem_of_queryRow_scan hscan)
      simp only [deleteCondition, decide_eq_true_eq] at hcond
      exact ⟨_, hold, hcond.1, .inr ⟨t, ht, hcond.2.symm⟩⟩
    · have hnil := selectSubscriptionByID_deleted hk (fun _ => deleteCondition_id) hscan
      rw [hdb] at hx
      exact absurd (List.mem_filter.mpr ⟨hx, decide_eq_true hxid⟩) (hnil ▸ List.not_mem_nil x)
  | insertSubscription | getSubscription | searchSubscriptions
  | insertIdentificationServiceAreaUnchecked | deleteIdentificationServiceArea =>
    simp [Call.checkedVersion] at hv

/-! ## The invariant -/

/-- The commit timestamps of a list of steps are strictly increasing. -/
def Serial (steps : List Step) : Prop := steps.Pairwise fun a b => a.now < b.now

/-- Every commit timestamp of a list of steps is a `TIMESTAMPTZ`, a whole number of microseconds,
that `UnixNano` counts without wrapping. -/
def InRange (steps : List Step) : Prop := ∀ st ∈ steps, InInt64 st.now ∧ 1000 ∣ st.now

instance (steps : List Step) : Decidable (Serial steps) :=
  inferInstanceAs (Decidable (List.Pairwise _ _))

instance (steps : List Step) : Decidable (InRange steps) :=
  inferInstanceAs (Decidable (∀ st ∈ steps, InInt64 st.now ∧ 1000 ∣ st.now))

/-- What a history keeps when its commits have increasing timestamps in range. -/
structure Fresh (h : History) : Prop where
  /-- `id` is a primary key. -/
  keys : KeysUnique h.db
  /-- Every row carries the timestamp of a commit. -/
  stamped : ∀ x ∈ h.db.subscriptions, ∃ st ∈ h.committed, st.now = x.updatedAt
  /-- Each version of an id was accepted at most once. -/
  once : ∀ id v, (acceptedAt id v h.committed).length ≤ 1
  /-- An accepted version stands, rounded to microseconds, for the time of a commit, earlier than
  every row of its id. -/
  spent : ∀ id v, acceptedAt id v h.committed ≠ [] → ∃ t, versionStringToTimestamp v = .ok t ∧
    (∃ st ∈ h.committed, st.now = Sql.timestamptz t) ∧
    ∀ x ∈ h.db.subscriptions, x.id = id → Sql.timestamptz t < x.updatedAt

theorem fresh_init : Fresh History.init :=
  ⟨List.nodup_nil, fun _ h => (nomatch h), fun _ _ => Nat.zero_le _, fun _ _ h => absurd rfl h⟩

section Step

variable {h : History} {st : Step} {u : Unit} {c : Conn Db}

/-- A row a committed step leaves is stamped with its timestamp, or was there before. -/
theorem Step.stamped_ok {d : Db} (hrun : st.run d = .ok u c) :
    ∀ x ∈ c.db.subscriptions, x.updatedAt = st.now ∨ x ∈ d.subscriptions := by
  have hw : SubscriptionsWrite st.now d.subscriptions (st.run d).state.db.subscriptions :=
    subscriptionsWrite_run st.call
  rw [hrun] at hw
  exact hw.stamped

theorem stamped_of_step_ok (hi : Fresh h) (hrun : st.run h.db = .ok u c) :
    ∀ x ∈ c.db.subscriptions, ∃ a ∈ h.committed ++ [st], a.now = x.updatedAt := fun x hx => by
  rcases Step.stamped_ok hrun x hx with hnow | hx
  · exact ⟨st, List.mem_append_right _ (List.mem_singleton_self _), hnow.symm⟩
  · obtain ⟨a, ha, hat⟩ := hi.stamped x hx
    exact ⟨a, List.mem_append_left _ ha, hat⟩

/-- With the commits in range, the version a committed step checked stands, rounded to
microseconds, for the time of the row it read it off, update or delete. -/
theorem checked_time (hi : Fresh h) (hrun : st.run h.db = .ok u c)
    (hrange : InRange h.committed) {id v : String} (hv : st.call.checkedVersion = some (id, v)) :
    ∃ old ∈ h.db.subscriptions, old.id = id ∧
      ∃ t, versionStringToTimestamp v = .ok t ∧ Sql.timestamptz t = old.updatedAt := by
  obtain ⟨old, hold, hoid, hver⟩ := (Step.checked_ok hi.keys hrun hv).1
  refine ⟨old, hold, hoid, ?_⟩
  obtain ⟨b, hb, hbt⟩ := hi.stamped old hold
  rcases hver with rfl | hver
  · exact ⟨_, versionStringToTimestamp_timestampToVersionString _,
      (timestamptz_toInt64_eq_self_iff _).mpr (hbt ▸ hrange b hb)⟩
  · exact hver

/-- A version a committed step was accepted at had never been accepted: the row it was read off is
later than the time any earlier acceptance stands for. -/
theorem acceptedAt_eq_nil_of_checked (hi : Fresh h) (hrun : st.run h.db = .ok u c)
    (hrange : InRange h.committed) {id v : String} (hv : st.call.checkedVersion = some (id, v)) :
    acceptedAt id v h.committed = [] := by
  obtain ⟨old, hold, hoid, t, hts, hround⟩ := checked_time hi hrun hrange hv
  by_contra hne
  obtain ⟨t', ht', -, hlt⟩ := hi.spent id v hne
  rw [hts, Except.ok.injEq] at ht'
  exact lt_irrefl _ (hround ▸ ht' ▸ hlt old hold hoid)

/-- After a committed step, every version accepted so far stands for a time earlier than every row
of its id: the step's own rows carry the latest timestamp. -/
theorem spent_of_step_ok (hi : Fresh h) (hrun : st.run h.db = .ok u c)
    (hlater : ∀ a ∈ h.committed, a.now < st.now) (hrange : InRange h.committed) (id v : String)
    (hne : acceptedAt id v (h.committed ++ [st]) ≠ []) :
    ∃ t, versionStringToTimestamp v = .ok t ∧
      (∃ a ∈ h.committed ++ [st], a.now = Sql.timestamptz t) ∧
      ∀ x ∈ c.db.subscriptions, x.id = id → Sql.timestamptz t < x.updatedAt := by
  rw [acceptedAt_append_singleton] at hne
  by_cases hv : st.call.checkedVersion = some (id, v)
  · obtain ⟨old, hold, -, t, hts, hround⟩ := checked_time hi hrun hrange hv
    obtain ⟨b, hb, hbt⟩ := hi.stamped old hold
    refine ⟨t, hts, ⟨b, List.mem_append_left _ hb, hbt.trans hround.symm⟩, fun x hx hid => ?_⟩
    rw [(Step.checked_ok hi.keys hrun hv).2 x hx hid, hround, ← hbt]
    exact hlater b hb
  · rw [if_neg hv, List.append_nil] at hne
    obtain ⟨t, hts, ⟨a, ha, hat⟩, hold⟩ := hi.spent id v hne
    refine ⟨t, hts, ⟨a, List.mem_append_left _ ha, hat⟩, fun x hx hid => ?_⟩
    rcases Step.stamped_ok hrun x hx with hnow | hx
    · rw [hnow, ← hat]
      exact hlater a ha
    · exact hold x hx hid

/-- **A committed step keeps the invariant**, when its timestamp is later than every earlier
commit and every earlier commit is in range. -/
theorem fresh_step_ok (hi : Fresh h) (hrun : st.run h.db = .ok u c)
    (hlater : ∀ a ∈ h.committed, a.now < st.now) (hrange : InRange h.committed) :
    Fresh (h.step st) := by
  have hkeys : KeysUnique c.db := by
    have hw : SubscriptionsWrite st.now h.db.subscriptions (st.run h.db).state.db.subscriptions :=
      subscriptionsWrite_run st.call
    rw [hrun] at hw
    exact hw.nodup hi.keys
  rw [History.step_of_ok hrun]
  refine ⟨hkeys, stamped_of_step_ok hi hrun, fun id v => ?_, spent_of_step_ok hi hrun hlater hrange⟩
  show (acceptedAt id v (h.committed ++ [st])).length ≤ 1
  rw [acceptedAt_append_singleton]
  by_cases hv : st.call.checkedVersion = some (id, v)
  · rw [if_pos hv, acceptedAt_eq_nil_of_checked hi hrun hrange hv]
    exact le_refl _
  · rw [if_neg hv, List.append_nil]
    exact hi.once id v

end Step

/-! ## Runs -/

/-- Every history a run reaches from one with the invariant has it, when the run's commits are in
increasing order and in range: a prefix of the run's commits is. -/
theorem fresh_foldl : ∀ (steps : List Step) (h : History), Fresh h →
    Serial (steps.foldl History.step h).committed →
    InRange (steps.foldl History.step h).committed → Fresh (steps.foldl History.step h)
  | [], _, hi, _, _ => hi
  | st :: steps, h, hi, hser, hrange => by
    refine fresh_foldl steps (h.step st) ?_ hser hrange
    have hpre := committed_prefix_foldl steps (h.step st)
    cases hrun : st.run h.db with
    | error e c =>
      rw [History.step_of_error hrun]
      exact hi
    | ok u c =>
      have hcomm : (h.step st).committed = h.committed ++ [st] := by rw [History.step_of_ok hrun]
      rw [hcomm] at hpre
      have hser' : Serial (h.committed ++ [st]) := List.Pairwise.sublist hpre.sublist hser
      refine fresh_step_ok hi hrun (fun a ha => ?_)
        fun a ha => hrange a (hpre.subset (List.mem_append_left _ ha))
      exact (List.pairwise_append.mp hser').2.2 a ha st (List.mem_singleton_self _)

/-- **Each version of a subscription is accepted at most once by the older store**, in every run
whose commits have increasing timestamps, whole numbers of microseconds inside the years `int64`
counts: of all the updates and versioned deletes of an id that checked a version `v`, at most one
went through. -/
theorem each_version_accepted_once (steps : List Step)
    (hser : Serial (History.replay steps).committed)
    (hrange : InRange (History.replay steps).committed) (id v : String) :
    (acceptedAt id v (History.replay steps).committed).length ≤ 1 :=
  (fresh_foldl steps History.init fresh_init hser hrange).once id v

/-- `subscriptionA` inserted at 09:00 on 6 November 2019, updated a second later with the version
the insert left, then updated and deleted a second apart with that version again. -/
def retryRun : List Step :=
  [⟨.insertSubscription subscriptionA [], 1573030800000000000, []⟩,
   ⟨.updateSubscription
     { subscriptionA with version := timestampToVersionString 1573030800000000000 } [],
     1573030801000000000, []⟩,
   ⟨.updateSubscription
     { subscriptionA with version := timestampToVersionString 1573030800000000000 } [],
     1573030802000000000, []⟩,
   ⟨.deleteSubscription subscriptionA.id (timestampToVersionString 1573030800000000000),
     1573030803000000000, []⟩]

set_option maxRecDepth 4000 in
/-- The retried update and the delete are refused: only the insert and the first update commit. -/
example : (History.replay retryRun).committed.map Step.now =
    [1573030800000000000, 1573030801000000000] := by decide

set_option maxRecDepth 4000 in
theorem each_version_accepted_once_retryRun :
    Serial (History.replay retryRun).committed ∧ InRange (History.replay retryRun).committed ∧
      (acceptedAt subscriptionA.id (timestampToVersionString 1573030800000000000)
        (History.replay retryRun).committed).length ≤ 1 :=
  have hser : Serial (History.replay retryRun).committed := by decide
  have hrange : InRange (History.replay retryRun).committed := by decide
  ⟨hser, hrange, each_version_accepted_once retryRun hser hrange _ _⟩

end ProtoStore
end DssStore
