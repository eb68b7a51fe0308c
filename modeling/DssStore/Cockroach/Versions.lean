import DssStore.Cockroach.Runs

/-!
# Optimistic concurrency: each version is accepted once

`UpdateSubscription` and `DeleteSubscription` go through only when the caller's version is the
stored row's, and every successful push stamps the row with the transaction's timestamp.  So once
an update or a delete has been accepted at version `v` of an id, the row of that id is gone or
carries a later timestamp — and a later timestamp has another version, *as long as the version
tells timestamps apart*.

The version is the base-32 token of `uint64(t.UnixNano())`, and `UnixNano` wraps round every
`2^64` nanoseconds (about 584 years), outside the years 1678 to 2262 that `int64` counts; but the
database's clock counts `int64` nanoseconds too, so every timestamp it hands out lies inside
them.  There `timestampToVersionString_inj` tells timestamps apart, and the argument above goes
through: `version_accepted_once`.

The proof carries an invariant over histories (`Fresh`): every row's timestamp is that of a
commit, and after each accepted check of `(id, v)` every row of `id` is later than the timestamp
`v` was read from.
-/

set_option autoImplicit false

namespace DssStore
namespace Cockroach

/-! ## Accepted versions -/

/-- The id and version a call checks before it writes: an update the version of its entity, a
delete its version argument.  An insert checks none. -/
def Call.checkedVersion : Call → Option (String × String)
  | .insertSubscription _ => none
  | .updateSubscription s => some (s.id, s.version)
  | .deleteSubscription id _ version => some (id, version)

/-- The steps among `steps` that were accepted at version `v` of id `id`. -/
def acceptedAt (id v : String) (steps : List Step) : List Step :=
  steps.filter fun st => st.call.checkedVersion = some (id, v)

theorem acceptedAt_append_singleton (id v : String) (steps : List Step) (st : Step) :
    acceptedAt id v (steps ++ [st]) =
      acceptedAt id v steps ++ if st.call.checkedVersion = some (id, v) then [st] else [] := by
  rw [acceptedAt, List.filter_append, List.filter_singleton]
  by_cases h : st.call.checkedVersion = some (id, v) <;> simp [h, acceptedAt]

theorem Call.id_of_checkedVersion {call : Call} {id v : String}
    (h : call.checkedVersion = some (id, v)) : call.id = id := by
  cases call <;> simp_all [checkedVersion, Call.id]

@[simp] theorem SubscriptionRow.toModel_version (r : SubscriptionRow) :
    r.toModel.version = timestampToVersionString r.updatedAt := rfl

/-- What a committed step did to the rows, as far as versions go: every row it left is fresh,
stamped with its timestamp, or an old row of another id; and the version it checked was the
version of an old row of the id it names. -/
theorem Step.rows_ok {st : Step} {d : Db} {r : Subscription} {c : Conn Db}
    (hk : (d.subscriptions.map SubscriptionRow.id).Nodup) (h : st.run d = .ok r c) :
    (∀ x ∈ c.db.subscriptions, x.updatedAt = st.now ∨ (x ∈ d.subscriptions ∧ x.id ≠ st.call.id)) ∧
    ∀ id v, st.call.checkedVersion = some (id, v) →
      ∃ old ∈ d.subscriptions, old.id = id ∧ v = timestampToVersionString old.updatedAt := by
  have hpushed : ∀ {p : Subscription}, pushTables p st.now d = .ok c.db → p.id = st.call.id →
      ∀ x ∈ c.db.subscriptions, x.updatedAt = st.now ∨ (x ∈ d.subscriptions ∧ x.id ≠ st.call.id) :=
    fun hpush hid x hx => by
      rw [pushTables_subscriptions hpush] at hx
      rcases List.mem_cons.mp hx with rfl | hx
      · exact .inl rfl
      · obtain ⟨hx, hne⟩ := List.mem_filter.mp hx
        exact .inr ⟨hx, hid ▸ by simpa using hne⟩
  rcases Step.run_ok h with ⟨s, hcall, -, hpush⟩ | ⟨s, old, hcall, hsel, hver, hpush⟩ |
      ⟨id, owner, version, old, hcall, hsel, hver, hdb⟩
  · refine ⟨hpushed hpush (by rw [hcall]; rfl), fun id v hv => ?_⟩
    rw [hcall] at hv
    cases hv
  · obtain ⟨hold, hoid, -⟩ := mem_of_selectByIDAndOwner_eq hsel
    refine ⟨hpushed hpush (by rw [hcall]; exact hoid), fun id v hv => ?_⟩
    rw [hcall] at hv
    cases hv
    exact ⟨old, hold, hoid, hver⟩
  · obtain ⟨hold, hoid, -⟩ := mem_of_selectByIDAndOwner_eq hsel
    have holdsel : old ∈ selectByIDAndOwner id owner d := by
      rw [hsel]; exact List.mem_singleton_self _
    refine ⟨fun x hx => .inr ?_, fun id v hv => ?_⟩
    · rw [hdb, deleteSubscriptionRow_of_ne_nil (by rw [hsel]; exact List.cons_ne_nil _ _)] at hx
      obtain ⟨hx, hkeep⟩ := List.mem_filter.mp hx
      rw [hcall]
      exact ⟨hx, id_ne_of_mem_select hk holdsel hx (by simpa [not_and_or] using hkeep)⟩
    · rw [hcall] at hv
      cases hv
      exact ⟨old, hold, hoid, hver⟩

/-! ## The invariant -/

/-- What a history with increasing commit timestamps keeps: the cell index (for its primary
key), every row stamped by a commit, at most one acceptance per version of an id, and after an
acceptance every row of the id later than the timestamp the version was read from. -/
structure Fresh (h : History) : Prop where
  index : CellIndex h.db h.declared
  stamped : ∀ x ∈ h.db.subscriptions, ∃ st ∈ h.committed, st.now = x.updatedAt
  once : ∀ id v, (acceptedAt id v h.committed).length ≤ 1
  spent : ∀ id v, acceptedAt id v h.committed ≠ [] → ∃ t, timestampToVersionString t = v ∧
    (∃ st ∈ h.committed, st.now = t) ∧ ∀ x ∈ h.db.subscriptions, x.id = id → t < x.updatedAt

theorem fresh_init : Fresh History.init :=
  ⟨cellIndex_empty _, fun _ h => (nomatch h), fun _ _ => Nat.zero_le _,
    fun _ _ h => absurd rfl h⟩

/-- The commit timestamps of a list of steps are strictly increasing. -/
def Serial (steps : List Step) : Prop := steps.Pairwise fun a b => a.now < b.now

/-- Every commit timestamp of a list of steps is one `UnixNano` counts without wrapping. -/
def InRange (steps : List Step) : Prop := ∀ st ∈ steps, InInt64 st.now

instance (steps : List Step) : Decidable (Serial steps) :=
  inferInstanceAs (Decidable (List.Pairwise _ _))

instance (steps : List Step) : Decidable (InRange steps) :=
  inferInstanceAs (Decidable (∀ st ∈ steps, InInt64 st.now))

section Step

variable {h : History} {st : Step} {r : Subscription} {c : Conn Db}

/-- Every row a committed step leaves is stamped by one of the commits so far. -/
theorem stamped_of_step_ok (hi : Fresh h) (hrun : st.run h.db = .ok r c) :
    ∀ x ∈ c.db.subscriptions, ∃ a ∈ h.committed ++ [st], a.now = x.updatedAt := fun x hx => by
  rcases (Step.rows_ok hi.index.keys hrun).1 x hx with hnow | ⟨hx, -⟩
  · exact ⟨st, List.mem_append_right _ (List.mem_singleton_self _), hnow.symm⟩
  · obtain ⟨a, ha, hat⟩ := hi.stamped x hx
    exact ⟨a, List.mem_append_left _ ha, hat⟩

/-- A version a committed step was accepted at had never been accepted: the row it was read from
is stamped later than the timestamp of any earlier acceptance, and in range the two versions
differ. -/
theorem acceptedAt_eq_nil_of_checked (hi : Fresh h) (hrun : st.run h.db = .ok r c)
    (hrange : InRange (h.committed ++ [st])) {id v : String}
    (hv : st.call.checkedVersion = some (id, v)) : acceptedAt id v h.committed = [] := by
  obtain ⟨old, hold, hoid, hver⟩ := (Step.rows_ok hi.index.keys hrun).2 id v hv
  by_contra hne
  obtain ⟨t, htv, ⟨a, ha, rfl⟩, hlt⟩ := hi.spent id v hne
  obtain ⟨b, hb, hbt⟩ := hi.stamped old hold
  have hsame := timestampToVersionString_inj (hrange a (List.mem_append_left _ ha))
    (hbt ▸ hrange b (List.mem_append_left _ hb)) (htv.trans hver)
  exact absurd (hlt old hold hoid) (by omega)

/-- After a committed step, every version accepted so far was read from a timestamp earlier than
every row of its id: the step's own rows carry the latest timestamp. -/
theorem spent_of_step_ok (hi : Fresh h) (hrun : st.run h.db = .ok r c)
    (hlater : ∀ a ∈ h.committed, a.now < st.now) (id v : String)
    (hne : acceptedAt id v (h.committed ++ [st]) ≠ []) :
    ∃ t, timestampToVersionString t = v ∧ (∃ a ∈ h.committed ++ [st], a.now = t) ∧
      ∀ x ∈ c.db.subscriptions, x.id = id → t < x.updatedAt := by
  obtain ⟨hrows, hcheck⟩ := Step.rows_ok hi.index.keys hrun
  rw [acceptedAt_append_singleton] at hne
  by_cases hv : st.call.checkedVersion = some (id, v)
  · obtain ⟨old, hold, hoid, hver⟩ := hcheck id v hv
    obtain ⟨b, hb, hbt⟩ := hi.stamped old hold
    refine ⟨old.updatedAt, hver.symm, ⟨b, List.mem_append_left _ hb, hbt⟩, fun x hx hid => ?_⟩
    rcases hrows x hx with hnow | ⟨-, hne'⟩
    · rw [hnow, ← hbt]; exact hlater b hb
    · exact absurd (hid.trans (Call.id_of_checkedVersion hv).symm) hne'
  · rw [if_neg hv, List.append_nil] at hne
    obtain ⟨t, htv, ⟨a, ha, rfl⟩, hold⟩ := hi.spent id v hne
    refine ⟨a.now, htv, ⟨a, List.mem_append_left _ ha, rfl⟩, fun x hx hid => ?_⟩
    rcases hrows x hx with hnow | ⟨hx, -⟩
    · rw [hnow]; exact hlater a ha
    · exact hold x hx hid

/-- **A committed step keeps the invariant**, when its timestamp is later than every earlier
commit and every commit is in range. -/
theorem fresh_step_ok (hi : Fresh h) (hrun : st.run h.db = .ok r c)
    (hlater : ∀ a ∈ h.committed, a.now < st.now) (hrange : InRange (h.committed ++ [st])) :
    Fresh (h.step st) := by
  have hindex := cellIndex_step st hi.index
  rw [History.step_of_ok hrun] at hindex ⊢
  refine ⟨hindex, stamped_of_step_ok hi hrun, fun id v => ?_, spent_of_step_ok hi hrun hlater⟩
  show (acceptedAt id v (h.committed ++ [st])).length ≤ 1
  rw [acceptedAt_append_singleton]
  by_cases hv : st.call.checkedVersion = some (id, v)
  · rw [if_pos hv, acceptedAt_eq_nil_of_checked hi hrun hrange hv]; exact le_refl _
  · rw [if_neg hv, List.append_nil]; exact hi.once id v

end Step

/-! ## Runs -/

theorem History.committed_prefix_step (h : History) (st : Step) :
    h.committed <+: (h.step st).committed := by
  cases hrun : st.run h.db with
  | error e c => rw [History.step_of_error hrun]
  | ok r c => rw [History.step_of_ok hrun]; exact List.prefix_append _ _

theorem committed_prefix_foldl : ∀ (steps : List Step) (h : History),
    h.committed <+: (steps.foldl History.step h).committed
  | [], _ => List.prefix_refl _
  | st :: steps, h =>
    (h.committed_prefix_step st).trans (committed_prefix_foldl steps (h.step st))

/-- Every history a run reaches from one with the invariant has it, when the run's commits are in
increasing order and in range: a prefix of the run's commits is. -/
theorem fresh_foldl : ∀ (steps : List Step) (h : History), Fresh h →
    Serial (steps.foldl History.step h).committed →
    InRange (steps.foldl History.step h).committed → Fresh (steps.foldl History.step h)
  | [], _, hi, _, _ => hi
  | st :: steps, h, hi, hser, hrange => by
    refine fresh_foldl steps (h.step st) ?_ hser hrange
    have hpre := committed_prefix_foldl steps (h.step st)
    cases hrun : st.run h.db with
    | error e c => rw [History.step_of_error hrun]; exact hi
    | ok r c =>
      have hcomm : (h.step st).committed = h.committed ++ [st] := by
        rw [History.step_of_ok hrun]
      rw [hcomm] at hpre
      have hser' : Serial (h.committed ++ [st]) := List.Pairwise.sublist hpre.sublist hser
      refine fresh_step_ok hi hrun (fun a ha => ?_) fun a ha => hrange a (hpre.subset ha)
      exact (List.pairwise_append.mp hser').2.2 a ha st (List.mem_singleton_self _)

/-- A step that does not commit leaves the history as it was. -/
theorem History.step_of_not_ok {h : History} {st : Step} (hfail : ∀ r c, st.run h.db ≠ .ok r c) :
    h.step st = h := by
  cases hrun : st.run h.db with
  | ok r c => exact absurd hrun (hfail r c)
  | error e c => exact History.step_of_error hrun

/-- **Each version of a subscription is accepted at most once**, in every run whose commits have
increasing timestamps inside the years `int64` counts: of all the updates and deletes of an id
that checked a version `v`, at most one committed; and a step that does not commit changes
nothing. -/
theorem version_accepted_once (steps : List Step) (hser : Serial (replay steps).committed)
    (hrange : InRange (replay steps).committed) :
    (∀ id v, (acceptedAt id v (replay steps).committed).length ≤ 1) ∧
      ∀ (h : History) (st : Step), (∀ r c, st.run h.db ≠ .ok r c) → h.step st = h :=
  ⟨(fresh_foldl steps History.init fresh_init hser hrange).once,
    fun _ _ hfail => History.step_of_not_ok hfail⟩

/-- A run of an insert, an update and a delete of `x`, a second apart from 09:00 on 6 November
2019, each at the version the one before left. -/
def serialRun : List Step :=
  [⟨.insertSubscription ⟨"x", "u", 0, "a", none, none, none, none⟩, 1573030800000000000, []⟩,
   ⟨.updateSubscription ⟨"x", "v", 0, "a", some [42], none, none, some 1573030800000000000⟩,
     1573030801000000000, []⟩,
   ⟨.deleteSubscription "x" "a" (timestampToVersionString 1573030801000000000),
     1573030802000000000, []⟩]

set_option maxRecDepth 4000 in
theorem version_accepted_once_serialRun :
    Serial (replay serialRun).committed ∧ InRange (replay serialRun).committed ∧
      (∀ id v, (acceptedAt id v (replay serialRun).committed).length ≤ 1) :=
  have hser : Serial (replay serialRun).committed := by decide
  have hrange : InRange (replay serialRun).committed := by decide
  ⟨hser, hrange, (version_accepted_once serialRun hser hrange).1⟩

end Cockroach
end DssStore
