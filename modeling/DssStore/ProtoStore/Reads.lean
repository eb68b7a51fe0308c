import DssStore.ProtoStore.Healthy
import DssStore.ProtoStore.Writes
import DssStore.Cockroach.Behaviour
import DssStore.Geo.Area

/-!
# What the older store's reads find

A delete removes the rows its `WHERE` clause selects: with the empty version every row of the id,
with a version only the rows of the id at that time, which is every row of the id as long as `id`
is a primary key, as it is on every run (`keysUnique_replay`).  So a delete that returned a row
leaves no row of its id (`selectSubscriptionByID_deleted`).

`SearchSubscriptions` joins `subscriptions` to `cells_subscriptions` with a `LEFT JOIN`, keeps the
rows of the owner, and orders nothing.

## What is here

* `selectSubscriptionByID_deleted`;
* `search_answers_every_owned`: on every state a run reaches, `SearchSubscriptions` succeeds
  exactly when handed cells `pq.Array` can encode, and answers every subscription of the owner,
  whatever the cells, in an order the query leaves open.
-/

set_option autoImplicit false

namespace DssStore
namespace ProtoStore

variable {d : Db} {now : Int}

/-! ## Deletes -/

section Deletes

variable {id : String}

/-- A delete that returned a row leaves no row of its id, `id` being a primary key. -/
theorem selectSubscriptionByID_deleted {cond : SubscriptionTuple → Bool} {sr : SubscriptionsRow}
    (hd : KeysUnique d) (hcond : ∀ x, cond x = true → x.id = id)
    (hscan : (queryRow (deleteSubscriptionTuples cond d).1 >>= SubscriptionsRow.scan) = .ok sr) :
    selectSubscriptionByID id (deleteSubscriptionTuples cond d).2 = [] := by
  obtain ⟨x, hx⟩ : ∃ x, x ∈ d.subscriptions.filter cond := by
    rcases hdel : d.subscriptions.filter cond with _ | ⟨x, _⟩
    · simp [deleteSubscriptionTuples, hdel, queryRow, bind, Except.bind] at hscan
    · exact ⟨x, List.mem_cons_self _ _⟩
  obtain ⟨hx, hxc⟩ := List.mem_filter.mp hx
  refine List.filter_eq_nil_iff.mpr fun y hy hyid => ?_
  obtain ⟨hy, hyc⟩ := List.mem_filter.mp hy
  have hxy : x = y := List.inj_on_of_nodup_map hd hx hy
    ((hcond x hxc).trans (of_decide_eq_true hyid).symm)
  rw [hxy] at hxc
  simp [hxc] at hyc

end Deletes

/-! ## The search -/

section Search

variable {cells : List CellID} {owner : String}

/-- A search handed cells it can encode, on tables whose rows of the owner all convert, answers
their conversion. -/
theorem searchSubscriptions_healthy {arr : List Int} {r : List Dspb.Subscription}
    (hne : cells ≠ []) (harr : cellUnionArray cells = .ok arr)
    (hr : (d.subscriptions.filter fun x => x.owner = owner).mapM SubscriptionsRow.ofTuple = .ok r) :
    ∃ c, searchSubscriptions cells owner (Conn.start d now []) = .ok r c := by
  apply Exists.intro
  unfold searchSubscriptions
  rw [if_neg (mt List.length_eq_zero.mp hne), bind_of_ok (pure_apply () _),
    bind_of_ok (begin_healthy rfl), harr,
    bind_of_ok ((attempt_ok (r := .ok _)).mpr (statement_healthy rfl rfl rfl)),
    bind_of_ok (rfl : (orRollback (.ok _) : Tx Db _) _ = .ok _ _)]
  dsimp only
  rw [subscriptionsInCells_eq, show (Conn.start d now []).db = d from rfl, hr,
    bind_of_ok (rfl : (orRollback (.ok r) : Tx Db _) _ = .ok _ _),
    bind_of_ok (commit_healthy rfl rfl)]
  exact pure_apply _ _

/-- **The search answers every subscription of the owner, whatever the cells.**  On every state a
run reaches, with a backend that fails no round trip, `SearchSubscriptions` succeeds exactly when
it is handed cells, all below `2^63` so that `pq.Array` encodes them, and it then answers every
stored subscription of the owner, converted, in some order: its `LEFT JOIN` filters nothing, and
its `SELECT` has no `ORDER BY`. -/
theorem search_answers_every_owned (steps : List Step) (cells : List CellID) (owner : String)
    (now : Int) :
    ((∃ r c, searchSubscriptions cells owner (Conn.start (replay steps) now []) = .ok r c) ↔
      cells ≠ [] ∧ ∀ cell ∈ cells, cell.toNat < 2 ^ 63) ∧
    ∀ r c, searchSubscriptions cells owner (Conn.start (replay steps) now []) = .ok r c →
      ∃ rows : List SubscriptionTuple,
        rows.Perm ((replay steps).subscriptions.filter fun x => x.owner = owner) ∧
          rows.mapM SubscriptionsRow.ofTuple = .ok r := by
  refine ⟨⟨fun ⟨r, c, h⟩ => ?_, fun ⟨hne, hlt⟩ => ?_⟩,
    fun r c h => ⟨_, List.Perm.refl _, (searchSubscriptions_ok h).2.2.1⟩⟩
  · obtain ⟨hne, ⟨arr, harr⟩, -⟩ := searchSubscriptions_ok h
    exact ⟨hne, Cockroach.cellUnionArray_ok harr⟩
  · obtain ⟨arr, harr⟩ := Geo.mapM_ok_of_forall fun c hc => ⟨_, driverValue_eq_int64 (hlt c hc)⟩
    have hrows : ∀ t ∈ (replay steps).subscriptions.filter fun x => x.owner = owner,
        ∃ p, SubscriptionsRow.ofTuple t = .ok p := fun t ht => by
      obtain ⟨sr, hscan, p, hp⟩ :=
        (rowsReadable_replay steps t (List.mem_of_mem_filter ht)).scan_ok
      exact ⟨p, by rw [SubscriptionsRow.ofTuple, hscan]; exact hp⟩
    obtain ⟨r, hr⟩ := Geo.mapM_ok_of_forall hrows
    obtain ⟨c, h⟩ := searchSubscriptions_healthy hne harr hr
    exact ⟨r, c, h⟩

end Search

end ProtoStore
end DssStore
