import Mathlib.Data.List.Dedup

/-!
# The SQL the store's queries are written in

The queries of both stores use only a few pieces of SQL beyond `SELECT … WHERE`, and each of them
matters to what a query returns:

* **three-valued logic.**  A comparison with NULL is unknown, `AND` and `OR` are Kleene's, and
  `WHERE` keeps a row only when its condition is true.  Which row of `subscriptions` has a NULL
  `begins_at` or `expires_at` decides what the ISA deletion's subscriber query returns.
* **`= ANY(array)` and `!= ALL(array)`**, the array operators the cell-index queries use; the array
  itself is NULL when the driver is handed a nil Go slice.
* **`LEFT JOIN`**, which keeps every row of its left side, paired with NULL where nothing on the
  right matches it, and **`DISTINCT`**.

Values are modelled with `Option` for NULL.  The arrays the store binds never hold a NULL
element, so an array is an `Option (List α)`.

Two column types hold less than the Go values bound to them:

* a **`TIMESTAMPTZ`** holds microseconds.  Times are nanoseconds since the epoch here, as Go's
  `time.Time` holds them; the database rounds a time it is handed to the nearest microsecond, a
  half up (`t.Round(time.Microsecond)`), before it stores or compares it (`timestamptz`).
  `transaction_timestamp()` is a microsecond value already, and is taken as it is;
* a **`UUID`** column refuses a string that is not a UUID, compares UUIDs rather than texts, and
  reads an id back as its canonical text (`uuidText`).  Ids are kept as strings: what is said of
  them holds of ids in that text, on which comparing texts is comparing UUIDs.
-/

set_option autoImplicit false

namespace Sql

/-! ## Three-valued logic -/

/-- `AND`: false wins over unknown, unknown over true. -/
def and3 : Option Bool → Option Bool → Option Bool
  | some false, _ => some false
  | _, some false => some false
  | some true, some true => some true
  | _, _ => none

/-- `OR`: true wins over unknown, unknown over false. -/
def or3 : Option Bool → Option Bool → Option Bool
  | some true, _ => some true
  | _, some true => some true
  | some false, some false => some false
  | _, _ => none

/-- A comparison of two nullable values: unknown when either is NULL. -/
def cmp3 {α : Type} (r : α → α → Bool) : Option α → Option α → Option Bool
  | some a, some b => some (r a b)
  | _, _ => none

/-- `x IS NULL`. -/
def isNull {α : Type} (x : Option α) : Option Bool := some x.isNone

/-- What `WHERE` keeps: the rows whose condition is true, not unknown. -/
def whereTrue {α : Type} (p : α → Option Bool) (rows : List α) : List α :=
  rows.filter fun r => p r = some true

@[simp] theorem and3_eq_true {a b : Option Bool} :
    and3 a b = some true ↔ a = some true ∧ b = some true := by
  rcases a with _ | _ | _ <;> rcases b with _ | _ | _ <;> simp [and3]

@[simp] theorem or3_eq_true {a b : Option Bool} :
    or3 a b = some true ↔ a = some true ∨ b = some true := by
  rcases a with _ | _ | _ <;> rcases b with _ | _ | _ <;> simp [or3]

theorem mem_whereTrue {α : Type} {p : α → Option Bool} {rows : List α} {r : α} :
    r ∈ whereTrue p rows ↔ r ∈ rows ∧ p r = some true := by
  simp [whereTrue]

/-! ## `TIMESTAMPTZ` and `UUID` values -/

/-- The `TIMESTAMPTZ` a time `t` becomes: `t` rounded to the nearest microsecond, a half up. -/
def timestamptz (t : Int) : Int := (t + 500) / 1000 * 1000

/-- A time that is a whole number of microseconds is stored as it is. -/
theorem timestamptz_of_dvd {t : Int} (h : 1000 ∣ t) : timestamptz t = t := by
  simp only [timestamptz]
  omega

/-- The canonical text of a `UUID`, as the database reads one back: 36 characters, lowercase
hexadecimal digits in groups of 8, 4, 4, 4 and 12 joined by hyphens. -/
def uuidText (s : String) : Bool :=
  s.data.length = 36 && s.data.enum.all fun (i, c) =>
    if i = 8 ∨ i = 13 ∨ i = 18 ∨ i = 23 then c = '-' else c.isDigit || ('a' ≤ c && c ≤ 'f')

example : uuidText "6ba7b810-9dad-11d1-80b4-00c04fd430c8" ∧ ¬uuidText "" ∧
    ¬uuidText "6BA7B810-9DAD-11D1-80B4-00C04FD430C8" := by decide

/-! ## Array operators -/

/-- `x = ANY(arr)` for a non-NULL `x`: NULL on a NULL array, otherwise whether `x` is in it. -/
def anyEq {α : Type} [DecidableEq α] (x : α) : Option (List α) → Option Bool
  | none => none
  | some xs => some (decide (x ∈ xs))

/-- `x != ALL(arr)` for a non-NULL `x`: NULL on a NULL array, otherwise whether `x` is not in it
(true of every `x` on an empty array). -/
def allNe {α : Type} [DecidableEq α] (x : α) : Option (List α) → Option Bool
  | none => none
  | some xs => some (decide (x ∉ xs))

@[simp] theorem anyEq_eq_true {α : Type} [DecidableEq α] {x : α} {arr : Option (List α)} :
    anyEq x arr = some true ↔ ∃ xs, arr = some xs ∧ x ∈ xs := by
  cases arr <;> simp [anyEq]

@[simp] theorem allNe_eq_true {α : Type} [DecidableEq α] {x : α} {arr : Option (List α)} :
    allNe x arr = some true ↔ ∃ xs, arr = some xs ∧ x ∉ xs := by
  cases arr <;> simp [allNe]

/-! ## Joins -/

/-- `l LEFT JOIN r ON cond`: every row of `l` with each row of `r` it matches, or with NULL when it
matches none. -/
def leftJoin {α β : Type} (l : List α) (r : List β) (cond : α → β → Bool) : List (α × Option β) :=
  l.flatMap fun a =>
    match r.filter (cond a) with
    | [] => [(a, none)]
    | bs => bs.map fun b => (a, some b)

/-- A left row that matches nothing comes back once, paired with NULL. -/
theorem mem_leftJoin_of_filter_eq_nil {α β : Type} {l : List α} {r : List β}
    {cond : α → β → Bool} {a : α} (ha : a ∈ l) (h : r.filter (cond a) = []) :
    (a, none) ∈ leftJoin l r cond := by
  simp only [leftJoin, List.mem_flatMap]
  exact ⟨a, ha, by rw [h]; exact List.mem_singleton_self _⟩

/-- `SELECT DISTINCT`. -/
def distinct {α : Type} [DecidableEq α] (rows : List α) : List α := rows.dedup

theorem mem_distinct {α : Type} [DecidableEq α] {rows : List α} {a : α} :
    a ∈ distinct rows ↔ a ∈ rows :=
  List.mem_dedup

theorem distinct_nodup {α : Type} [DecidableEq α] (rows : List α) : (distinct rows).Nodup :=
  List.nodup_dedup rows

/-- Joined against a list in which it matches at most one row, a left row appears once. -/
theorem leftJoin_one {α β : Type} (a : α) (r : List β) (cond : α → β → Bool)
    (h : (r.filter (cond a)).length ≤ 1) :
    (match r.filter (cond a) with
      | [] => [(a, none)]
      | bs => bs.map fun b => (a, some b)).map Prod.fst = [a] := by
  rcases hf : r.filter (cond a) with _ | ⟨b, _ | ⟨b', bs⟩⟩
  · rfl
  · rfl
  · simp [hf] at h

/-- **A left join keeps its left side.**  When every left row matches at most one right row — as
against the `DISTINCT` ids of a subquery — the join's left column is exactly the left table, each
row once: the join filters nothing. -/
theorem leftJoin_fst {α β : Type} (l : List α) (r : List β) (cond : α → β → Bool)
    (h : ∀ a ∈ l, (r.filter (cond a)).length ≤ 1) :
    (leftJoin l r cond).map Prod.fst = l := by
  induction l with
  | nil => rfl
  | cons a l ih =>
    simp only [leftJoin, List.flatMap_cons, List.map_append] at ih ⊢
    rw [leftJoin_one a r cond (h a (List.mem_cons_self a l)),
      ih fun a' ha' => h a' (List.mem_cons_of_mem a ha'), List.singleton_append]

/-- Against a duplicate-free list, a key matches at most once. -/
theorem filter_eq_length_le_one {α β : Type} [DecidableEq β] (key : α → β) (a : α) {r : List β}
    (hr : r.Nodup) : (r.filter fun b => decide (key a = b)).length ≤ 1 := by
  have hnd := hr.filter fun b => decide (key a = b)
  rcases hf : r.filter (fun b => decide (key a = b)) with _ | ⟨b, _ | ⟨b', bs⟩⟩
  · simp
  · simp
  · have hb : b = key a := by
      have : b ∈ r.filter fun b => decide (key a = b) := by rw [hf]; simp
      simpa [eq_comm] using (List.mem_filter.mp this).2
    have hb' : b' = key a := by
      have : b' ∈ r.filter fun b => decide (key a = b) := by rw [hf]; simp
      simpa [eq_comm] using (List.mem_filter.mp this).2
    rw [hf] at hnd
    simp [hb, hb'] at hnd

end Sql
