import DssStore.Version

/-!
# Transactions, as `database/sql` hands them out

Every Store operation of both stores is written against `database/sql`: it calls `Begin`, issues
statements on the `*sql.Tx` it got, and ends it with `Commit` or `Rollback`, combining a rollback's
error with its own through `multierr.Combine`.  An operation is modelled as an `EStateM` program
over a connection `Conn D`, `D` being the tables, so that its Go text can be read off the Lean one
line by line.  A `Conn` holds

* `db`, the committed state every other transaction sees, and `view`, the transaction's own;
  `commit` is the only thing that writes `db`, and it writes `view` there;
* `phase`, where the transaction handle is in its life;
* `events`, every call made on the handle, in order;
* `faults`, the outcome of each round trip still to come — a `true` makes it fail.  A statement
  about every `faults` is a statement about every way the backend can fail;
* `now`, the transaction's `transaction_timestamp()`.

A statement on an ended transaction fails with `sql.ErrTxDone` before it reaches the backend, as
in `database/sql`; so does a second `Commit` or `Rollback`.  A failed statement leaves the view as
it was.  Postgres would also refuse every later statement of that transaction, which no operation
here tries.

The last section is what the rest of the development uses to reason about operations without
unfolding them: `bind_ok` and `bind_error` peel a program apart, and `Quiet` and `Sealed` say that
only a successful `commit` ever changes the committed state.
-/

set_option autoImplicit false

namespace EStateM.Result

/-- The state a run ends in, with or without an error. -/
def state {ε σ α : Type} : EStateM.Result ε σ α → σ
  | .ok _ s => s
  | .error _ s => s

/-- What a run returns: its value, or its error. -/
def toExcept {ε σ α : Type} : EStateM.Result ε σ α → Except ε α
  | .ok a _ => .ok a
  | .error e _ => .error e

@[simp] theorem state_ok {ε σ α : Type} (a : α) (s : σ) :
    (EStateM.Result.ok a s : EStateM.Result ε σ α).state = s := rfl

@[simp] theorem state_error {ε σ α : Type} (e : ε) (s : σ) :
    (EStateM.Result.error e s : EStateM.Result ε σ α).state = s := rfl

end EStateM.Result

namespace DssStore

/-! ## Errors -/

/-- The errors an operation returns, by where they come from. -/
inductive Err where
  /-- `sql.ErrNoRows`: a single-row read found no row. -/
  | noRows
  /-- `sql.ErrTxDone`: a call on a transaction already committed or rolled back. -/
  | txDone
  /-- A round trip to the database failed. -/
  | backend
  /-- The database refused a write that breaks a constraint of the schema. -/
  | constraint (msg : String)
  /-- The driver could not encode a query argument. -/
  | driver (msg : String)
  /-- `database/sql` could not store a column in the Go value `Scan` was handed. -/
  | scan (msg : String)
  /-- `ptypes` refused a timestamp outside the years 1 to 9999. -/
  | timestamp (msg : String)
  /-- `strconv` could not read a version string. -/
  | parse (e : Strconv.NumError)
  /-- An error made with `fmt.Errorf` or `errors.New`. -/
  | message (msg : String)
  /-- `dsserr.AlreadyExists`. -/
  | alreadyExists (id : String)
  /-- `dsserr.NotFound`. -/
  | notFound (msg : String)
  /-- `dsserr.VersionMismatch`. -/
  | versionMismatch (msg : String)
  /-- `dsserr.BadRequest`. -/
  | badRequest (msg : String)
  /-- `multierr.Combine` of an error and the error of the call that followed it. -/
  | combined (e e' : Err)
  deriving DecidableEq, Repr

/-- `multierr.Combine(err, tx.Rollback())`: `err` alone when the rollback returned nil. -/
def Err.combine (e : Err) : Option Err → Err
  | none => e
  | some e' => .combined e e'

/-! ## Connections -/

/-- A call on the `*sql.Tx` handle. -/
inductive TxEvent
  | begin
  | statement
  | commit
  | rollback
  deriving DecidableEq, Repr

/-- Where the transaction handle is in its life: not begun, open, or ended by `Commit` or
`Rollback`. -/
inductive Phase
  | idle
  | active
  | done
  deriving DecidableEq, Repr

/-- One operation's connection to the database. -/
structure Conn (D : Type) where
  /-- The committed state, which every other transaction sees. -/
  db : D
  /-- The transaction's own view of the tables. -/
  view : D
  /-- Where the transaction handle is in its life. -/
  phase : Phase
  /-- Every call made on the transaction handle, in order. -/
  events : List TxEvent
  /-- The outcome of each round trip still to come: `true` fails it; past the end, none fails. -/
  faults : List Bool
  /-- `transaction_timestamp()`. -/
  now : Int

/-- Programs over a connection, failing with an `Err`. -/
abbrev Tx (D α : Type) := EStateM Err (Conn D) α

variable {D : Type}

/-- A connection before `Begin`. -/
def Conn.start (db : D) (now : Int) (faults : List Bool) : Conn D :=
  ⟨db, db, .idle, [], faults, now⟩

/-- Whether the next round trip fails. -/
def Conn.fails (c : Conn D) : Bool := c.faults.headD false

/-- The connection after one round trip. -/
def Conn.trip (c : Conn D) : Conn D := { c with faults := c.faults.tail }

/-- The connection after a call on the handle. -/
def Conn.log (c : Conn D) (e : TxEvent) : Conn D := { c with events := c.events ++ [e] }

@[simp] theorem Conn.trip_db (c : Conn D) : c.trip.db = c.db := rfl
@[simp] theorem Conn.trip_view (c : Conn D) : c.trip.view = c.view := rfl
@[simp] theorem Conn.trip_phase (c : Conn D) : c.trip.phase = c.phase := rfl
@[simp] theorem Conn.trip_events (c : Conn D) : c.trip.events = c.events := rfl
@[simp] theorem Conn.trip_now (c : Conn D) : c.trip.now = c.now := rfl
@[simp] theorem Conn.trip_faults (c : Conn D) : c.trip.faults = c.faults.tail := rfl
@[simp] theorem Conn.log_db (c : Conn D) (e : TxEvent) : (c.log e).db = c.db := rfl
@[simp] theorem Conn.log_view (c : Conn D) (e : TxEvent) : (c.log e).view = c.view := rfl
@[simp] theorem Conn.log_phase (c : Conn D) (e : TxEvent) : (c.log e).phase = c.phase := rfl
@[simp] theorem Conn.log_faults (c : Conn D) (e : TxEvent) : (c.log e).faults = c.faults := rfl
@[simp] theorem Conn.log_now (c : Conn D) (e : TxEvent) : (c.log e).now = c.now := rfl
@[simp] theorem Conn.log_events (c : Conn D) (e : TxEvent) :
    (c.log e).events = c.events ++ [e] := rfl

/-! ## The calls on a transaction -/

/-- `Begin()`: one round trip; the transaction starts from the committed state. -/
def begin : Tx D Unit := fun c =>
  if c.fails then .error .backend c.trip
  else .ok () { c.trip.log .begin with phase := .active, view := c.db }

/-- A statement on the transaction (`QueryContext`, `QueryRowContext`, `ExecContext`).  On an
ended transaction it fails with `sql.ErrTxDone`.  Otherwise the driver encodes its arguments
(`args`, which can fail), one round trip is made, and `run` says what the database answers at
the transaction's timestamp and how it changes the view. -/
def statement {β α : Type} (args : Except Err β) (run : β → Int → D → Except Err (α × D)) :
    Tx D α := fun c =>
  let c := c.log .statement
  if c.phase ≠ .active then .error .txDone c
  else match args with
    | .error e => .error e c
    | .ok a =>
      if c.fails then .error .backend c.trip
      else match run a c.now c.view with
        | .error e => .error e c.trip
        | .ok (r, v) => .ok r { c.trip with view := v }

/-- A read: the rows it returns. -/
def query {α : Type} (rows : Int → D → List α) : Tx D (List α) :=
  statement (.ok ()) fun _ now d => .ok (rows now d, d)

/-- A write that returns nothing, and may be refused. -/
def exec (run : Int → D → Except Err D) : Tx D Unit :=
  statement (.ok ()) fun _ now d => (run now d).map fun d' => ((), d')

/-- `Commit()`: one round trip that ends the transaction; only when it succeeds does the view
become the committed state. -/
def commit : Tx D Unit := fun c =>
  let c := c.log .commit
  if c.phase ≠ .active then .error .txDone c
  else if c.fails then .error .backend { c.trip with phase := .done }
  else .ok () { c.trip with phase := .done, db := c.view }

/-- `Rollback()`: ends the transaction, discarding the view; it returns its error rather than
throwing it, since every caller combines it with another. -/
def rollback : Tx D (Option Err) := fun c =>
  let c := c.log .rollback
  if c.phase ≠ .active then .ok (some .txDone) c
  else .ok (if c.fails then some .backend else none) { c.trip with phase := .done }

/-- `return nil, multierr.Combine(err, tx.Rollback())`. -/
def rollbackWith {α : Type} (e : Err) : Tx D α := do
  throw (e.combine (← rollback))

/-- `if err != nil { return nil, multierr.Combine(err, tx.Rollback()) }`, after a value computed
off the transaction. -/
def orRollback {α : Type} : Except Err α → Tx D α
  | .error e => rollbackWith e
  | .ok a => pure a

/-- `if err != nil { return nil, err }`, after a value computed off the transaction: the error is
returned and the transaction left as it is. -/
def orThrow {α : Type} : Except Err α → Tx D α
  | .error e => throw e
  | .ok a => pure a

/-- Run `x` and hand its error back as a value, as Go's `v, err := x()` does. -/
def attempt {α : Type} (x : Tx D α) : Tx D (Except Err α) := fun c =>
  match x c with
  | .ok a c' => .ok (.ok a) c'
  | .error e c' => .ok (.error e) c'

/-! ## Reasoning about programs

`bind_ok` and `bind_error` take a finished run apart at its first step.  `Quiet` programs never
change the committed state; `Sealed` ones do not change it when they fail.  Every call but
`commit` is quiet, and an operation that ends with `commit; return` is sealed. -/

section Reasoning

variable {α β : Type}

theorem bind_apply (x : Tx D α) (f : α → Tx D β) (c : Conn D) :
    (x >>= f) c = match x c with
      | .ok a c' => f a c'
      | .error e c' => .error e c' := by
  show EStateM.bind x f c = _
  unfold EStateM.bind
  cases x c <;> rfl

@[simp] theorem pure_apply (a : α) (c : Conn D) : (pure a : Tx D α) c = .ok a c := rfl

@[simp] theorem throw_apply (e : Err) (c : Conn D) : (throw e : Tx D α) c = .error e c := rfl

theorem bind_ok {x : Tx D α} {f : α → Tx D β} {c c'' : Conn D} {b : β} :
    (x >>= f) c = .ok b c'' ↔ ∃ a c', x c = .ok a c' ∧ f a c' = .ok b c'' := by
  rw [bind_apply]
  cases x c with
  | ok a c' => exact ⟨fun h => ⟨a, c', rfl, h⟩, fun ⟨_, _, h₁, h₂⟩ => by cases h₁; exact h₂⟩
  | error e c' => simp

theorem bind_error {x : Tx D α} {f : α → Tx D β} {c c'' : Conn D} {e : Err} :
    (x >>= f) c = .error e c'' ↔
      x c = .error e c'' ∨ ∃ a c', x c = .ok a c' ∧ f a c' = .error e c'' := by
  rw [bind_apply]
  cases x c with
  | ok a c' =>
    refine ⟨fun h => .inr ⟨a, c', rfl, h⟩, fun h => ?_⟩
    rcases h with h | ⟨_, _, h₁, h₂⟩
    · cases h
    · cases h₁; exact h₂
  | error e c' => simp

/-- A program that never changes the committed state. -/
def Quiet (x : Tx D α) : Prop := ∀ c, (x c).state.db = c.db

/-- A program that leaves the committed state as it was whenever it fails. -/
def Sealed (x : Tx D α) : Prop := ∀ c e c', x c = .error e c' → c'.db = c.db

theorem Quiet.sealed {x : Tx D α} (h : Quiet x) : Sealed x := fun c e c' hx => by
  simpa [hx] using h c

theorem quiet_pure (a : α) : Quiet (pure a : Tx D α) := fun _ => rfl

theorem quiet_throw (e : Err) : Quiet (throw e : Tx D α) := fun _ => rfl

theorem quiet_bind {x : Tx D α} {f : α → Tx D β} (hx : Quiet x) (hf : ∀ a, Quiet (f a)) :
    Quiet (x >>= f) := fun c => by
  rw [bind_apply]
  cases h : x c with
  | ok a c' => rw [hf a c']; simpa [h] using hx c
  | error e c' => simpa [h] using hx c

theorem quiet_begin : Quiet (begin : Tx D Unit) := fun c => by
  unfold begin; split <;> rfl

theorem quiet_statement {γ : Type} (args : Except Err γ) (run : γ → Int → D → Except Err (α × D)) :
    Quiet (statement args run) := fun c => by
  unfold statement
  dsimp only
  split
  · rfl
  · split
    · rfl
    · split
      · rfl
      · split <;> rfl

theorem quiet_query (rows : Int → D → List α) : Quiet (query rows) :=
  quiet_statement _ _

theorem quiet_exec (run : Int → D → Except Err D) : Quiet (exec run) :=
  quiet_statement _ _

theorem quiet_rollback : Quiet (rollback : Tx D (Option Err)) := fun c => by
  unfold rollback; dsimp only; split <;> rfl

theorem quiet_rollbackWith (e : Err) : Quiet (rollbackWith e : Tx D α) :=
  quiet_bind quiet_rollback fun _ => quiet_throw _

theorem quiet_attempt {x : Tx D α} (hx : Quiet x) : Quiet (attempt x) := fun c => by
  have h := hx c
  unfold attempt
  cases hc : x c <;> simp_all

theorem sealed_commit : Sealed (commit : Tx D Unit) := fun c e c' h => by
  unfold commit at h
  dsimp only at h
  split at h
  · cases h; rfl
  · split at h
    · cases h; rfl
    · cases h

theorem sealed_bind {x : Tx D α} {f : α → Tx D β} (hx : Quiet x) (hf : ∀ a, Sealed (f a)) :
    Sealed (x >>= f) := fun c e c' h => by
  rcases bind_error.mp h with h | ⟨a, c₁, h₁, h₂⟩
  · exact hx.sealed c e c' h
  · rw [hf a c₁ e c' h₂]; simpa [h₁] using hx c

/-- `commit; return a` fails only at the commit. -/
theorem sealed_commit_pure (a : α) : Sealed (commit >>= fun _ => (pure a : Tx D α)) :=
  fun c e c' h => by
    rcases bind_error.mp h with h | ⟨_, _, _, h₂⟩
    · exact sealed_commit c e c' h
    · cases h₂

/-- After a successful commit the committed state is the view the transaction had. -/
theorem commit_ok {c c' : Conn D} {u : Unit} (h : commit c = .ok u c') :
    c.phase = .active ∧ c'.db = c.view ∧ c'.phase = .done := by
  unfold commit at h
  dsimp only at h
  split at h
  · cases h
  · rename_i hactive
    split at h
    · cases h
    · cases h; exact ⟨by simpa using hactive, rfl, rfl⟩

/-- `commit; return a` succeeds with `a`, having committed the view. -/
theorem commit_pure_ok {a b : α} {c c' : Conn D}
    (h : (commit >>= fun _ => (pure a : Tx D α)) c = .ok b c') : b = a ∧ c'.db = c.view := by
  obtain ⟨_, c₁, h₁, h₂⟩ := bind_ok.mp h
  rw [pure_apply] at h₂
  cases h₂
  exact ⟨rfl, (commit_ok h₁).2.1⟩

theorem attempt_ok {x : Tx D α} {c c' : Conn D} {r : Except Err α} :
    attempt x c = .ok r c' ↔ match r with
      | .ok a => x c = .ok a c'
      | .error e => x c = .error e c' := by
  unfold attempt
  cases x c <;> cases r <;> simp

theorem attempt_error {x : Tx D α} {c c' : Conn D} {e : Err} : attempt x c ≠ .error e c' := by
  unfold attempt
  cases x c <;> simp

theorem begin_ok {c c' : Conn D} {u : Unit} (h : begin c = .ok u c') :
    c'.view = c.db ∧ c'.phase = .active ∧ c'.db = c.db ∧ c'.now = c.now := by
  unfold begin at h
  split at h
  · cases h
  · cases h; exact ⟨rfl, rfl, rfl, rfl⟩

theorem rollbackWith_ne_ok {c c' : Conn D} {e : Err} {a : α} :
    (rollbackWith e : Tx D α) c ≠ .ok a c' := by
  intro h
  obtain ⟨_, _, _, h₂⟩ := bind_ok.mp h
  cases h₂

theorem rollbackWith_bind_ne_ok {f : α → Tx D β} {c c' : Conn D} {e : Err} {b : β} :
    (rollbackWith e >>= f) c ≠ .ok b c' := fun h => by
  obtain ⟨_, _, h₁, -⟩ := bind_ok.mp h
  exact rollbackWith_ne_ok h₁

theorem orRollback_ok {r : Except Err α} {a : α} {c c' : Conn D} (h : orRollback r c = .ok a c') :
    r = .ok a ∧ c' = c := by
  cases r with
  | error e => exact absurd h rollbackWith_ne_ok
  | ok a' => cases h; exact ⟨rfl, rfl⟩

theorem orThrow_ok {r : Except Err α} {a : α} {c c' : Conn D} (h : orThrow r c = .ok a c') :
    r = .ok a ∧ c' = c := by
  cases r <;> cases h
  exact ⟨rfl, rfl⟩

/-- A value checked with `orRollback` and then used: it was a success, and the program went on
from the same connection. -/
theorem orRollback_bind_ok {r : Except Err α} {f : α → Tx D β} {c c' : Conn D} {b : β}
    (h : (orRollback r >>= f) c = .ok b c') : ∃ a, r = .ok a ∧ f a c = .ok b c' := by
  obtain ⟨a, c₁, h₁, h₂⟩ := bind_ok.mp h
  obtain ⟨hr, rfl⟩ := orRollback_ok h₁
  exact ⟨a, hr, h₂⟩

theorem orThrow_bind_ok {r : Except Err α} {f : α → Tx D β} {c c' : Conn D} {b : β}
    (h : (orThrow r >>= f) c = .ok b c') : ∃ a, r = .ok a ∧ f a c = .ok b c' := by
  obtain ⟨a, c₁, h₁, h₂⟩ := bind_ok.mp h
  obtain ⟨hr, rfl⟩ := orThrow_ok h₁
  exact ⟨a, hr, h₂⟩

theorem quiet_orThrow (r : Except Err α) : Quiet (orThrow r : Tx D α) := by
  cases r
  · exact quiet_throw _
  · exact quiet_pure _

/-- After a rollback the transaction is no longer open. -/
theorem rollback_ended {c c' : Conn D} {r : Option Err} (h : rollback c = .ok r c') :
    c'.phase ≠ .active := by
  unfold rollback at h
  dsimp only at h
  split at h
  · cases h; assumption
  · cases h; simp

/-- A statement on a transaction that is no longer open fails with `sql.ErrTxDone`. -/
theorem statement_ended {γ : Type} (args : Except Err γ) (run : γ → Int → D → Except Err (α × D))
    {c : Conn D} (h : c.phase ≠ .active) :
    statement args run c = .error .txDone (c.log .statement) := by
  unfold statement
  dsimp only
  rw [if_pos (by simpa using h)]

/-- `c'` carries on the open transaction of `c`: still open, at the same timestamp, with the same
committed state. -/
structure Continues (c c' : Conn D) : Prop where
  active : c'.phase = .active
  db : c'.db = c.db
  now : c'.now = c.now

theorem Continues.trans {c c' c'' : Conn D} (h : Continues c c') (h' : Continues c' c'') :
    Continues c c'' :=
  ⟨h'.active, h'.db.trans h.db, h'.now.trans h.now⟩

/-- A statement that succeeded ran on an open transaction, on the arguments the driver encoded,
and left the transaction open with the view its `run` made. -/
theorem statement_ok {γ : Type} {args : Except Err γ} {run : γ → Int → D → Except Err (α × D)}
    {c c' : Conn D} {r : α} (h : statement args run c = .ok r c') :
    ∃ a, args = .ok a ∧ run a c.now c.view = .ok (r, c'.view) ∧ Continues c c' := by
  unfold statement at h
  dsimp only at h
  split at h
  · cases h
  rename_i hact
  simp only [Conn.log_phase, ne_eq, not_not] at hact
  split at h
  · cases h
  rename_i a
  split at h
  · cases h
  split at h
  · cases h
  rename_i r' v hrun
  cases h
  exact ⟨a, rfl, hrun, hact, rfl, rfl⟩

/-- Only an open transaction runs a statement. -/
theorem active_of_statement_ok {γ : Type} {args : Except Err γ}
    {run : γ → Int → D → Except Err (α × D)} {c c' : Conn D} {r : α}
    (h : statement args run c = .ok r c') : c.phase = .active := by
  by_contra hne
  rw [statement_ended args run hne] at h
  cases h

/-- A read that succeeded returned the rows of the view, and left the view as it was. -/
theorem query_ok {rows : Int → D → List α} {c c' : Conn D} {r : List α}
    (h : query rows c = .ok r c') : r = rows c.now c.view ∧ c'.view = c.view ∧ Continues c c' := by
  obtain ⟨_, -, hrun, hc⟩ := statement_ok h
  obtain ⟨hr, hv⟩ : rows c.now c.view = r ∧ c.view = c'.view := by simpa using hrun
  exact ⟨hr.symm, hv.symm, hc⟩

/-- A failed statement leaves the view and the transaction as they were. -/
theorem statement_error {γ : Type} {args : Except Err γ}
    {run : γ → Int → D → Except Err (α × D)} {c c' : Conn D} {e : Err}
    (h : statement args run c = .error e c') :
    c'.view = c.view ∧ c'.phase = c.phase ∧ c'.db = c.db ∧ c'.now = c.now ∧
      (c.phase = .active → e = .backend ∨ args = .error e ∨
        ∃ a, args = .ok a ∧ run a c.now c.view = .error e) := by
  unfold statement at h
  dsimp only at h
  split at h
  · cases h
    exact ⟨rfl, rfl, rfl, rfl, fun ha => absurd ha (by simpa using ‹_›)⟩
  split at h
  · cases h; exact ⟨rfl, rfl, rfl, rfl, fun _ => .inr (.inl rfl)⟩
  rename_i a
  split at h
  · cases h; exact ⟨rfl, rfl, rfl, rfl, fun _ => .inl rfl⟩
  split at h
  · rename_i e' hrun
    cases h; exact ⟨rfl, rfl, rfl, rfl, fun _ => .inr (.inr ⟨a, rfl, hrun⟩)⟩
  · cases h

/-! ### Ending the transaction

A program `Closes` when every failure of it leaves the transaction ended, rolled back or
committed.  `begin` is the one call that does not, since its failure leaves the transaction not yet
begun: an operation, which begins its own transaction on a connection that has none open, `Ends`
when it never fails with the transaction open. -/

/-- A program that ends its transaction whenever it fails. -/
def Closes (x : Tx D α) : Prop := ∀ c e c', x c = .error e c' → c'.phase ≠ .active

/-- A program that, run where no transaction is open, never fails with one open. -/
def Ends (x : Tx D α) : Prop := ∀ c e c', c.phase ≠ .active → x c = .error e c' → c'.phase ≠ .active

theorem closes_pure (a : α) : Closes (pure a : Tx D α) := fun _ _ _ h => nomatch h

theorem closes_attempt (x : Tx D α) : Closes (attempt x) := fun _ _ _ h => absurd h attempt_error

theorem closes_bind {x : Tx D α} {f : α → Tx D β} (hx : Closes x) (hf : ∀ a, Closes (f a)) :
    Closes (x >>= f) := fun c e c' h => by
  rcases bind_error.mp h with h | ⟨a, c₁, -, h₂⟩
  · exact hx c e c' h
  · exact hf a c₁ e c' h₂

theorem closes_ite {p : Prop} [Decidable p] {x y : Tx D α} (hx : Closes x) (hy : Closes y) :
    Closes (if p then x else y) := by
  split
  · exact hx
  · exact hy

theorem closes_rollback : Closes (rollback : Tx D (Option Err)) := fun c e c' h => by
  unfold rollback at h
  dsimp only at h
  split at h <;> cases h

theorem closes_rollbackWith (e : Err) : Closes (rollbackWith e : Tx D α) := fun c e' c' h => by
  rcases bind_error.mp h with h | ⟨r, c₁, h₁, h₂⟩
  · exact closes_rollback c _ c' h
  · cases h₂
    exact rollback_ended h₁

theorem closes_commit : Closes (commit : Tx D Unit) := fun c e c' h => by
  unfold commit at h
  dsimp only at h
  split at h
  · cases h
    simpa using ‹_›
  · split at h
    · cases h
      simp
    · cases h

theorem closes_commit_pure (a : α) : Closes (commit >>= fun _ => (pure a : Tx D α)) :=
  closes_bind closes_commit fun _ => closes_pure a

/-- A failed `Begin` leaves the transaction where it was. -/
theorem begin_error {c c' : Conn D} {e : Err} (h : begin c = .error e c') : c'.phase = c.phase := by
  unfold begin at h
  split at h
  · cases h
    rfl
  · cases h

theorem Closes.ends {x : Tx D α} (h : Closes x) : Ends x := fun c e c' _ => h c e c'

theorem ends_begin : Ends (begin : Tx D Unit) := fun _ _ _ hc h => by
  rwa [begin_error h]

theorem Ends.bind {x : Tx D α} {f : α → Tx D β} (hx : Ends x) (hf : ∀ a, Closes (f a)) :
    Ends (x >>= f) := fun c e c' hc h => by
  rcases bind_error.mp h with h | ⟨a, c₁, -, h₂⟩
  · exact hx c e c' hc h
  · exact hf a c₁ e c' h₂

/-- A value computed before `Begin`, returned as it is on error, leaves no transaction open. -/
theorem ends_orThrow_bind {r : Except Err α} {f : α → Tx D β} (hf : ∀ a, Ends (f a)) :
    Ends (orThrow r >>= f) := fun c e c' hc h => by
  cases r with
  | error e' => cases h; exact hc
  | ok a => exact hf a c e c' hc h

/-- A check made before `Begin` leaves no transaction open. -/
theorem ends_throwIf_bind {p : Prop} [Decidable p] {e₀ : Err} {f : Unit → Tx D β}
    (hf : Ends (f ())) : Ends ((if p then throw e₀ else pure () : Tx D Unit) >>= f) :=
  fun c e c' hc h => by
    split at h
    · cases h; exact hc
    · exact hf c e c' hc h

/-- An operation run on a fresh connection opens its transaction itself. -/
theorem Ends.start {x : Tx D α} (hx : Ends x) {d : D} {now : Int} {fs : List Bool} {e : Err}
    {c' : Conn D} (h : x (Conn.start d now fs) = .error e c') : c'.phase ≠ .active :=
  hx _ e c' (by simp [Conn.start]) h

/-! ### A healthy backend

Where no round trip is left to fail, every call goes through: `begin` opens the transaction, a
statement on an open transaction answers what the database answers, and `commit` commits the
view.  These run a program forwards, where the lemmas above take a finished run apart. -/

theorem bind_of_ok {x : Tx D α} {f : α → Tx D β} {c c' : Conn D} {a : α}
    (h : x c = .ok a c') : (x >>= f) c = f a c' := by
  rw [bind_apply, h]

theorem begin_healthy {c : Conn D} (hf : c.faults = []) :
    begin c = .ok () { c.trip.log .begin with phase := .active, view := c.db } := by
  simp [begin, Conn.fails, hf]

theorem statement_healthy {γ : Type} {a : γ} {run : γ → Int → D → Except Err (α × D)}
    {c : Conn D} {r : α} {v : D} (ha : c.phase = .active) (hf : c.faults = [])
    (hrun : run a c.now c.view = .ok (r, v)) :
    statement (.ok a) run c = .ok r { (c.log .statement).trip with view := v } := by
  simp [statement, ha, Conn.fails, hf, hrun]

theorem bind_of_error {x : Tx D α} {f : α → Tx D β} {c c' : Conn D} {e : Err}
    (h : x c = .error e c') : (x >>= f) c = .error e c' := by
  rw [bind_apply, h]

/-- A statement the database refuses hands back the database's error. -/
theorem statement_healthy_error {γ : Type} {a : γ} {run : γ → Int → D → Except Err (α × D)}
    {c : Conn D} {e : Err} (ha : c.phase = .active) (hf : c.faults = [])
    (hrun : run a c.now c.view = .error e) :
    statement (.ok a) run c = .error e (c.log .statement).trip := by
  simp [statement, ha, Conn.fails, hf, hrun]

theorem commit_healthy {c : Conn D} (ha : c.phase = .active) (hf : c.faults = []) :
    commit c = .ok () { (c.log .commit).trip with phase := .done, db := c.view } := by
  simp [commit, ha, Conn.fails, hf]

/-- A rollback that goes through adds no error of its own. -/
theorem rollbackWith_healthy {c : Conn D} {e : Err} (ha : c.phase = .active)
    (hf : c.faults = []) :
    (rollbackWith e : Tx D α) c = .error e { (c.log .rollback).trip with phase := .done } := by
  simp [rollbackWith, rollback, ha, Conn.fails, hf, bind_apply, Err.combine]

/-! ### Properties every stage has

`Quiet` and `Closes` are both kept by `>>=`, and both hold of `pure`, of the rollbacks, and of a
statement whose error is handed back as a value.  A stage of an operation, between its `Begin` and
its `Commit`, is built of nothing else, so one proof per stage gives both. -/

/-- A property of programs that `>>=` keeps and that the calls a stage is made of have. -/
structure Stagewise (P : ∀ {α : Type}, Tx D α → Prop) : Prop where
  pure : ∀ {α : Type} (a : α), P (pure a : Tx D α)
  bind : ∀ {α β : Type} {x : Tx D α} {f : α → Tx D β}, P x → (∀ a, P (f a)) → P (x >>= f)
  rollback : P (rollback : Tx D (Option Err))
  rollbackWith : ∀ {α : Type} (e : Err), P (rollbackWith e : Tx D α)
  attempt : ∀ {α β : Type} (args : Except Err β) (run : β → Int → D → Except Err (α × D)),
    P (attempt (statement args run))

theorem Stagewise.orRollback {P : ∀ {α : Type}, Tx D α → Prop} (hP : Stagewise P)
    (r : Except Err α) : P (orRollback r : Tx D α) := by
  cases r
  · exact hP.rollbackWith _
  · exact hP.pure _

theorem quiet_stagewise : Stagewise (D := D) Quiet :=
  ⟨quiet_pure, quiet_bind, quiet_rollback, quiet_rollbackWith,
    fun args run => quiet_attempt (quiet_statement args run)⟩

theorem closes_stagewise : Stagewise (D := D) Closes :=
  ⟨closes_pure, closes_bind, closes_rollback, closes_rollbackWith, fun _ _ => closes_attempt _⟩

end Reasoning

end DssStore
