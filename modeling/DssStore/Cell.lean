import DssStore.Tx

/-!
# S2 cell ids, and the two ways they reach the database

An `s2.CellID` is a `uint64`: its top three bits name one of the six faces of the cube the sphere
is projected on, and its lowest set bit marks the cell's level.  The cell-index tables store cell
ids in an `INT64` column, and the ids get there by two different roads:

* the **write path**, `pushSubscription`, converts each id itself with Go's `int64(cell)`, which
  wraps the ids of faces 4 and 5 (those of `2^63` and above) round to negative numbers;
* the **read path**, `SearchSubscriptions`, hands the whole `s2.CellUnion` to `pq.Array`, which
  falls back on `pq.GenericArray` for a slice type it does not know, and that encodes each element
  with `database/sql`'s default parameter converter — which refuses a `uint64` with its high bit
  set ("uint64 values with high bit set are not supported").

`driverValue_eq_int64` says the two roads agree below `2^63`; `driverValue_high` that above it the
read path has no value to compare at all.
-/

set_option autoImplicit false

namespace DssStore

/-- An `s2.CellID`. -/
abbrev CellID := UInt64

/-- The zero bits below the lowest set bit of a number below `2^64`, counted for at most 64 bits. -/
def lowestSetBit (n : Nat) : Nat := go 64 n
where
  /-- Count the zero bits from the bottom, for at most `fuel` of them. -/
  go : Nat → Nat → Nat
    | 0, _ => 0
    | fuel + 1, n => if n % 2 = 1 then 0 else go fuel (n / 2) + 1

/-- `findLSBSetNonZero64` of golang/geo's `s2` as the repository used it in 2019, before the
package called `math/bits`: the de Bruijn lookup `deBruijn64Lookup[((x & -x) * deBruijn64) >> 58]`.
For a nonzero `x` it is the position of the lowest set bit; for zero the product is zero, and the
table's first entry, 0, comes back. -/
def findLSBSetNonZero64 (n : Nat) : Nat := if n = 0 then 0 else lowestSetBit n

/-- `CellID.Level()` of that release: `maxLevel - findLSBSetNonZero64(uint64(ci)) >> 1`, with
`maxLevel = 30`.  The id 0, no cell at all, has level 30. -/
def CellID.level (c : CellID) : Int := 30 - (findLSBSetNonZero64 c.toNat / 2 : Nat)

example : CellID.level 0 = 30 ∧ CellID.level 0x4000000000000000 = -1 ∧
    CellID.level 0x1000000000000000 = 0 := by decide

/-- `CellID.IsValid()`: the face is below 6 and the lowest set bit is at an even position at most
60 (the bits of `0x1555555555555555`). -/
def CellID.isValid (c : CellID) : Bool :=
  c >>> 61 < 6 && (c &&& (0 - c)) &&& 0x1555555555555555 != 0

/-- The write path: Go's `int64(cell)`. -/
def CellID.toInt64 (c : CellID) : Int := DssStore.toInt64 c.toNat

/-- The read path: `driver.DefaultParameterConverter.ConvertValue` of one element of a
`pq.GenericArray`, for a value of kind `uint64`. -/
def CellID.driverValue (c : CellID) : Except Err Int :=
  if 2 ^ 63 ≤ c.toNat then .error (.driver "uint64 values with high bit set are not supported")
  else .ok c.toNat

/-- `pq.Array(cells)` of an `s2.CellUnion`: the array of the converted elements, or the error of
the first element the converter refuses. -/
def cellUnionArray (cells : List CellID) : Except Err (List Int) :=
  cells.mapM CellID.driverValue

/-- Below `2^63` the read path binds the value the write path stores. -/
theorem driverValue_eq_int64 {c : CellID} (h : c.toNat < 2 ^ 63) :
    c.driverValue = .ok c.toInt64 := by
  rw [CellID.driverValue, if_neg (Nat.not_le.mpr h), CellID.toInt64,
    toInt64_of_inInt64 ⟨le_trans (by norm_num) (Int.natCast_nonneg _), by exact_mod_cast h⟩]

/-- From `2^63` up the read path has no value to bind. -/
theorem driverValue_high {c : CellID} (h : 2 ^ 63 ≤ c.toNat) :
    c.driverValue = .error (.driver "uint64 values with high bit set are not supported") := by
  rw [CellID.driverValue, if_pos h]

end DssStore
