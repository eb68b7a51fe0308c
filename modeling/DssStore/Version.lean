import DssStore.Strconv

/-!
# Times and version tokens

A version token is the time of the row's last write, written in base 32:
`timestampToVersionString t = strconv.FormatUint(uint64(t.UnixNano()), versionBase)`, and
`versionStringToTimestamp` reads one back.  A time is modelled as what it is to the store, an `Int` of
nanoseconds since the Unix epoch, and times are unbounded: both Go's `time.Time` and the
database's `TIMESTAMPTZ` reach far past the years 1678–2262 that `int64` nanoseconds can count.
Past them `UnixNano` wraps, and so versions repeat every `2^64` nanoseconds.

* `versionStringToTimestamp_timestampToVersionString` — reading a token back gives `t.UnixNano()`.
* `timestampToVersionString_inj` — on the times `UnixNano` counts without wrapping (`InInt64`),
  different times have different tokens.  Outside them they need not: `unixNano_add_two_pow_64`.
* `timestampToVersionString_ne_empty` — no token is empty, which is what lets the empty version
  mean "no version given".
-/

set_option autoImplicit false

namespace DssStore

/-- Go's `int64(x)` of an integer computed in wider arithmetic: two's complement wraps it into
`[-2^63, 2^63)`. -/
def toInt64 (x : Int) : Int := (x + 2 ^ 63) % 2 ^ 64 - 2 ^ 63

/-- Go's `uint64(x)` of a signed value: `x` modulo `2^64`. -/
def toUint64 (x : Int) : Nat := (x % 2 ^ 64).toNat

/-- `t.UnixNano()`: the nanoseconds since the epoch, wrapped into `int64` outside 1678–2262
(where Go's documentation calls the result undefined, and the arithmetic wraps). -/
def unixNano (t : Int) : Int := toInt64 t

/-- `time.Unix(0, n)`. -/
def unixTime (n : Int) : Int := n

/-- The base version tokens are written in; "32 is the highest value allowed by strconv". -/
def versionBase : Nat := 32

/-- `timestampToVersionString`. -/
def timestampToVersionString (t : Int) : String :=
  Strconv.formatUint (toUint64 (unixNano t)) versionBase

/-- `versionStringToTimestamp`: `strconv.ParseUint(s, versionBase, 64)`, then
`time.Unix(0, int64(nanos))`. -/
def versionStringToTimestamp (s : String) : Except Strconv.NumError Int :=
  (Strconv.parseUint s versionBase).map fun (nanos : Nat) => unixTime (toInt64 nanos)

/-- The times `UnixNano` counts without wrapping: the years 1678 to 2262. -/
def InInt64 (t : Int) : Prop := -2 ^ 63 ≤ t ∧ t < 2 ^ 63

instance (t : Int) : Decidable (InInt64 t) := inferInstanceAs (Decidable (_ ∧ _))

/-! ## The integer conversions

`omega` reads the powers of two as numbers only once they are written as numerals. -/

theorem two_pow_63 : (2 : Int) ^ 63 = 9223372036854775808 := by norm_num

theorem two_pow_64 : (2 : Int) ^ 64 = 18446744073709551616 := by norm_num

theorem toUint64_lt (x : Int) : toUint64 x < 2 ^ 64 := by
  simp only [toUint64, two_pow_64]
  omega

theorem toInt64_toUint64 (x : Int) : toInt64 (toUint64 x) = toInt64 x := by
  simp only [toInt64, toUint64, two_pow_63, two_pow_64]
  omega

theorem toInt64_toInt64 (x : Int) : toInt64 (toInt64 x) = toInt64 x := by
  simp only [toInt64, two_pow_63, two_pow_64]
  omega

theorem toInt64_of_inInt64 {t : Int} (h : InInt64 t) : toInt64 t = t := by
  simp only [InInt64, two_pow_63] at h
  simp only [toInt64, two_pow_63, two_pow_64]
  omega

/-- Past the years `int64` counts, `UnixNano` comes round again. -/
theorem unixNano_add_two_pow_64 (t : Int) : unixNano (t + 2 ^ 64) = unixNano t := by
  simp only [unixNano, toInt64, two_pow_63, two_pow_64]
  omega

/-! ## Version tokens -/

/-- Reading a version token back gives `t.UnixNano()`. -/
theorem versionStringToTimestamp_timestampToVersionString (t : Int) :
    versionStringToTimestamp (timestampToVersionString t) = .ok (unixNano t) := by
  have h := Strconv.parseUint_formatUint (toUint64_lt (unixNano t)) (by decide : 1 < versionBase)
    (by decide : versionBase ≤ 36)
  rw [versionStringToTimestamp, timestampToVersionString, h]
  show Except.ok (unixTime (toInt64 (toUint64 (unixNano t) : Int))) = _
  rw [unixTime, toInt64_toUint64, unixNano, toInt64_toInt64]

/-- **Versions name times**, on the years `UnixNano` counts. -/
theorem timestampToVersionString_inj {t t' : Int} (ht : InInt64 t) (ht' : InInt64 t')
    (h : timestampToVersionString t = timestampToVersionString t') : t = t' := by
  have h' := versionStringToTimestamp_timestampToVersionString t
  rw [h, versionStringToTimestamp_timestampToVersionString] at h'
  have h'' := (Except.ok.inj h').symm
  rwa [unixNano, unixNano, toInt64_of_inInt64 ht, toInt64_of_inInt64 ht'] at h''

theorem timestampToVersionString_ne_empty (t : Int) : timestampToVersionString t ≠ "" := by
  intro h
  have h' := versionStringToTimestamp_timestampToVersionString t
  have hempty : versionStringToTimestamp "" = .error .errSyntax := rfl
  rw [h, hempty] at h'
  cases h'

end DssStore
