import Mathlib.Data.Nat.Digits

/-!
# `strconv`: the number formats version tokens are written in

The store's version tokens are numbers written by Go's `strconv` package: a subscription row
publishes `strconv.FormatUint(…, 32)` of its update time, the older ISA rows publish
`strconv.FormatInt(…, 10)`, and `versionStringToTimestamp` reads a token back with
`strconv.ParseUint(…, 32, 64)`.  This file models the three functions as `strconv` computes them —
the digit loop of `formatBits`, and the byte loop of `ParseUint` with its syntax and range errors —
for the bases 2 to 36 that `strconv` accepts.

The one fact everything later rests on is `parseUint_formatUint`: `parseUint` undoes `formatUint`
on every 64-bit value.  It gives `formatUint_inj`, which is what makes a version token a faithful
name for the time it was made from.  The proof goes through Mathlib's `Nat.digits`: `formatBits`
writes the digits of `Nat.digits` most significant first (`formatBits_eq`), and the parser's loop is
the left fold that evaluates them (`parseDigits_map`).
-/

set_option autoImplicit false

namespace Strconv

/-! ## Writing a number -/

/-- `strconv`'s digit alphabet `0123456789abcdefghijklmnopqrstuvwxyz`, indexed by the digit. -/
def digitChar (d : Nat) : Char := Char.ofNat (if d < 10 then 48 + d else 87 + d)

/-- The loop of `formatBits`: while `u ≥ base`, put the digit `u % base` in front of what is
written and go on with `u / base`; the last digit is `u` itself.  `fuel` bounds the number of
digits, as the 65-byte buffer of the Go function does. -/
def formatBits (base : Nat) : Nat → Nat → List Char → List Char
  | 0, _, acc => acc
  | fuel + 1, u, acc =>
    if u < base then digitChar u :: acc
    else formatBits base fuel (u / base) (digitChar (u % base) :: acc)

/-- `strconv.FormatUint(u, base)`. -/
def formatUint (u base : Nat) : String := ⟨formatBits base 64 u []⟩

/-- `strconv.FormatInt(i, base)`: the digits of `|i|`, after a `-` when `i` is negative. -/
def formatInt (i : Int) (base : Nat) : String :=
  if i < 0 then ⟨'-' :: formatBits base 64 i.natAbs []⟩ else formatUint i.toNat base

/-! ## Reading a number back -/

/-- Why `strconv.ParseUint` rejected its input. -/
inductive NumError
  | errSyntax
  | errRange
  deriving DecidableEq, Repr

/-- The value of one input byte as `ParseUint` reads it: `'0'`–`'9'`, then the letters of either
case, through `lower(c) = c | 0x20`.  A character outside ASCII is encoded in bytes of 0x80 and
above, none of which is a digit. -/
def digitVal (c : Char) : Option Nat :=
  if 48 ≤ c.toNat ∧ c.toNat ≤ 57 then some (c.toNat - 48)
  else if c.toNat < 128 ∧ 97 ≤ c.toNat ||| 32 ∧ c.toNat ||| 32 ≤ 122 then
    some ((c.toNat ||| 32) - 87)
  else none

/-- The digit loop of `ParseUint`, `n` being the value read so far: a byte that is not a digit
below `base` is a syntax error, a value past `2^64 - 1` a range error. -/
def parseDigits (base : Nat) : List Char → Nat → Except NumError Nat
  | [], n => .ok n
  | c :: cs, n =>
    match digitVal c with
    | none => .error .errSyntax
    | some d =>
      if base ≤ d then .error .errSyntax
      else if 2 ^ 64 ≤ n * base + d then .error .errRange
      else parseDigits base cs (n * base + d)

/-- `strconv.ParseUint(s, base, 64)`: the empty string is a syntax error. -/
def parseUint (s : String) (base : Nat) : Except NumError Nat :=
  if s = "" then .error .errSyntax else parseDigits base s.toList 0

/-! ## `parseUint` undoes `formatUint` -/

theorem digitVal_digitChar : ∀ d, d < 36 → digitVal (digitChar d) = some d := by
  decide

/-- Above zero, `formatBits` writes the digits of `Nat.digits`, most significant first. -/
theorem formatBits_eq {base : Nat} (hb : 1 < base) :
    ∀ fuel u acc, 0 < u → u < base ^ fuel →
      formatBits base fuel u acc = ((Nat.digits base u).reverse.map digitChar) ++ acc
  | 0, u, _, h0, hf => by simp at hf; omega
  | fuel + 1, u, acc, h0, hf => by
    rw [formatBits]
    split
    · rename_i hu
      simp [Nat.digits_of_lt base u (by omega) hu]
    · rename_i hu
      have hq : u / base < base ^ fuel := by
        rw [Nat.div_lt_iff_lt_mul (by omega), ← pow_succ]; exact hf
      rw [formatBits_eq hb fuel (u / base) _ (Nat.div_pos (by omega) (by omega)) hq,
        Nat.digits_def' hb h0]
      simp

/-- The left fold `parseDigits` performs on digits it accepts. -/
def evalDigits (base : Nat) (ds : List Nat) (n : Nat) : Nat :=
  ds.foldl (fun n d => n * base + d) n

theorem le_evalDigits (base : Nat) (hb : 0 < base) :
    ∀ ds n, n ≤ evalDigits base ds n
  | [], n => le_refl n
  | d :: ds, n => by
    have h := le_evalDigits base hb ds (n * base + d)
    simp only [evalDigits, List.foldl_cons] at h ⊢
    nlinarith

/-- On digits below the base, the parser's loop evaluates them, as long as the value stays
below `2^64` (and then every intermediate value does too). -/
theorem parseDigits_map {base : Nat} (hb : 1 < base) (hb' : base ≤ 36) :
    ∀ ds n, (∀ d ∈ ds, d < base) → evalDigits base ds n < 2 ^ 64 →
      parseDigits base (ds.map digitChar) n = .ok (evalDigits base ds n)
  | [], _, _, _ => rfl
  | d :: ds, n, hd, hlt => by
    have hd0 : d < base := hd d (List.mem_cons_self d ds)
    have hle := le_evalDigits base (by omega) ds (n * base + d)
    simp only [evalDigits, List.foldl_cons] at hlt hle
    simp only [List.map_cons, parseDigits, digitVal_digitChar d (by omega)]
    rw [if_neg (show ¬base ≤ d by omega), if_neg (show ¬2 ^ 64 ≤ n * base + d by omega)]
    exact parseDigits_map hb hb' ds _ (fun e he => hd e (List.mem_cons_of_mem d he)) hlt

theorem evalDigits_reverse (base : Nat) :
    ∀ ds, evalDigits base ds.reverse 0 = Nat.ofDigits base ds
  | [] => rfl
  | d :: ds => by
    have ih := evalDigits_reverse base ds
    simp only [evalDigits, List.reverse_cons, List.foldl_append, List.foldl_cons, List.foldl_nil,
      Nat.ofDigits_cons] at ih ⊢
    rw [ih]
    ring

/-- **`parseUint` undoes `formatUint`** on every 64-bit value, in every base `strconv` accepts. -/
theorem parseUint_formatUint {u base : Nat} (hu : u < 2 ^ 64) (hb : 1 < base) (hb' : base ≤ 36) :
    parseUint (formatUint u base) base = .ok u := by
  rcases Nat.eq_zero_or_pos u with rfl | h0
  · rw [parseUint, formatUint, formatBits, if_pos (show 0 < base by omega),
      if_neg (fun h => List.cons_ne_nil _ _ (congrArg String.data h))]
    simp [parseDigits, digitVal_digitChar 0 (by omega), show ¬base ≤ 0 by omega]
  · have hpow : u < base ^ 64 :=
      lt_of_lt_of_le hu (Nat.pow_le_pow_left (by omega) 64)
    have hds : ∀ d ∈ (Nat.digits base u).reverse, d < base := fun d hd =>
      Nat.digits_lt_base hb (List.mem_reverse.mp hd)
    have hval : evalDigits base (Nat.digits base u).reverse 0 = u := by
      rw [evalDigits_reverse, Nat.ofDigits_digits]
    have hne : (Nat.digits base u).reverse.map digitChar ≠ [] := by
      simp [Nat.digits_ne_nil_iff_ne_zero, h0.ne']
    simp only [parseUint, formatUint, formatBits_eq hb 64 u [] h0 hpow, List.append_nil]
    rw [if_neg (fun h => hne (congrArg String.data h)), String.toList,
      parseDigits_map hb hb' _ 0 hds (by omega), hval]

theorem formatUint_inj {u v base : Nat} (hu : u < 2 ^ 64) (hv : v < 2 ^ 64) (hb : 1 < base)
    (hb' : base ≤ 36) (h : formatUint u base = formatUint v base) : u = v := by
  have hu' := parseUint_formatUint hu hb hb'
  rw [h, parseUint_formatUint hv hb hb'] at hu'
  exact (Except.ok.inj hu').symm

/-! ## Two bases

The older store writes an ISA's version in base 10 and a subscription's in base 32.  The two
spellings of a number agree only on the single digits. -/

theorem digitChar_injective {d e : Nat} (hd : d < 36) (he : e < 36)
    (h : digitChar d = digitChar e) : d = e := by
  have h' := digitVal_digitChar d hd
  rw [h, digitVal_digitChar e he] at h'
  exact (Option.some.inj h').symm

theorem map_digitChar_inj : ∀ {l l' : List Nat}, (∀ d ∈ l, d < 36) → (∀ d ∈ l', d < 36) →
    l.map digitChar = l'.map digitChar → l = l'
  | [], [], _, _, _ => rfl
  | d :: l, e :: l', hl, hl', h => by
    rw [List.map_cons, List.map_cons, List.cons.injEq] at h
    rw [digitChar_injective (hl d (List.mem_cons_self _ _)) (hl' e (List.mem_cons_self _ _)) h.1,
      map_digitChar_inj (fun x hx => hl x (List.mem_cons_of_mem _ hx))
        (fun x hx => hl' x (List.mem_cons_of_mem _ hx)) h.2]

/-- Every character `formatBits` writes is a digit below the base, or was already there. -/
theorem mem_formatBits {base : Nat} (hb : 0 < base) :
    ∀ fuel u acc c, c ∈ formatBits base fuel u acc → c ∈ acc ∨ ∃ d < base, c = digitChar d
  | 0, _, _, _, h => .inl h
  | fuel + 1, u, acc, c, h => by
    rw [formatBits] at h
    split at h
    · rcases List.mem_cons.mp h with rfl | h
      · exact .inr ⟨u, ‹_›, rfl⟩
      · exact .inl h
    · rcases mem_formatBits hb fuel _ _ c h with h | h
      · rcases List.mem_cons.mp h with rfl | h
        · exact .inr ⟨u % base, Nat.mod_lt u hb, rfl⟩
        · exact .inl h
      · exact .inr h

theorem formatUint_of_lt {u base : Nat} (hu : u < base) :
    formatUint u base = ⟨[digitChar u]⟩ := by
  rw [formatUint, formatBits, if_pos hu]

/-- Above zero, `formatUint` writes the digits of `Nat.digits`. -/
theorem formatUint_eq_digits {u base : Nat} (hb : 1 < base) (h0 : 0 < u) (hu : u < 2 ^ 64) :
    formatUint u base = ⟨(Nat.digits base u).reverse.map digitChar⟩ := by
  rw [formatUint, formatBits_eq hb 64 u [] h0 (lt_of_lt_of_le hu (Nat.pow_le_pow_left hb 64)),
    List.append_nil]

/-- A number of two decimal digits or more is less than its decimal digits read in base 32. -/
theorem lt_ofDigits_digits_ten {u : Nat} (hu : 10 ≤ u) :
    u < Nat.ofDigits 32 (Nat.digits 10 u) := by
  rw [Nat.digits_def' (by decide) (by omega), Nat.ofDigits_cons]
  have hq : 1 ≤ u / 10 := (Nat.le_div_iff_mul_le (by decide)).mpr (by omega)
  have hmono : u / 10 ≤ Nat.ofDigits 32 (Nat.digits 10 (u / 10)) :=
    (Nat.ofDigits_digits 10 (u / 10)).symm.le.trans (Nat.ofDigits_monotone _ (by decide))
  omega

/-- **Base 10 and base 32 write a 64-bit number alike exactly below 10.** -/
theorem formatUint_ten_eq_thirtyTwo_iff {u : Nat} (hu : u < 2 ^ 64) :
    formatUint u 10 = formatUint u 32 ↔ u < 10 := by
  constructor
  · intro h
    by_contra hge
    rw [formatUint_eq_digits (by decide) (by omega) hu,
      formatUint_eq_digits (by decide) (by omega) hu] at h
    have hds := map_digitChar_inj (fun d hd => ?_) (fun d hd => ?_) (congrArg String.data h)
    · have hlt := lt_ofDigits_digits_ten (by omega : 10 ≤ u)
      rw [List.reverse_injective hds, Nat.ofDigits_digits] at hlt
      exact lt_irrefl u hlt
    · have := Nat.digits_lt_base (by decide : 1 < 10) (List.mem_reverse.mp hd); omega
    · have := Nat.digits_lt_base (by decide : 1 < 32) (List.mem_reverse.mp hd); omega
  · intro h
    rw [formatUint_of_lt h, formatUint_of_lt (by omega)]

/-- A negative number's `FormatInt` starts with a `-`, which no `FormatUint` writes. -/
theorem formatInt_ne_formatUint {i : Int} {u base : Nat} (hi : i < 0) (hb : 0 < base)
    (hb' : base ≤ 36) : formatInt i 10 ≠ formatUint u base := by
  intro h
  rw [formatInt, if_pos hi] at h
  have hmem : '-' ∈ (formatUint u base).data := h ▸ List.mem_cons_self _ _
  rcases mem_formatBits hb 64 u [] '-' hmem with h | ⟨d, hd, hc⟩
  · exact List.not_mem_nil _ h
  · have hval := digitVal_digitChar d (by omega)
    rw [← hc, (by decide : digitVal '-' = none)] at hval
    cases hval

end Strconv
