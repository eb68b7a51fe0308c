import Mathlib.Data.List.Basic

/-!
# `bufio.Scanner`, reading from a reader that hands its input out in chunks

`AreaToCellIDs` reads its area string with a `bufio.Scanner` and a split function of its own.
This file models the Scanner as Go's `bufio` computes it: a buffer of `len(buf)` bytes whose
`buf[start:end]` is the input not yet handed out, the error it keeps (`setErr`), and `Scan`, a loop
whose every turn first offers the unread input to the split function and, when that gives no
token, makes room (shifting the unread input down, or doubling the buffer up to `maxTokenSize`, or
giving up with `ErrTooLong`) and reads, giving up after `maxConsecutiveEmptyReads` reads that bring
nothing.

The reader is an `io.MultiReader` of `strings.Reader`s, written as the list of their strings:
each `Read` copies what fits of the first one not used up.  `strings.NewReader(area)` is `[area]`;
the other lists with the same bytes are the other ways a reader may deliver them.  A Go string is
its bytes, a `List UInt8`.

`Scan` loops with no bound, so `Scanner.loop` takes fuel, and `none` is running out of it.

## What is here

* `read_of_flatten_eq_nil` and `read_of_flatten_ne_nil`: a read with room takes at least one byte
  off the reader, or says `io.EOF` when there is none left;
* `Scanner.Fits`, the bounds every state keeps, and `refill_of_lt`: a turn that found no token and
  holds less than `maxTokenSize` bytes reads once, and keeps them; `refill_of_full`: one that holds
  `maxTokenSize` bytes ends the scan with `ErrTooLong`;
* `forEach_of_texts`: a `for s.Scan()` loop folds its body over the texts `Scan` yields.
-/

set_option autoImplicit false

namespace Bufio

/-- `bufio.MaxScanTokenSize`. -/
def maxScanTokenSize : Nat := 64 * 1024

/-- `startBufSize`, the size of the first buffer. -/
def startBufSize : Nat := 4096

/-- `maxConsecutiveEmptyReads`. -/
def maxConsecutiveEmptyReads : Nat := 100

/-- `maxInt` of a 64-bit `int`, `int(^uint(0) >> 1)`. -/
def maxInt : Nat := 9223372036854775807

/-- The errors a Scanner keeps, and the one a split function may end the scan with. -/
inductive ScanErr where
  /-- `io.EOF`: the reader has nothing more. -/
  | eof
  /-- `ErrTooLong`: "bufio.Scanner: token too long". -/
  | tooLong
  /-- `ErrNegativeAdvance`. -/
  | negativeAdvance
  /-- `ErrAdvanceTooFar`. -/
  | advanceTooFar
  /-- `io.ErrNoProgress`: too many reads brought nothing. -/
  | noProgress
  /-- `ErrFinalToken`, from a split function: hand out this token and stop. -/
  | finalToken
  deriving DecidableEq, Repr

/-! ## The reader -/

/-- `Read(p)` on an `io.MultiReader` of `strings.Reader`s, `space` being `len(p)`: the bytes it
copies, its error, and the readers left.  A used-up `strings.Reader` answers `io.EOF`, which the
`MultiReader` steps past; with none left it answers `io.EOF` itself. -/
def read (space : Nat) : List (List UInt8) → List UInt8 × Option ScanErr × List (List UInt8)
  | [] => ([], some .eof, [])
  | [] :: rest => read space rest
  | (b :: bs) :: rest => ((b :: bs).take space, none, (b :: bs).drop space :: rest)

theorem read_of_flatten_eq_nil (space : Nat) :
    ∀ {r : List (List UInt8)}, r.flatten = [] → read space r = ([], some .eof, [])
  | [], _ => rfl
  | [] :: rest, h => by rw [read]; exact read_of_flatten_eq_nil space (by simpa using h)
  | (_ :: _) :: _, h => by simp at h

/-- A read with room takes at least one byte off a reader that has any. -/
theorem read_of_flatten_ne_nil {space : Nat} (hspace : 0 < space) :
    ∀ {r : List (List UInt8)}, r.flatten ≠ [] → ∃ p r', read space r = (p, none, r') ∧
      p ≠ [] ∧ p.length ≤ space ∧ p ++ r'.flatten = r.flatten
  | [], h => absurd rfl h
  | [] :: rest, h => by rw [read]; exact read_of_flatten_ne_nil hspace (by simpa using h)
  | (b :: bs) :: rest, _ =>
    ⟨_, _, rfl, by cases space <;> simp_all, List.length_take_le _ _,
      by rw [List.flatten_cons, ← List.append_assoc, List.take_append_drop, List.flatten_cons]⟩

/-! ## The Scanner -/

/-- A `bufio.Scanner` on its reader `r`.  Its buffer is `bufLen` bytes long, and `data` is
`buf[start:end]`; the other bytes of the buffer are never read again. -/
structure Scanner where
  r : List (List UInt8)
  maxTokenSize : Nat
  bufLen : Nat
  start : Nat
  data : List UInt8
  err : Option ScanErr
  empties : Nat
  done : Bool
  deriving DecidableEq, Repr

/-- `bufio.NewScanner(r)`: no buffer yet, and `maxTokenSize` is `MaxScanTokenSize`. -/
def newScanner (r : List (List UInt8)) : Scanner :=
  ⟨r, maxScanTokenSize, 0, 0, [], none, 0, false⟩

namespace Scanner

/-- `end`, one past the unread input. -/
def endPos (s : Scanner) : Nat := s.start + s.data.length

/-- `setErr`: the first error is kept, except that any error replaces `io.EOF`. -/
def setErr (s : Scanner) (e : ScanErr) : Scanner :=
  match s.err with
  | none | some .eof => { s with err := some e }
  | some _ => s

@[simp] theorem setErr_of_none {s : Scanner} (h : s.err = none) (e : ScanErr) :
    s.setErr e = { s with err := some e } := by
  simp [setErr, h]

/-- `advance(n)`: `.error` is the `false` it returns, with the error it set. -/
def advance (s : Scanner) (n : Int) : Except Scanner Scanner :=
  if n < 0 then .error (s.setErr .negativeAdvance)
  else if s.data.length < n then .error (s.setErr .advanceTooFar)
  else .ok { s with start := s.start + n.toNat, data := s.data.drop n.toNat }

end Scanner

/-- What a `bufio.SplitFunc` returns: how far to advance, the token (`none` for a nil slice), and
its error. -/
structure Split where
  advance : Int
  token : Option (List UInt8)
  err : Option ScanErr

/-- A `bufio.SplitFunc`, handed `buf[start:end]` and whether the input has ended. -/
abbrev SplitFunc := List UInt8 → Bool → Split

/-- How a call of `Scan` ends. -/
inductive Scanned where
  /-- `Scan` returns true, and `Text()` is `text`. -/
  | token (text : List UInt8) (s : Scanner)
  /-- `Scan` returns false. -/
  | stop (s : Scanner)
  /-- `Scan` panics: too many empty tokens without progressing. -/
  | panic

/-- The text of the panic of `Scan`. -/
def scanPanic : String := "bufio.Scan: too many empty tokens without progressing"

/-- A Go function that may panic: `.error` is the panic's message. -/
abbrev Panics (α : Type) := Except String α

namespace Scanner

variable (split : SplitFunc)

/-- The first half of a turn of `Scan`'s loop: with unread input, or an error, ask the split
function for a token.  `.inr s` is the state the turn goes on with, having got none. -/
def trySplit (s : Scanner) : Scanned ⊕ Scanner :=
  if s.endPos > s.start || s.err.isSome then
    let r := split s.data s.err.isSome
    match r.err with
    | some .finalToken => .inl (.token (r.token.getD []) { s with done := true })
    | some e => .inl (.stop (s.setErr e))
    | none =>
      match s.advance r.advance with
      | .error s => .inl (.stop s)
      | .ok s =>
        match r.token with
        | none => .inr s
        | some tok =>
          if s.err.isNone || 0 < r.advance then .inl (.token tok { s with empties := 0 })
          else if maxConsecutiveEmptyReads < s.empties + 1 then .inl .panic
          else .inl (.token tok { s with empties := s.empties + 1 })
  else .inr s

/-- Shift the unread input to the front of the buffer if the buffer is full or mostly consumed. -/
def shift (s : Scanner) : Scanner :=
  if s.start > 0 && (s.endPos == s.bufLen || s.start > s.bufLen / 2) then { s with start := 0 }
  else s

/-- The new, larger buffer: twice as long, `startBufSize` the first time, at most
`maxTokenSize`, holding the unread input at its front. -/
def grow (s : Scanner) : Scanner :=
  let newSize := if s.bufLen * 2 = 0 then startBufSize else s.bufLen * 2
  { s with bufLen := min newSize s.maxTokenSize, start := 0 }

/-- The read loop: read into `buf[end:]` until a read brings a byte or an error; `left` more reads
that bring neither are allowed before `io.ErrNoProgress`. -/
def readLoop (s : Scanner) (left : Nat) : Scanner :=
  let (p, e, r) := read (s.bufLen - s.endPos) s.r
  let s' := { s with r := r, data := s.data ++ p }
  match e with
  | some e => s'.setErr e
  | none =>
    if 0 < p.length then { s' with empties := 0 }
    else match left with
      | 0 => s'.setErr .noProgress
      | left + 1 => s'.readLoop left

/-- The second half of a turn, with no token: stop on an error, else make room and read. -/
def refill (s : Scanner) : Scanned ⊕ Scanner :=
  if s.err.isSome then .inl (.stop { s with start := 0, data := [] })
  else
    let s := s.shift
    if s.endPos = s.bufLen then
      if s.maxTokenSize ≤ s.bufLen || maxInt / 2 < s.bufLen then .inl (.stop (s.setErr .tooLong))
      else .inr (s.grow.readLoop maxConsecutiveEmptyReads)
    else .inr (s.readLoop maxConsecutiveEmptyReads)

/-- One turn of `Scan`'s loop. -/
def pass (s : Scanner) : Scanned ⊕ Scanner :=
  match s.trySplit split with
  | .inl r => .inl r
  | .inr s => s.refill

/-- The turns of `Scan`'s loop, `fuel` of them at most. -/
def loop : Nat → Scanner → Option Scanned
  | 0, _ => none
  | fuel + 1, s =>
    match s.pass split with
    | .inl r => some r
    | .inr s => loop fuel s

/-- `Scan`. -/
def scan (fuel : Nat) (s : Scanner) : Option Scanned :=
  if s.done then some (.stop s) else s.loop split fuel

/-- `for s.Scan() { … s.Text() … }`: the texts of the tokens, in order, up to the `Scan` that
returns false.  Each `Scan` gets the fuel the loop has left. -/
def texts : Nat → Scanner → Option (Panics (List (List UInt8)))
  | 0, _ => none
  | fuel + 1, s =>
    match s.scan split (fuel + 1) with
    | none => none
    | some (.token t s) => (Except.map (t :: ·)) <$> texts fuel s
    | some (.stop _) => some (.ok [])
    | some .panic => some (.error scanPanic)

/-- `for s.Scan() { body(s.Text()) }`, whose body may return from the function around it
(`.error`): the state the loop ends in, or what the body returned. -/
def forEach {ε σ : Type} (body : List UInt8 → σ → Except ε σ) :
    Nat → Scanner → σ → Option (Panics (Except ε σ))
  | 0, _, _ => none
  | fuel + 1, s, acc =>
    match s.scan split (fuel + 1) with
    | none => none
    | some (.token t s) =>
      match body t acc with
      | .ok acc => forEach body fuel s acc
      | .error e => some (.ok (.error e))
    | some (.stop _) => some (.ok (.ok acc))
    | some .panic => some (.error scanPanic)

/-- A loop body runs on the texts `texts` yields, in order: the loop is a fold of it over them,
which stops at the first return. -/
theorem forEach_of_texts {ε σ : Type} (body : List UInt8 → σ → Except ε σ) :
    ∀ (fuel : Nat) (s : Scanner) (acc : σ) (ts : List (List UInt8)),
      s.texts split fuel = some (.ok ts) →
      s.forEach split body fuel acc = some (.ok (ts.foldlM (fun acc t => body t acc) acc))
  | 0, _, _, _, h => by cases h
  | fuel + 1, s, acc, ts, h => by
    rw [texts] at h
    rw [forEach]
    cases hs : s.scan split (fuel + 1) with
    | none => rw [hs] at h; cases h
    | some r =>
      rw [hs] at h
      cases r with
      | token t s' =>
        dsimp only at h ⊢
        cases ht : s'.texts split fuel with
        | none => rw [ht] at h; cases h
        | some res =>
          rw [ht] at h
          cases res with
          | error e => cases h
          | ok ts' =>
            cases h
            rw [List.foldlM_cons]
            cases hb : body t acc with
            | error e => rfl
            | ok acc' => exact forEach_of_texts body fuel s' acc' ts' ht
      | stop => cases h; rfl
      | panic => cases h

/-! ## A turn with no token reads once -/

/-- The bounds every state of a Scanner keeps: the unread input lies in the buffer, which is no
longer than `maxTokenSize`, a size `int` can double. -/
structure Fits (s : Scanner) : Prop where
  end_le : s.endPos ≤ s.bufLen
  bufLen_le : s.bufLen ≤ s.maxTokenSize
  maxTokenSize_le : s.maxTokenSize ≤ maxInt / 2

/-- Handing input out keeps the bounds: the unread input only moves up within the buffer. -/
theorem Fits.of_endPos_le {s s' : Scanner} (hs : s.Fits) (hend : s'.endPos ≤ s.endPos)
    (hbuf : s'.bufLen = s.bufLen) (hmax : s'.maxTokenSize = s.maxTokenSize) : s'.Fits :=
  ⟨hbuf ▸ hend.trans hs.1, hbuf ▸ hmax ▸ hs.2, hmax ▸ hs.3⟩

/-- The input not handed out yet: the unread buffer, then what the reader holds. -/
def unread (s : Scanner) : List UInt8 := s.data ++ s.r.flatten

/-- The bytes the reader still holds, and one more for the `io.EOF` not yet seen: every turn that
reads lowers it. -/
def readsLeft (s : Scanner) : Nat := s.r.flatten.length + if s.err.isNone then 1 else 0

/-- With room in the buffer and no error, the read loop reads once: a byte or more, or `io.EOF`
when the reader is used up. -/
theorem readLoop_of_room {s : Scanner} (hroom : s.endPos < s.bufLen) (he : s.err = none)
    (left : Nat) :
    (s.r.flatten = [] ∧
      s.readLoop left = { s with r := [], data := s.data ++ [], err := some .eof }) ∨
    ∃ p r', p ≠ [] ∧ p.length ≤ s.bufLen - s.endPos ∧ p ++ r'.flatten = s.r.flatten ∧
      s.readLoop left = { s with r := r', data := s.data ++ p, empties := 0 } := by
  by_cases hr : s.r.flatten = []
  · refine .inl ⟨hr, ?_⟩
    simp [readLoop, read_of_flatten_eq_nil _ hr, he]
  · obtain ⟨p, r', hread, hp, hle, hflat⟩ :=
      read_of_flatten_ne_nil (show 0 < s.bufLen - s.endPos by omega) hr
    refine .inr ⟨p, r', hp, hle, hflat, ?_⟩
    rw [readLoop, hread]
    simp [List.length_pos.mpr hp]

/-- The state `refill` reads in: shifted, and grown if the unread input fills the buffer. -/
theorem refill_eq_readLoop {s : Scanner} (hs : s.Fits) (he : s.err = none)
    (hlen : s.data.length < s.maxTokenSize) :
    ∃ s' : Scanner, s.refill = .inr (s'.readLoop maxConsecutiveEmptyReads) ∧ s'.Fits ∧
      s'.endPos < s'.bufLen ∧ s'.r = s.r ∧ s'.data = s.data ∧ s'.err = s.err ∧
      s'.maxTokenSize = s.maxTokenSize ∧ s'.done = s.done := by
  obtain ⟨hend, hbuf, hmax⟩ := hs
  unfold endPos at hend
  have hshift : ∃ start, s.shift = { s with start := start } ∧ start ≤ s.start ∧
      (start + s.data.length = s.bufLen → start = 0) := by
    unfold shift endPos
    split_ifs with h
    · exact ⟨0, rfl, Nat.zero_le _, fun _ => rfl⟩
    · refine ⟨s.start, rfl, le_rfl, fun h' => ?_⟩
      simp only [Bool.and_eq_true, decide_eq_true_eq, Bool.or_eq_true, beq_iff_eq] at h
      omega
  obtain ⟨start, hsh, hle, hzero⟩ := hshift
  unfold refill
  simp only [he, Option.isSome_none, Bool.false_eq_true, if_false, hsh]
  by_cases hfull : start + s.data.length = s.bufLen
  · have h0 := hzero hfull
    subst h0
    have hlt : ¬(s.maxTokenSize ≤ s.bufLen ∨ maxInt / 2 < s.bufLen) := by omega
    simp only [endPos, hfull, if_true, hlt, decide_eq_true_eq, Bool.or_eq_true, if_false]
    refine ⟨_, rfl, ⟨?_, ?_, hmax⟩, ?_, rfl, rfl, rfl, rfl, rfl⟩ <;>
      simp only [grow, endPos] <;> split_ifs <;> simp only [startBufSize] at * <;> omega
  · simp only [endPos, hfull, if_false]
    exact ⟨_, rfl, ⟨by simp only [endPos]; omega, hbuf, hmax⟩, by simp only [endPos]; omega,
      rfl, rfl, rfl, rfl, rfl⟩

/-- **A turn that found no token reads once**, when it holds fewer than `maxTokenSize` bytes:
it keeps the unread input, and takes a byte or more off the reader, or notes `io.EOF` when there
is none left.  Either way `readsLeft` falls. -/
theorem refill_of_lt {s : Scanner} (hs : s.Fits) (he : s.err = none)
    (hlen : s.data.length < s.maxTokenSize) :
    ∃ s' : Scanner, s.refill = .inr s' ∧ s'.Fits ∧ s'.maxTokenSize = s.maxTokenSize ∧
      s'.done = s.done ∧
      s'.unread = s.unread ∧ s'.readsLeft < s.readsLeft ∧
      (s'.err = none ∨ s'.err = some .eof ∧ s'.r.flatten = [] ∧ s'.endPos < s'.bufLen) := by
  obtain ⟨s₁, hrefill, hfits, hroom, hr, hdata, herr, hmax, hdone⟩ :=
    refill_eq_readLoop hs he hlen
  rw [hrefill]
  rcases readLoop_of_room hroom (herr.trans he) maxConsecutiveEmptyReads with
    ⟨hnil, heq⟩ | ⟨p, r', hp, hple, hflat, heq⟩ <;> rw [heq]
  · refine ⟨_, rfl, hfits.of_endPos_le (by simp [endPos]) rfl rfl, hmax, hdone, ?_, ?_,
      .inr ⟨rfl, rfl, by simpa [endPos] using hroom⟩⟩
    · simp [unread, ← hr, hnil, hdata]
    · simp [readsLeft, ← hr, hnil, he]
  · have hplen : 0 < p.length := List.length_pos.mpr hp
    have hflatlen := congrArg List.length hflat
    rw [List.length_append] at hflatlen
    refine ⟨_, rfl, ⟨?_, hfits.2, hfits.3⟩, hmax, hdone, ?_, ?_, .inl (herr.trans he)⟩
    · simp only [endPos, List.length_append] at hple hfits ⊢; have := hfits.1; omega
    · simp [unread, ← hr, ← hflat, hdata]
    · simp only [readsLeft, ← hr, herr, he]; omega

/-- **A full buffer with no token ends the scan with `ErrTooLong`.** -/
theorem refill_of_full {s : Scanner} (hs : s.Fits) (he : s.err = none)
    (hfull : s.maxTokenSize ≤ s.data.length) :
    s.refill = .inl (.stop { s with err := some .tooLong }) := by
  obtain ⟨hend, hbuf, -⟩ := hs
  unfold endPos at hend
  have hstart : s.start = 0 := by omega
  have hshift : s.shift = s := by simp [shift, hstart]
  have hlen : s.bufLen ≤ s.data.length := by omega
  simp only [refill, he, Option.isSome_none, Bool.false_eq_true, if_false, hshift, endPos,
    hstart]
  rw [if_pos (by omega), if_pos (by simp only [Bool.or_eq_true, decide_eq_true_eq]; omega),
    setErr_of_none he, hstart]

end Scanner

end Bufio
