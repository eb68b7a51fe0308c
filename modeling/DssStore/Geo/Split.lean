import DssStore.Bufio

/-!
# `splitAtComma`, and the fields a Scanner cuts with it

`AreaToCellIDs` hands its area string to a `bufio.Scanner` split by `splitAtComma`, and reads
coordinates off the tokens.  Its comma count, made up front, is only right if the Scanner yields
the fields of `strings.Split(area, ",")`; this file proves what it does yield.

Every token `splitAtComma` hands out consumes a byte, the comma after it or the last byte of the
input, so the Scanner's empty-token panic never comes.  A `Scan` asks for more input only while
its buffer holds no comma, that is while the buffer is a prefix of one field: a field shorter than
`MaxScanTokenSize` always fits, with its comma, and a longer one fills the buffer, where `Scan`
gives up with `ErrTooLong`.  `AreaToCellIDs` never looks at the Scanner's error, so for it the
fields after a long one simply do not exist.

## What is here

* `splitAtComma_advance_pos`: a token consumes at least one byte;
* `Good`, the states a scan with `splitAtComma` runs through, and `loop_splitAtComma`: one `Scan`
  answers the first field of the unread input, or false when nothing is left or the field does
  not fit (`Answers`);
* `texts_splitAtComma` and `comma_scan_stops_at_long_field`: for every input and every chunking
  of it, the loop yields the fields of `strings.Split(s, ",")`, without a final empty one, up to
  the first of `MaxScanTokenSize` bytes or more; `comma_scan_yields_fields`: when every field is
  shorter, it yields them all.
-/

set_option autoImplicit false

namespace DssStore
namespace Geo

open Bufio

/-- The byte `','`. -/
def comma : UInt8 := 44

/-- `splitAtComma`: up to the first comma, or the rest of the input once it has ended.
`indexOf?` is `bytes.IndexByte`. -/
def splitAtComma (data : List UInt8) (atEOF : Bool) : Split :=
  if atEOF && data.length == 0 then ⟨0, none, none⟩
  else
    match data.indexOf? comma with
    | some i => ⟨i + 1, some (data.take i), none⟩
    | none => if atEOF then ⟨data.length, some data, none⟩ else ⟨0, none, none⟩

/-- **Every token consumes a byte.** -/
theorem splitAtComma_advance_pos (data : List UInt8) (atEOF : Bool) (t : List UInt8)
    (h : (splitAtComma data atEOF).token = some t) : 0 < (splitAtComma data atEOF).advance := by
  cases atEOF <;> cases hi : data.indexOf? comma <;> simp_all [splitAtComma] <;>
    split_ifs at h ⊢ <;> simp_all [List.length_pos]

/-- The fields of `strings.Split(s, ",")` but a final empty one. -/
def scannedFields (s : List UInt8) : List (List UInt8) :=
  let fields := s.splitOn comma
  if fields.getLast? = some [] then fields.dropLast else fields

/-! ## Fields -/

section Fields

variable {f rest : List UInt8}

/-- A list either has no comma, or a first one. -/
theorem comma_free_or_first (u : List UInt8) :
    comma ∉ u ∨ ∃ f rest, u = f ++ comma :: rest ∧ comma ∉ f := by
  induction u with
  | nil => exact .inl (List.not_mem_nil _)
  | cons x u ih =>
    by_cases hx : x = comma
    · exact .inr ⟨[], u, by rw [hx]; rfl, List.not_mem_nil _⟩
    · rcases ih with h | ⟨f, rest, rfl, hf⟩
      · exact .inl (by simp [Ne.symm hx, h])
      · exact .inr ⟨x :: f, rest, rfl, by simp [Ne.symm hx, hf]⟩

theorem indexOf?_append_comma (hf : comma ∉ f) :
    (f ++ comma :: rest).indexOf? comma = some f.length := by
  induction f with
  | nil => simp [List.indexOf?_cons]
  | cons x f ih =>
    simp only [List.mem_cons, not_or] at hf
    rw [List.cons_append, List.indexOf?_cons, if_neg (by simpa using Ne.symm hf.1), ih hf.2]
    rfl

theorem indexOf?_of_comma_free (hf : comma ∉ f) : f.indexOf? comma = none :=
  List.indexOf?_eq_none_iff.mpr fun _ hx h => hf (beq_iff_eq.mp h ▸ hx)

theorem splitOn_append_comma (hf : comma ∉ f) :
    (f ++ comma :: rest).splitOn comma = f :: rest.splitOn comma :=
  List.splitOnP_first (· == comma) f (fun _ hx h => hf (beq_iff_eq.mp h ▸ hx)) _ (by simp) _

theorem splitOn_of_comma_free (hf : comma ∉ f) : f.splitOn comma = [f] :=
  List.splitOnP_eq_single (· == comma) f fun _ hx h => hf (beq_iff_eq.mp h ▸ hx)

theorem scannedFields_nil : scannedFields [] = [] := rfl

theorem scannedFields_append_comma (hf : comma ∉ f) :
    scannedFields (f ++ comma :: rest) = f :: scannedFields rest := by
  obtain ⟨g, gs, hgs⟩ := List.exists_cons_of_ne_nil (List.splitOnP_ne_nil (· == comma) rest)
  have hsplit : rest.splitOn comma = g :: gs := hgs
  simp only [scannedFields, splitOn_append_comma hf, hsplit, List.getLast?_cons_cons]
  split_ifs <;> rfl

theorem scannedFields_of_comma_free (hf : comma ∉ f) (hne : f ≠ []) :
    scannedFields f = [f] := by
  simp [scannedFields, splitOn_of_comma_free hf, hne]

theorem takeWhile_append_of_comma_free {d t : List UInt8} (hd : comma ∉ d) :
    (d ++ t).takeWhile (· != comma) = d ++ t.takeWhile (· != comma) :=
  List.takeWhile_append_of_pos fun _ ha => bne_iff_ne.mpr fun h => hd (h ▸ ha)

/-- A field the Scanner cannot hold hides every field after it. -/
theorem takeWhile_scannedFields_of_long {u : List UInt8}
    (h : maxScanTokenSize ≤ (u.takeWhile (· != comma)).length) :
    (scannedFields u).takeWhile (fun f => f.length < maxScanTokenSize) = [] := by
  rcases comma_free_or_first u with hu | ⟨f, rest, rfl, hf⟩
  · have hne : u ≠ [] := by rintro rfl; simp [maxScanTokenSize] at h
    rw [← List.append_nil u, takeWhile_append_of_comma_free hu] at h
    rw [scannedFields_of_comma_free hu hne, List.takeWhile_cons_of_neg (by simpa using h)]
  · rw [takeWhile_append_of_comma_free hf, List.takeWhile_cons_of_neg (by simp)] at h
    rw [scannedFields_append_comma hf, List.takeWhile_cons_of_neg (by simpa using h)]

theorem mem_splitOn_of_mem_scannedFields {s f : List UInt8} (h : f ∈ scannedFields s) :
    f ∈ s.splitOn comma := by
  dsimp only [scannedFields] at h
  split_ifs at h
  · exact List.dropLast_subset _ h
  · exact h

end Fields

/-! ## One turn of `Scan` -/

/-- The states a scan with `splitAtComma` runs through: within bounds, with the default
`maxTokenSize`, not done, and with no error but an `io.EOF` after which the reader is empty and
the buffer not full. -/
structure Good (s : Scanner) : Prop where
  fits : s.Fits
  maxTokenSize_eq : s.maxTokenSize = maxScanTokenSize
  not_done : s.done = false
  err_eq : s.err = none ∨ s.err = some .eof ∧ s.r.flatten = [] ∧ s.endPos < s.bufLen

theorem good_newScanner (r : List (List UInt8)) : Good (newScanner r) :=
  ⟨⟨le_rfl, Nat.zero_le _, by simp only [newScanner]; decide⟩, rfl, rfl, .inl rfl⟩

/-- Handing out input keeps a state good: the unread input shrinks from the front. -/
theorem Good.handOut {s : Scanner} (hs : Good s) (n : Nat) (data : List UInt8)
    (hend : s.start + n + data.length = s.endPos) :
    Good { s with start := s.start + n, data := data, empties := 0 } :=
  ⟨hs.fits.of_endPos_le (by simp only [Scanner.endPos] at hend ⊢; omega) rfl rfl, hs.2, hs.3,
    hs.4.imp id fun ⟨he, hr, hroom⟩ =>
      ⟨he, hr, by simp only [Scanner.endPos] at hend hroom ⊢; omega⟩⟩

section Turn

variable {s : Scanner}

/-- With a comma in the buffer, a turn hands out what precedes it. -/
theorem pass_of_comma {f rest : List UInt8} (hd : s.data = f ++ comma :: rest) (hf : comma ∉ f) :
    s.pass splitAtComma =
      .inl (.token f { s with start := s.start + (f.length + 1), data := rest, empties := 0 }) := by
  have hne : s.endPos > s.start := by
    simp only [Scanner.endPos, hd, List.length_append, List.length_cons]; omega
  have h₁ : ¬((f.length : Int) + 1 < 0) := by omega
  have h₂ : ¬((f.length : Int) + ((rest.length : Int) + 1) < f.length + 1) := by omega
  simp [Scanner.pass, Scanner.trySplit, splitAtComma, Scanner.advance, hne, hd,
    indexOf?_append_comma hf, h₁, h₂]

/-- After `io.EOF`, a turn hands out the rest of a buffer with no comma. -/
theorem pass_of_eof (hd : comma ∉ s.data) (hne : s.data ≠ []) (he : s.err = some .eof) :
    s.pass splitAtComma =
      .inl (.token s.data
        { s with start := s.start + s.data.length, data := [], empties := 0 }) := by
  have hlen : 0 < s.data.length := List.length_pos.mpr hne
  have h₁ : ¬((s.data.length : Int) < 0) := by omega
  simp [Scanner.pass, Scanner.trySplit, splitAtComma, Scanner.advance, he, hne,
    indexOf?_of_comma_free hd, h₁, hlen]

/-- After `io.EOF`, a turn with an empty buffer makes `Scan` return false. -/
theorem pass_of_eof_nil (hd : s.data = []) (he : s.err = some .eof) :
    s.pass splitAtComma = .inl (.stop { s with start := 0, data := [] }) := by
  simp [Scanner.pass, Scanner.trySplit, splitAtComma, Scanner.advance, Scanner.refill, he, hd]

/-- With no error and no comma in the buffer, the split function asks for more. -/
theorem trySplit_of_comma_free (hd : comma ∉ s.data) (he : s.err = none) :
    s.trySplit splitAtComma = .inr s := by
  by_cases hne : s.data = []
  · simp [Scanner.trySplit, Scanner.endPos, he, hne]
  · have hpos : s.start < s.endPos := by
      simp only [Scanner.endPos]; have := List.length_pos.mpr hne; omega
    have h₁ : ¬((s.data.length : Int) < 0) := by omega
    simp [Scanner.trySplit, splitAtComma, Scanner.advance, he, hne, hpos, h₁,
      indexOf?_of_comma_free hd]
    rw [← he]

end Turn

/-! ## One `Scan` -/

/-- What a `Scan` should answer from the unread input `u`, with at most `m` reads left: false
when nothing is left or the first field does not fit the buffer; else that field and a good state
whose unread input is what follows the field's comma, or nothing after the last field. -/
def Answers (u : List UInt8) (m : Nat) : Scanned → Prop
  | .stop _ => u = [] ∨ maxScanTokenSize ≤ (u.takeWhile (· != comma)).length
  | .token t s => t.length < maxScanTokenSize ∧ comma ∉ t ∧ Good s ∧ s.readsLeft ≤ m ∧
      (u = t ++ comma :: s.unread ∨ u = t ∧ t ≠ [] ∧ s.unread = [])
  | .panic => False

theorem Answers.mono {u : List UInt8} {m m' : Nat} (h : m ≤ m') :
    ∀ {r : Scanned}, Answers u m r → Answers u m' r
  | .stop _, hr => hr
  | .token _ _, ⟨hl, ht, hs, hm, hu⟩ => ⟨hl, ht, hs, hm.trans h, hu⟩

/-- **One `Scan` answers the first field**, or false when no input is left or the field does not
fit the buffer, with fuel for the turns that read. -/
theorem loop_splitAtComma : ∀ (fuel : Nat) {s : Scanner}, Good s → s.readsLeft < fuel →
      ∃ r, s.loop splitAtComma fuel = some r ∧ Answers s.unread s.readsLeft r
  | 0, _, _, hfuel => absurd hfuel (Nat.not_lt_zero _)
  | fuel + 1, s, hs, hfuel => by
    have hbuf := hs.maxTokenSize_eq ▸ hs.fits.2
    have hend := hs.fits.1
    simp only [Scanner.endPos] at hend
    rcases comma_free_or_first s.data with hd | ⟨f, rest, hd, hf⟩
    · rcases hs.err_eq with he | ⟨he, hr, hroom⟩
      · by_cases hlen : s.data.length < s.maxTokenSize
        · -- no comma yet: read
          obtain ⟨s', hrefill, hfits, hmax, hdone, hunread, hleft, herr⟩ :=
            Scanner.refill_of_lt hs.fits he hlen
          have hpass : s.pass splitAtComma = .inr s' := by
            rw [Scanner.pass, trySplit_of_comma_free hd he]
            exact hrefill
          obtain ⟨r, hr, hans⟩ := loop_splitAtComma fuel
            ⟨hfits, hmax.trans hs.maxTokenSize_eq, hdone.trans hs.not_done, herr⟩ (by omega)
          rw [hunread] at hans
          exact ⟨r, by rw [Scanner.loop, hpass]; exact hr, hans.mono hleft.le⟩
        · -- a full buffer and no comma: the field does not fit
          refine ⟨.stop _, by
            rw [Scanner.loop, Scanner.pass, trySplit_of_comma_free hd he]
            dsimp only
            rw [Scanner.refill_of_full hs.fits he (not_lt.mp hlen)], .inr ?_⟩
          rw [Scanner.unread, takeWhile_append_of_comma_free hd, List.length_append]
          rw [hs.maxTokenSize_eq] at hlen
          omega
      · have hu' : s.unread = s.data := by simp [Scanner.unread, hr]
        by_cases hne : s.data = []
        · -- nothing left
          exact ⟨.stop _, by rw [Scanner.loop, pass_of_eof_nil hne he], .inl (hu'.trans hne)⟩
        · -- the last field, which fits since the buffer had room for `io.EOF`
          simp only [Scanner.endPos] at hroom
          refine ⟨.token s.data
              { s with start := s.start + s.data.length, data := [], empties := 0 },
            by rw [Scanner.loop, pass_of_eof hd hne he], by omega, hd,
            hs.handOut _ _ (by simp [Scanner.endPos]), by simp [Scanner.readsLeft, hr, he],
            .inr ⟨hu', hne, by simp [Scanner.unread, hr]⟩⟩
    · -- a comma in the buffer
      have hlen := congrArg List.length hd
      simp only [List.length_append, List.length_cons] at hlen
      refine ⟨.token f { s with start := s.start + (f.length + 1), data := rest, empties := 0 },
        by rw [Scanner.loop, pass_of_comma hd hf], by omega, hf,
        hs.handOut _ _ (by simp [Scanner.endPos, hd]; omega), le_rfl,
        .inl (by simp [Scanner.unread, hd])⟩

/-! ## The loop -/

/-- **The scan loop yields the fields of the unread input** up to the first that does not fit the
buffer, and no final empty one, with fuel for every token and every read. -/
theorem texts_splitAtComma : ∀ (fuel : Nat) {s : Scanner}, Good s →
    s.unread.length + s.readsLeft < fuel →
    s.texts splitAtComma fuel =
      some (.ok ((scannedFields s.unread).takeWhile fun f => f.length < maxScanTokenSize))
  | 0, _, _, hfuel => absurd hfuel (Nat.not_lt_zero _)
  | fuel + 1, s, hs, hfuel => by
    obtain ⟨r, hr, hans⟩ := loop_splitAtComma (fuel + 1) hs (by omega)
    have hscan : s.scan splitAtComma (fuel + 1) = some r := by
      rw [Scanner.scan, hs.not_done]
      exact hr
    rw [Scanner.texts, hscan]
    match r, hans with
    | .stop _, .inl hnil => rw [hnil]; rfl
    | .stop _, .inr hlong => rw [takeWhile_scannedFields_of_long hlong]
    | .token t s', ⟨hl, ht, hs', _, .inl hdec⟩ =>
      rw [hdec] at hfuel ⊢
      simp only [List.length_append, List.length_cons] at hfuel
      dsimp only
      rw [texts_splitAtComma fuel hs' (by omega), scannedFields_append_comma ht,
        List.takeWhile_cons_of_pos (by simpa using hl)]
      rfl
    | .token t s', ⟨hl, ht, hs', _, .inr ⟨hdec, hne, hnil⟩⟩ =>
      have hlen : 0 < t.length := List.length_pos.mpr hne
      rw [hdec] at hfuel ⊢
      dsimp only
      rw [texts_splitAtComma fuel hs' (by rw [hnil]; simp; omega),
        scannedFields_of_comma_free ht hne, hnil, List.takeWhile_cons_of_pos (by simpa using hl)]
      rfl

/-! ## From a fresh Scanner -/

@[simp] theorem unread_newScanner (r : List (List UInt8)) : (newScanner r).unread = r.flatten := by
  simp [Scanner.unread, newScanner]

@[simp] theorem readsLeft_newScanner (r : List (List UInt8)) :
    (newScanner r).readsLeft = r.flatten.length + 1 := rfl

/-- A Scanner on `strings.NewReader(area)` yields the fields of `area` up to the first long one. -/
theorem texts_newScanner_singleton (area : List UInt8) (fuel : Nat)
    (hfuel : 2 * area.length + 2 ≤ fuel) :
    (newScanner [area]).texts splitAtComma fuel =
      some (.ok ((scannedFields area).takeWhile fun f => f.length < maxScanTokenSize)) := by
  simpa using texts_splitAtComma fuel (good_newScanner [area]) (by simp; omega)

/-- **The comma scanner terminates and yields exactly the fields.**  Every token `splitAtComma`
hands out consumes a byte; and whichever chunks the reader delivers `s` in, if every field of
`strings.Split(s, ",")` is shorter than `MaxScanTokenSize`, then the loop `for scanner.Scan()`
ends, with no panic, within `2 * len(s) + 2` turns, having yielded those fields in order but a
final empty one. -/
theorem comma_scan_yields_fields (s : List UInt8) (chunks : List (List UInt8))
    (hchunks : chunks.flatten = s) (hshort : ∀ f ∈ s.splitOn comma, f.length < maxScanTokenSize)
    (fuel : Nat) (hfuel : 2 * s.length + 2 ≤ fuel) :
    (∀ data atEOF t, (splitAtComma data atEOF).token = some t →
      0 < (splitAtComma data atEOF).advance) ∧
    (newScanner chunks).texts splitAtComma fuel = some (.ok (scannedFields s)) := by
  have h := texts_splitAtComma fuel (good_newScanner chunks) (by simp [hchunks]; omega)
  rw [unread_newScanner, hchunks, List.takeWhile_eq_self_iff.mpr fun f hf =>
    decide_eq_true (hshort f (mem_splitOn_of_mem_scannedFields hf))] at h
  exact ⟨splitAtComma_advance_pos, h⟩

theorem comma_scan_yields_fields_twoChunks :
    [[49, 44], [50, 44]].flatten = [49, 44, 50, 44] ∧
      (∀ f ∈ ([49, 44, 50, 44] : List UInt8).splitOn comma, f.length < maxScanTokenSize) ∧
      2 * [49, 44, 50, 44].length + 2 ≤ 10 ∧
      ((∀ data atEOF t, (splitAtComma data atEOF).token = some t →
        0 < (splitAtComma data atEOF).advance) ∧
      (newScanner [[49, 44], [50, 44]]).texts splitAtComma 10 =
        some (.ok (scannedFields [49, 44, 50, 44]))) :=
  ⟨rfl, by decide, by decide,
    comma_scan_yields_fields [49, 44, 50, 44] [[49, 44], [50, 44]] rfl (by decide) 10 (by decide)⟩

/-- A trailing comma's empty field is not yielded. -/
example : scannedFields [49, 44, 50, 44] = [[49], [50]] := by decide

/-- **The comma scanner, on any input.**  Whichever chunks the reader delivers `s` in, the loop
`for scanner.Scan()` ends with no panic within `2 * len(s) + 2` turns, having yielded the fields
of `strings.Split(s, ",")`, without a final empty one, up to the first field of
`MaxScanTokenSize` bytes or more: there `Scan` finds its buffer full with no comma and gives up
with `ErrTooLong`, and the fields after it are never yielded. -/
theorem comma_scan_stops_at_long_field (s : List UInt8) (chunks : List (List UInt8))
    (hchunks : chunks.flatten = s) (fuel : Nat) (hfuel : 2 * s.length + 2 ≤ fuel) :
    (newScanner chunks).texts splitAtComma fuel =
      some (.ok ((scannedFields s).takeWhile fun f => f.length < maxScanTokenSize)) := by
  have h := texts_splitAtComma fuel (good_newScanner chunks) (by simp [hchunks]; omega)
  rwa [unread_newScanner, hchunks] at h

theorem comma_scan_stops_at_long_field_oneChunk :
    [[49, 44, 50]].flatten = [49, 44, 50] ∧ 2 * [49, 44, 50].length + 2 ≤ 8 ∧
      (newScanner [[49, 44, 50]]).texts splitAtComma 8 =
        some (.ok ((scannedFields [49, 44, 50]).takeWhile
          fun f => f.length < maxScanTokenSize)) :=
  ⟨rfl, by decide, comma_scan_stops_at_long_field _ _ rfl 8 (by decide)⟩

end Geo
end DssStore
