import DssStore.Geo.Split
import DssStore.Tx
import DssStore.Cell

/-!
# `AreaToCellIDs`: the area string, read as a polygon

`SearchIdentificationServiceAreas` and `SearchSubscriptions` take their area as a string
`lat0,lon0,lat1,lon1,...`, which `AreaToCellIDs` turns into S2 cells.  It counts the commas up
front to reject an odd number of coordinates or fewer than three points, then scans the fields
with `splitAtComma`, `strconv.ParseFloat`s each one after `strings.TrimSpace`, pairs them into
points, and covers the loop of the points with `Covering`, as `GeoPolygonToCellIDs` does for the
structured polygon.

`ParseFloat`, `s2.PointFromLatLng(s2.LatLngFromDegrees(…))` and `Covering(s2.LoopFromPoints(…))`
are parameters: what is proved here holds whatever they compute.  `strings.TrimSpace` and
`strings.Count` are modelled on the bytes of the string.

## What is here

* `Strings.trimSpace`, `Strings.count`, `areaStep` (one turn of the scan loop) and `areaToCellIDs`;
* `areaToCellIDs_eq_fold`: on every area the comma count lets through, the result is `Covering`
  of the points folded from the fields the scanner yields, which stop before the first field of
  `MaxScanTokenSize` bytes or more;
* `areaToCellIDs_eq_geoPolygonToCellIDs`: inside the grammar, with every field shorter than that,
  `AreaToCellIDs` is `GeoPolygonToCellIDs` of the polygon of the coordinate pairs;
* `area_outside_grammar_reaches_covering`: the comma count and the scanned fields disagree on a
  trailing comma, so `0,0,0,1,1,1,5,`, whose eighth field `ParseFloat` refuses, is covered as the
  triangle of its first three points.
-/

set_option autoImplicit false

namespace Strings

/-- `strings.Count(s, string(b))`: how often the byte `b` occurs. -/
def count (s : List UInt8) (b : UInt8) : Nat := s.count b

/-- `strings.TrimLeftFunc(s, unicode.IsSpace)`: drop the UTF-8 encodings of white-space runes from
the front — the ASCII ones, U+0085, U+00A0, U+1680, U+2000 to U+200A, U+2028, U+2029, U+202F,
U+205F and U+3000.  A byte that does not start a valid encoding decodes to `RuneError`, which is
not a space. -/
def trimLeftSpace : List UInt8 → List UInt8
  | 9 :: s | 10 :: s | 11 :: s | 12 :: s | 13 :: s | 32 :: s => trimLeftSpace s
  | 0xC2 :: 0x85 :: s | 0xC2 :: 0xA0 :: s => trimLeftSpace s
  | 0xE1 :: 0x9A :: 0x80 :: s | 0xE2 :: 0x81 :: 0x9F :: s | 0xE3 :: 0x80 :: 0x80 :: s =>
    trimLeftSpace s
  | 0xE2 :: 0x80 :: b :: s =>
    if (0x80 ≤ b && b ≤ 0x8A) || b == 0xA8 || b == 0xA9 || b == 0xAF then trimLeftSpace s
    else 0xE2 :: 0x80 :: b :: s
  | s => s

/-- `trimLeftSpace` on the reversed bytes: drop the reversed encodings of white-space runes.  Read
from the end, `utf8.DecodeLastRune` finds a white-space rune exactly where its encoding ends the
string. -/
def trimLeftSpaceRev : List UInt8 → List UInt8
  | 9 :: s | 10 :: s | 11 :: s | 12 :: s | 13 :: s | 32 :: s => trimLeftSpaceRev s
  | 0x85 :: 0xC2 :: s | 0xA0 :: 0xC2 :: s => trimLeftSpaceRev s
  | 0x80 :: 0x9A :: 0xE1 :: s | 0x9F :: 0x81 :: 0xE2 :: s | 0x80 :: 0x80 :: 0xE3 :: s =>
    trimLeftSpaceRev s
  | b :: 0x80 :: 0xE2 :: s =>
    if (0x80 ≤ b && b ≤ 0x8A) || b == 0xA8 || b == 0xA9 || b == 0xAF then trimLeftSpaceRev s
    else b :: 0x80 :: 0xE2 :: s
  | s => s

/-- `strings.TrimSpace`: white space dropped from both ends. -/
def trimSpace (s : List UInt8) : List UInt8 := (trimLeftSpaceRev (trimLeftSpace s).reverse).reverse

example : trimSpace [32, 0xC2, 0xA0, 49, 46, 53, 9, 0xE2, 0x80, 0x89] = [49, 46, 53] := by decide

end Strings

namespace DssStore

/-- `dspb.LatLngPoint`. -/
structure LatLngPoint where
  /-- `Lat`. -/
  lat : Float
  /-- `Lng`. -/
  lng : Float

/-- `dspb.GeoPolygon`. -/
structure GeoPolygon where
  /-- `Vertices`. -/
  vertices : List LatLngPoint

/-- `s2.CellUnion`. -/
abbrev CellUnion := List CellID

namespace Geo

open Bufio

def errOddNumberOfCoordinatesInAreaString : Err :=
  .badRequest "odd number of coordinates in area string"

def errNotEnoughPointsInPolygon : Err := .badRequest "not enough points in polygon"

def errBadCoordSet : Err := .badRequest "coordinates did not create a well formed area"

/-- The variables of `AreaToCellIDs` its scan loop updates. -/
structure AreaVars (Point : Type) where
  lat : Float
  lng : Float
  points : List Point
  counter : Nat

section Area

variable {Point : Type} (parseFloat : List UInt8 → Except Err Float)
  (pointFromLatLng : Float → Float → Point) (covering : List Point → Except Err CellUnion)

/-- `GeoPolygonToCellIDs`: `Covering` of the loop of the vertices. -/
def geoPolygonToCellIDs : Option GeoPolygon → Except Err CellUnion
  | none => .error errBadCoordSet
  | some p => covering (p.vertices.map fun v => pointFromLatLng v.lat v.lng)

/-- One turn of the scan loop of `AreaToCellIDs`: a latitude on even turns, a longitude and the
point they make on odd ones. -/
def areaStep (text : List UInt8) (v : AreaVars Point) : Except Err (AreaVars Point) := do
  let trimmed := Strings.trimSpace text
  if v.counter % 2 = 0 then
    let f ← parseFloat trimmed
    pure { v with lat := f, counter := v.counter + 1 }
  else
    let f ← parseFloat trimmed
    let points := v.points ++ [pointFromLatLng v.lat f]
    pure { v with lng := f, points := points, counter := v.counter + 1 }

/-- `AreaToCellIDs`, with fuel for its scan loop. -/
def areaToCellIDs (fuel : Nat) (area : List UInt8) : Option (Panics (Except Err CellUnion)) :=
  let numCoords := Strings.count area comma + 1
  if numCoords % 2 = 1 then some (.ok (.error errOddNumberOfCoordinatesInAreaString))
  else if numCoords / 2 < 3 then some (.ok (.error errNotEnoughPointsInPolygon))
  else
    match (newScanner [area]).forEach splitAtComma (areaStep parseFloat pointFromLatLng) fuel
        ⟨0, 0, [], 0⟩ with
    | none => none
    | some (.error p) => some (.error p)
    | some (.ok (.error e)) => some (.ok (.error e))
    | some (.ok (.ok v)) => some (.ok (covering v.points))

/-- Once the comma count passes, `AreaToCellIDs` covers the points its loop folds from the fields
the scanner yields. -/
theorem areaToCellIDs_of_texts {fuel : Nat} {area : List UInt8} {ts : List (List UInt8)}
    (hodd : (Strings.count area comma + 1) % 2 = 0)
    (hthree : 3 ≤ (Strings.count area comma + 1) / 2)
    (hts : (newScanner [area]).texts splitAtComma fuel = some (.ok ts)) :
    areaToCellIDs parseFloat pointFromLatLng covering fuel area =
      some (.ok (ts.foldlM (fun v t => areaStep parseFloat pointFromLatLng t v) ⟨0, 0, [], 0⟩
        >>= fun v => covering v.points)) := by
  rw [areaToCellIDs]
  simp only [hodd, if_neg (by omega : ¬((0 : Nat) = 1)), if_neg (not_lt.mpr hthree),
    Scanner.forEach_of_texts _ _ _ _ _ _ hts]
  cases ts.foldlM (fun v t => areaStep parseFloat pointFromLatLng t v) ⟨0, 0, [], 0⟩ <;> rfl

/-- The area strings `AreaToCellIDs` is written for: `2k` comma-separated fields, `k ≥ 3`, each of
which `ParseFloat` accepts after `TrimSpace`, a latitude and a longitude per vertex. -/
def InGrammar (area : List UInt8) : Prop :=
  (area.splitOn comma).length % 2 = 0 ∧ 3 ≤ (area.splitOn comma).length / 2 ∧
    ∀ f ∈ area.splitOn comma, ∃ x, parseFloat (Strings.trimSpace f) = .ok x

/-- The polygon of the pairs `(x₀, x₁), (x₂, x₃), …` of a list of coordinates. -/
def pairs : List Float → List LatLngPoint
  | lat :: lng :: rest => ⟨lat, lng⟩ :: pairs rest
  | _ => []

/-! ## Inside the grammar -/

theorem length_splitOn_comma :
    ∀ s : List UInt8, (s.splitOn comma).length = Strings.count s comma + 1
  | [] => rfl
  | x :: s => by
    have ih := length_splitOn_comma s
    simp only [List.splitOn, Strings.count, List.count_cons] at ih ⊢
    rw [List.splitOnP_cons]
    split_ifs <;> simp_all

theorem mapM_cons_eq_ok {α β : Type} {g : α → Except Err β} {a : α} {l : List α}
    {bs : List β} :
    (a :: l).mapM g = .ok bs ↔
      ∃ b bs', g a = .ok b ∧ l.mapM g = .ok bs' ∧ bs = b :: bs' := by
  rw [List.mapM_cons]
  cases g a <;> cases l.mapM g <;> simp [bind, Except.bind, pure, Except.pure, eq_comm]

theorem mapM_ok_of_forall {α β : Type} {g : α → Except Err β} :
    ∀ {l : List α}, (∀ a ∈ l, ∃ b, g a = .ok b) → ∃ bs, l.mapM g = .ok bs
  | [], _ => ⟨[], rfl⟩
  | a :: l, h => by
    obtain ⟨b, hb⟩ := h a (List.mem_cons_self a l)
    obtain ⟨bs, hbs⟩ := mapM_ok_of_forall fun a ha => h a (List.mem_cons_of_mem _ ha)
    exact ⟨b :: bs, mapM_cons_eq_ok.mpr ⟨b, bs, hb, hbs, rfl⟩⟩

/-- Two turns of the loop, on a latitude and a longitude that parse, add their point. -/
theorem foldlM_areaStep :
    ∀ (fields : List (List UInt8)) (xs : List Float) (v : AreaVars Point),
      fields.mapM (fun f => parseFloat (Strings.trimSpace f)) = .ok xs →
      fields.length % 2 = 0 → v.counter % 2 = 0 →
      ∃ v', fields.foldlM (fun v t => areaStep parseFloat pointFromLatLng t v) v = .ok v' ∧
        v'.points = v.points ++ (pairs xs).map fun p => pointFromLatLng p.lat p.lng
  | [], xs, v, hxs, _, _ => by
    cases hxs
    exact ⟨v, rfl, by simp [pairs]⟩
  | [_], _, _, _, hlen, _ => by simp at hlen
  | f₁ :: f₂ :: rest, xs, v, hxs, hlen, hv => by
    obtain ⟨x₁, xs₁, h₁, hxs₁, rfl⟩ := mapM_cons_eq_ok.mp hxs
    obtain ⟨x₂, xs', h₂, hrest, rfl⟩ := mapM_cons_eq_ok.mp hxs₁
    simp only [List.length_cons] at hlen
    obtain ⟨v', hfold, hpoints⟩ := foldlM_areaStep rest xs'
      ⟨x₁, x₂, v.points ++ [pointFromLatLng x₁ x₂], v.counter + 2⟩ hrest (by omega)
      (show (v.counter + 2) % 2 = 0 by omega)
    refine ⟨v', ?_, by simp [hpoints, pairs]⟩
    have hodd : ¬(v.counter + 1) % 2 = 0 := by omega
    simp only [List.foldlM_cons, areaStep, hv, if_true, hodd, if_false, h₁, h₂, bind,
      Except.bind, pure, Except.pure]
    exact hfold

/-- **Inside the grammar, with fields shorter than `MaxScanTokenSize`, `AreaToCellIDs` is
`GeoPolygonToCellIDs` of the polygon of the coordinate pairs**, for a `ParseFloat` that, like
`strconv`'s, refuses the empty string. -/
theorem areaToCellIDs_eq_geoPolygonToCellIDs (hempty : ∀ x, parseFloat [] ≠ .ok x)
    (area : List UInt8) (hg : InGrammar parseFloat area)
    (hshort : ∀ f ∈ area.splitOn comma, f.length < maxScanTokenSize)
    (fuel : Nat) (hfuel : 2 * area.length + 2 ≤ fuel) :
    ∃ xs, (area.splitOn comma).mapM (fun f => parseFloat (Strings.trimSpace f)) = .ok xs ∧
      areaToCellIDs parseFloat pointFromLatLng covering fuel area =
        some (.ok (geoPolygonToCellIDs pointFromLatLng covering (some ⟨pairs xs⟩))) := by
  obtain ⟨heven, hthree, hparse⟩ := hg
  obtain ⟨xs, hxs⟩ := mapM_ok_of_forall hparse
  have hlast : (area.splitOn comma).getLast? ≠ some [] := fun h => by
    obtain ⟨x, hx⟩ := hparse [] (List.mem_of_getLast?_eq_some h)
    exact hempty x hx
  have hfields : scannedFields area = area.splitOn comma := by simp [scannedFields, hlast]
  have hts := texts_newScanner_singleton area fuel hfuel
  rw [hfields, List.takeWhile_eq_self_iff.mpr fun f hf => decide_eq_true (hshort f hf)] at hts
  rw [length_splitOn_comma] at heven hthree
  obtain ⟨v, hfold, hpoints⟩ :=
    foldlM_areaStep parseFloat pointFromLatLng _ xs ⟨0, 0, [], 0⟩ hxs
    (by rw [length_splitOn_comma]; exact heven) rfl
  refine ⟨xs, hxs, ?_⟩
  rw [areaToCellIDs_of_texts _ _ _ heven hthree hts, hfold]
  simp [bind, Except.bind, hpoints, geoPolygonToCellIDs]

/-- **What `AreaToCellIDs` computes**, on every area the comma count lets through: its loop
folds over the fields of `strings.Split(area, ",")`, without a final empty one, up to the first
of `MaxScanTokenSize` bytes or more, and the result is `Covering` of the points it made, or the
first `ParseFloat` error.  Whatever follows a long field, and a latitude left without its
longitude, is never read. -/
theorem areaToCellIDs_eq_fold (area : List UInt8)
    (hodd : (Strings.count area comma + 1) % 2 = 0)
    (hthree : 3 ≤ (Strings.count area comma + 1) / 2)
    (fuel : Nat) (hfuel : 2 * area.length + 2 ≤ fuel) :
    areaToCellIDs parseFloat pointFromLatLng covering fuel area =
      some (.ok (((scannedFields area).takeWhile fun f => f.length < maxScanTokenSize).foldlM
        (fun v t => areaStep parseFloat pointFromLatLng t v) ⟨0, 0, [], 0⟩
          >>= fun v => covering v.points)) :=
  areaToCellIDs_of_texts parseFloat pointFromLatLng covering hodd hthree
    (texts_newScanner_singleton area fuel hfuel)

end Area

/-- A `ParseFloat` for the areas below: it reads `0`, `1` and `5` as `strconv.ParseFloat` does,
and refuses everything else. -/
def parseDigit (b : List UInt8) : Except Err Float :=
  if b = [48] then .ok 0 else if b = [49] then .ok 1 else if b = [53] then .ok 5
  else .error (.parse .errSyntax)

theorem parseDigit_nil (x : Float) : parseDigit [] ≠ .ok x := by simp [parseDigit]

/-- The area `0,0,0,1,1,1`. -/
def triangleArea : List UInt8 := [48, 44, 48, 44, 48, 44, 49, 44, 49, 44, 49]

theorem areaToCellIDs_eq_geoPolygonToCellIDs_triangleArea :
    (∀ x, parseDigit [] ≠ .ok x) ∧ InGrammar parseDigit triangleArea ∧
      (∀ f ∈ triangleArea.splitOn comma, f.length < maxScanTokenSize) ∧
      2 * triangleArea.length + 2 ≤ 24 ∧
      ∃ xs, (triangleArea.splitOn comma).mapM (fun f => parseDigit (Strings.trimSpace f)) =
          .ok xs ∧
        areaToCellIDs parseDigit Prod.mk (fun _ => .ok []) 24 triangleArea =
          some (.ok (geoPolygonToCellIDs Prod.mk (fun _ => .ok []) (some ⟨pairs xs⟩))) := by
  have hsplit : triangleArea.splitOn comma = [[48], [48], [48], [49], [49], [49]] := by decide
  have hg : InGrammar parseDigit triangleArea := by
    refine ⟨by decide, by decide, fun f hf => ?_⟩
    obtain rfl | rfl : f = [48] ∨ f = [49] := by simpa [hsplit] using hf
    · exact ⟨0, rfl⟩
    · exact ⟨1, rfl⟩
  exact ⟨parseDigit_nil, hg, by decide, by decide,
    areaToCellIDs_eq_geoPolygonToCellIDs parseDigit Prod.mk (fun _ => .ok []) parseDigit_nil
      triangleArea hg (by decide) 24 (by decide)⟩

theorem areaToCellIDs_eq_fold_triangleArea :
    (Strings.count triangleArea comma + 1) % 2 = 0 ∧
      3 ≤ (Strings.count triangleArea comma + 1) / 2 ∧ 2 * triangleArea.length + 2 ≤ 24 ∧
      areaToCellIDs parseDigit Prod.mk (fun _ => .ok []) 24 triangleArea =
        some (.ok (((scannedFields triangleArea).takeWhile
          fun f => f.length < maxScanTokenSize).foldlM
            (fun v t => areaStep parseDigit Prod.mk t v) ⟨0, 0, [], 0⟩ >>= fun _ => .ok [])) :=
  ⟨by decide, by decide, by decide,
    areaToCellIDs_eq_fold parseDigit Prod.mk (fun _ => .ok []) triangleArea (by decide)
      (by decide) 24 (by decide)⟩

/-! ## A trailing comma -/

/-- The area `0,0,0,1,1,1,5,`: eight fields, of which the last is empty. -/
def trailingCommaArea : List UInt8 := [48, 44, 48, 44, 48, 44, 49, 44, 49, 44, 49, 44, 53, 44]

/-- **A string outside the grammar reaches `Covering`.**  `0,0,0,1,1,1,5,` has eight fields, so
the comma count lets it through, but its last field is empty, which `ParseFloat` refuses; the
scanner does not yield that field, the `5` it does yield waits for a longitude that never comes,
and `AreaToCellIDs` answers whatever `GeoPolygonToCellIDs` answers for the triangle of the first
three points, an error or not as `Covering` decides. -/
theorem area_outside_grammar_reaches_covering {Point : Type}
    (parseFloat : List UInt8 → Except Err Float) (pointFromLatLng : Float → Float → Point)
    (covering : List Point → Except Err CellUnion)
    (h0 : parseFloat [48] = .ok 0) (h1 : parseFloat [49] = .ok 1) (h5 : parseFloat [53] = .ok 5)
    (hempty : ∀ x, parseFloat [] ≠ .ok x) (fuel : Nat) (hfuel : 30 ≤ fuel) :
    ¬InGrammar parseFloat trailingCommaArea ∧
      areaToCellIDs parseFloat pointFromLatLng covering fuel trailingCommaArea =
        some (.ok (geoPolygonToCellIDs pointFromLatLng covering
          (some ⟨[⟨0, 0⟩, ⟨0, 1⟩, ⟨1, 1⟩]⟩))) := by
  refine ⟨fun ⟨_, _, h⟩ => ?_, ?_⟩
  · obtain ⟨x, hx⟩ := h [] (by decide)
    exact hempty x hx
  · have hts := texts_newScanner_singleton trailingCommaArea fuel
      (by simp [trailingCommaArea]; omega)
    have hfields : ((scannedFields trailingCommaArea).takeWhile
        fun f => f.length < maxScanTokenSize) = [[48], [48], [48], [49], [49], [49], [53]] := by
      decide
    have t0 : Strings.trimSpace [48] = [48] := rfl
    have t1 : Strings.trimSpace [49] = [49] := rfl
    have t5 : Strings.trimSpace [53] = [53] := rfl
    rw [areaToCellIDs_of_texts _ _ _ (by decide) (by decide) (hfields ▸ hts)]
    simp [List.foldlM_cons, areaStep, t0, t1, t5, h0, h1, h5, bind, Except.bind, pure,
      Except.pure, geoPolygonToCellIDs]

theorem area_outside_grammar_reaches_covering_parseDigit :
    parseDigit [48] = .ok 0 ∧ parseDigit [49] = .ok 1 ∧ parseDigit [53] = .ok 5 ∧
      (∀ x, parseDigit [] ≠ .ok x) ∧ 30 ≤ 30 ∧
      (¬InGrammar parseDigit trailingCommaArea ∧
        areaToCellIDs parseDigit Prod.mk (fun _ => .ok []) 30 trailingCommaArea =
          some (.ok (geoPolygonToCellIDs Prod.mk (fun _ => .ok [])
            (some ⟨[⟨0, 0⟩, ⟨0, 1⟩, ⟨1, 1⟩]⟩)))) :=
  ⟨rfl, rfl, rfl, parseDigit_nil, le_rfl,
    area_outside_grammar_reaches_covering parseDigit Prod.mk (fun _ => .ok []) rfl rfl rfl
      parseDigit_nil 30 le_rfl⟩

end Geo
end DssStore
