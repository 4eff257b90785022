import CrateState.Relational.Schema

/-!
# The planner's estimates

The planner compares estimated costs. Without `ANALYZE` statistics every estimate comes
from the schema alone:

* a table holds about a million rows;
* a column's width, in units of about four bytes, is one with no type or a numeric one,
  five for a text or blob type, a quarter of the size plus one with a size (`VARCHAR(100)`);
* a row is as wide as its columns plus one for an unnamed row id, an index entry as wide
  as its columns;
* each further index column a search fixes narrows the rows by a fixed factor, and a
  unique index's full key to one row.

Counts and costs are on a logarithmic scale, ten times the base-two logarithm, rounded:
adding `10` doubles a quantity, `33` multiplies it by about ten. Plans whose costs round
alike tie, and a tie goes to the plan found first.
-/

namespace CrateState

namespace Relational

namespace Plan

/-- A count or a cost on the planner's logarithmic scale: ten times its base-two
logarithm. -/
abbrev LogEst := Int

/-- The fractional parts the scale gives the numbers from 8 to 15. -/
def fractionSteps : List Int := [0, 2, 3, 5, 6, 7, 8, 9]

/-- A count on the logarithmic scale: `0` for 0 and 1, `10` for 2, `33` for 10, `200` for
a million (2^20). The count is cut to its four leading bits, whose value from 8 to 15 gives
the fraction. -/
def logEst (x : Nat) : LogEst :=
  if x < 2 then 0
  else if x < 8 then
    let (y, base) := if x < 4 then (x * 4, 10) else (x * 2, 20)
    fractionSteps.getD (y % 8) 0 + base
  else
    let shift := Nat.log2 x - 3
    fractionSteps.getD ((x >>> shift) % 8) 0 + 30 + 10 * shift

/-- What adding the smaller of two quantities adds to the larger, by how far apart they
are on the scale. -/
def sumSteps : List Int :=
  [10, 10, 9, 9, 8, 8, 7, 7, 7, 6, 6, 6, 5, 5, 5, 4, 4, 4, 4, 3, 3, 3, 3, 3, 3,
   2, 2, 2, 2, 2, 2, 2]

/-- The sum of two quantities on the scale: the larger, raised by a step that shrinks as
the two grow apart and vanishes past a factor of about thirty. -/
def logEstAdd (a b : LogEst) : LogEst :=
  let (hi, lo) := if a ≥ b then (a, b) else (b, a)
  if hi > lo + 49 then hi
  else if hi > lo + 31 then hi + 1
  else hi + sumSteps.getD (hi - lo).toNat 0

/-- The logarithm of a count given on the scale, itself on the scale: what a binary
search through that many rows costs. -/
def estLog (n : LogEst) : LogEst :=
  if n ≤ 10 then 0 else logEst n.toNat - 33

/-- The rows a table is taken to hold: about a million. -/
def tableRows : LogEst := 200

/-- Reads a declared type as the planner does, a letter at a time, watching the last four
letters: `CHAR`, `CLOB` and `TEXT` make it text, `BLOB` a blob (unless a numeric word came
first), `REAL`, `FLOA` and `DOUB` real, and `INT` an integer type, which ends the reading.
Answers whether the type is a text or blob type, and the letters after the last `CHAR`
(or after a `BLOB` directly followed by a bracket), where a size may be written. -/
def readType : List Char → List Char → Affinity → Option (List Char) →
    Affinity × Option (List Char)
  | [], _, aff, sized => (aff, sized)
  | c :: rest, seen, aff, sized =>
    let window := (seen ++ [c]).drop (seen.length + 1 - 4)
    let last4 := String.ofList window
    let last3 := String.ofList (window.drop (window.length - 3))
    if last4 == "char" then readType rest window .text (some rest)
    else if last4 == "clob" || last4 == "text" then readType rest window .text sized
    else if last4 == "blob" && (aff == .numeric || aff == .real) then
      readType rest window .blob (if rest.head? == some '(' then some rest else sized)
    else if (last4 == "real" || last4 == "floa" || last4 == "doub") && aff == .numeric then
      readType rest window .real sized
    else if last3 == "int" then (.integer, sized)
    else readType rest window aff sized

/-- The size written in a type, read from its first digit: at most ten digits, leading
zeros aside, and no more than the largest 32-bit integer; `0` otherwise. -/
def writtenSize (cs : List Char) : Nat :=
  let digits := (cs.dropWhile (!·.isDigit)).dropWhile (· == '0') |>.takeWhile Char.isDigit
  if digits.length > 10 then 0
  else
    let v := digits.foldl (fun acc d => acc * 10 + (d.toNat - '0'.toNat)) 0
    if v > 2147483647 then 0 else v

/-- The planner's guess at the width of a column, in units of about four bytes. A type
named exactly `TEXT` or `BLOB` is five units and one named exactly `INT`, `INTEGER`, `REAL`
or `ANY` one, as is a column without a type. Otherwise a text or blob type is a quarter of
its written size plus one, or five units when it has no size after its last `CHAR`; any
other type is one unit. No column is guessed wider than 255 units. -/
def Column.widthEstimate (c : Column) : Nat :=
  let named := c.declared.toUpper
  if c.declared.isEmpty then 1
  else if named == "TEXT" || named == "BLOB" then 5
  else if ["ANY", "INT", "INTEGER", "REAL"].contains named then 1
  else
    let (aff, sized) := readType (c.declared.toList.map Char.toLower) [] .numeric none
    let v := if aff == .text || aff == .blob then
        match sized with
        | some rest => writtenSize rest
        | none => 16
      else 0
    min (v / 4 + 1) 255

/-- The width of a table's rows on the scale (of four times the units): its columns' widths
and one more for a row id that no column names. -/
def Table.rowWidth (t : Table) : LogEst :=
  let extra := if t.rowidColumn.isNone then 1 else 0
  logEst (4 * ((t.columns.map Column.widthEstimate).foldr (· + ·) 0 + extra))

/-- The rows each key prefix of an index is taken to pick out, on the scale: all the
table's rows (half of them for a partial index), then about 10, 9, 8, 7 and 6 rows for one
to five leading columns and 5 rows for each longer prefix, except that the full key of a
unique index picks out a single row. Positions past the key read as `0`. -/
def rowEstimates (keyCount : Nat) (unique isPartial : Bool) : List LogEst :=
  let first := if isPartial then tableRows - 10 else tableRows
  let steps := (List.range keyCount).map fun i => [33, 32, 30, 28, 26].getD i 23
  let steps := if unique && keyCount > 0 then steps.set (keyCount - 1) 0 else steps
  first :: steps

end Plan

end Relational

end CrateState
