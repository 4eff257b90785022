import CrateState.Relational.Function

/-!
# Aggregates over a moving frame

Over a window frame the database keeps one running state, adding each row entering the
frame and taking out each leaving it (`Accumulator.step`, `Accumulator.inverse`), and reads
it for every row (`Accumulator.value`). Mostly the state is that of the frame's rows, but
two aggregates keep traces of their history:

* `sum`, `total` and `avg` keep the running `Sum`: once a double entered, the sum stays a
  double after it left, and taking a value out adds its negation to the compensated sum.
* `group_concat` and `string_agg` keep the text so far. Taking a value out cuts its length
  and one separator's from the front: the first value's separator length while all had
  it, else the lengths recorded one by one. Text come out empty starts the state over, so
  the next value gets no separator, and empty text reads as `NULL`.

The others keep the frame's rows, entering at its end and leaving from its start.
-/

namespace CrateState

namespace Relational

namespace Sum

/-- Takes a value out of the sum: the count goes down, an integer comes off the exact
sum while it is exact (an overflow makes it a double sum), and otherwise the negated value
is added to the compensated sum. -/
def remove (s : Sum) (v : SqlValue) : Sum :=
  let v := match v with
    | .text _ | .blob _ => v.asNumber false
    | v => v
  match v with
  | .null => s
  | .int i =>
    let s := { s with count := s.count - 1 }
    if !s.approx then
      if fitsInt (s.whole - i) then { s with whole := s.whole - i }
      else { s with overflow := true, approx := true }
    else if i == minInt then (s.addInt maxInt).addInt 1
    else s.addInt (-i)
  | v =>
    let s := { s with count := s.count - 1 }
    if !s.approx then { s with whole := s.whole - v.toInt }
    else s.addFloat (-v.toFloat)

end Sum

def SqlValue.textBytes : SqlValue → List UInt8
  | .null => []
  | .text s => utf8Bytes s
  | .blob b => b.toList
  | v => utf8Bytes v.textD

/-- The state of `group_concat` over a moving frame. -/
structure Concat where
  /-- The text built so far. -/
  text : List UInt8 := []
  /-- Whether the state is new or has come out empty, so that the next value goes in
  with no separator. -/
  fresh : Bool := true
  /-- The number of values in the text. -/
  count : Nat := 0
  /-- The length of the separator given with the first value. -/
  firstSep : Nat := 0
  /-- The lengths of the separators between the values, once one differed from
  `firstSep`. -/
  seps : Option (List Nat) := none

namespace Concat

/-- Adds a value (`NULL` is skipped) with its separator (`none` when the call has one
argument, meaning a comma). -/
def step (c : Concat) (v : SqlValue) (sep : Option SqlValue) : Concat :=
  if v.isNull then c
  else
    let first := c.fresh
    let c := { c with fresh := false }
    let c : Concat :=
      match sep with
      | none => if first then { c with firstSep := 1 } else { c with text := c.text ++ [44] }
      | some s =>
        if first then { c with firstSep := s.textBytes.length }
        else
          let bytes := s.textBytes
          let c := { c with text := c.text ++ bytes }
          if bytes.length != c.firstSep || c.seps.isSome then
            let kept := match c.seps with
              | none => List.replicate (c.count - 1) c.firstSep
              | some l => (l ++ List.replicate c.count 0).take (c.count - 1)
            if c.count > 0 then { c with seps := some (kept ++ [bytes.length]) }
            else { c with seps := some kept }
          else c
    { c with count := c.count + 1, text := c.text ++ v.textBytes }

/-- Takes the first value out (`NULL` is skipped): its length and that of one separator
are cut from the front of the text. -/
def inverse (c : Concat) (v : SqlValue) : Concat :=
  if v.isNull then c
  else
    let count := c.count - 1
    let (cut, seps) := match c.seps with
      | some l => if count > 0 then (v.textBytes.length + l.headD 0, some l.tail) else (v.textBytes.length, some l)
      | none => (v.textBytes.length + c.firstSep, none)
    let text := if cut ≥ c.text.length then [] else c.text.drop cut
    if text.isEmpty then { c with count, text, fresh := true, seps := none }
    else { c with count, text, seps }

/-- The text built, `NULL` when it is empty. -/
def value (c : Concat) : SqlValue := if c.text.isEmpty then .null else .text (utf8Text c.text)

end Concat

/-- The running state of an aggregate over a moving frame. -/
inductive Accumulator where
  /-- For `sum`, `total` and `avg`. -/
  | sum (s : Sum)
  /-- For `group_concat` and `string_agg`. -/
  | concat (c : Concat)
  /-- For the others: the argument lists of the rows in the frame. -/
  | rows (rows : List (List SqlValue))

namespace Accumulator

/-- The state before any row. -/
def empty : Aggregate → Accumulator
  | .sum | .total | .avg => .sum {}
  | .groupConcat => .concat {}
  | _ => .rows []

def step (acc : Accumulator) (args : List SqlValue) : Accumulator :=
  match acc with
  | .sum s => .sum (s.add (args.headD .null))
  | .concat c => .concat (c.step (args.headD .null) args[1]?)
  | .rows rs => .rows (rs ++ [args])

/-- Takes out the arguments of the row that entered first. -/
def inverse (acc : Accumulator) (args : List SqlValue) : Accumulator :=
  match acc with
  | .sum s => .sum (s.remove (args.headD .null))
  | .concat c => .concat (c.inverse (args.headD .null))
  | .rows rs => .rows rs.tail

/-- The value of the aggregate now; `coll` is the collation its argument compares by. -/
def value (agg : Aggregate) (coll : Collation) (acc : Accumulator) : Except SqlError SqlValue :=
  match acc with
  | .sum s =>
    match agg with
    | .total => .ok (.real s.toFloat)
    | .avg => if s.count = 0 then .ok .null else .ok (.real (s.toFloat / Float.ofNat s.count))
    | _ =>
      if s.count = 0 then .ok .null
      else if s.approx then
        if s.overflow then .error (.general "integer overflow") else .ok (.real s.toFloat)
      else .ok (.int s.whole)
  | .concat c => .ok c.value
  | .rows rs => agg.finish false coll rs

end Accumulator

end Relational

end CrateState
