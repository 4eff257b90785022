import CrateState.Relational.Scope
import CrateState.Relational.Accumulate

/-!
# Window functions

A window function is computed for every row of a query (after `WHERE`, grouping and
`HAVING`) from its partition: the rows with equal partition terms, in the order of the
ordering terms (ties keep their order). Rows that order equally are peers.

* `row_number()` is the row's place, `rank()` its first peer's, `dense_rank()` the number
  of peer groups up to its own, `percent_rank()` `(rank - 1) / (rows - 1)` (0 for one
  row), `cume_dist()` the share of the partition up to its last peer.
* `ntile(n)` splits the partition into `n` parts whose sizes differ by at most one, the
  larger first.
* `lag(x, k, d)` and `lead(x, k, d)` are `x` of the row `k` (default 1) places before or
  after, or `d` (default `NULL`) when there is none.
* `first_value(x)`, `last_value(x)`, `nth_value(x, n)` and the aggregates read the frame.

## Frames

A frame runs from a start to an end, counted in rows (`ROWS`), values of the one ordering
term (`RANGE`) or peer groups (`GROUPS`). The default is `RANGE BETWEEN UNBOUNDED
PRECEDING AND CURRENT ROW`: the partition up to the row's last peer (all of it without
ordering terms). Under `RANGE` the current row stands for its peers, and an offset `k`
reaches the values within `k` of the row's (a non-number is not moved; `NULL` reaches its
peers). `EXCLUDE` then drops the current row, its peers, or its peers but itself.
-/

namespace CrateState

namespace Relational

/-- The window functions that are not aggregates. -/
inductive Ranking where
  /-- `row_number()` -/
  | rowNumber
  /-- `rank()` -/
  | rank
  /-- `dense_rank()` -/
  | denseRank
  /-- `percent_rank()` -/
  | percentRank
  /-- `cume_dist()` -/
  | cumeDist
  /-- `ntile(n)` -/
  | ntile
  /-- `lag(x[, k[, d]])` -/
  | lag
  /-- `lead(x[, k[, d]])` -/
  | lead
  /-- `first_value(x)` -/
  | firstValue
  /-- `last_value(x)` -/
  | lastValue
  /-- `nth_value(x, n)` -/
  | nthValue
  deriving DecidableEq, Repr

/-- The window function a (lowercased) name names. -/
def Ranking.ofName? : String → Option Ranking
  | "row_number" => some .rowNumber
  | "rank" => some .rank
  | "dense_rank" => some .denseRank
  | "percent_rank" => some .percentRank
  | "cume_dist" => some .cumeDist
  | "ntile" => some .ntile
  | "lag" => some .lag
  | "lead" => some .lead
  | "first_value" => some .firstValue
  | "last_value" => some .lastValue
  | "nth_value" => some .nthValue
  | _ => none

/-- A function computed over a window. -/
inductive WindowFn where
  /-- A window function proper. -/
  | ranking (r : Ranking)
  /-- An aggregate over the frame. -/
  | aggregate (a : Aggregate)

/-- One end of a frame, its offset computed. -/
inductive FrameEnd where
  /-- The start of the partition. -/
  | unboundedPreceding
  /-- An offset before the current row. -/
  | preceding (k : SqlValue)
  /-- The current row (under `RANGE` and `GROUPS`, its peers). -/
  | currentRow
  /-- An offset after the current row. -/
  | following (k : SqlValue)
  /-- The end of the partition. -/
  | unboundedFollowing

/-- A frame with its offsets computed. -/
structure FrameSpec where
  /-- What it counts in. -/
  unit : FrameUnit
  start : FrameEnd
  /-- Its end. -/
  finish : FrameEnd
  /-- What it leaves out. -/
  exclude : FrameExclude

/-- The frame of a window that has none. -/
def FrameSpec.standard : FrameSpec := ⟨.range, .unboundedPreceding, .currentRow, .noOthers⟩

/-- What a window function reads of a row. -/
structure WindowRow where
  /-- The values of the partition terms. -/
  partition : List SqlValue
  /-- The values of the ordering terms. -/
  order : List SqlValue
  /-- The arguments. -/
  args : List SqlValue
  /-- Whether `FILTER` lets the row into an aggregate. -/
  counted : Bool

instance : Inhabited WindowRow := ⟨⟨[], [], [], false⟩⟩

/-- How a window orders: each ordering term's collation, whether it descends and where
its `NULL`s go. -/
abbrev OrderSpec := List (Collation × Bool × Option Bool)

/-- The sort key of a row's ordering values. -/
def orderKey (spec : OrderSpec) (vals : List SqlValue) :
    List (SqlValue × Collation × Bool × Option Bool) :=
  vals.zip spec

/-- The integer a value reads as where an integer is required, if it is one exactly: an
integer, a double with no fraction, or a text that spells either. -/
def exactInteger? (v : SqlValue) : Option Int :=
  match v.asNumber true with
  | .int i => some i
  | .real f => exactInt f
  | _ => none

/-- The 64-bit integer a value reads as. -/
def integerOf (v : SqlValue) : Int := v.toInt

/-- A value moved by an offset, forward or back: numbers move, other values stay. -/
def shiftValue (v k : SqlValue) (forward : Bool) : SqlValue :=
  match v with
  | .int _ | .real _ => (if forward then Arith.add else Arith.sub).apply v k
  | _ => v

/-- The peer groups of a partition in order: for each row its group, and for each group
its first and last row. -/
def peerGroups (spec : OrderSpec) (rows : Array WindowRow) : Array Nat × Array (Nat × Nat) :=
  let (groupOf, bounds) := (List.range rows.size).foldl (fun (acc : Array Nat × Array (Nat × Nat)) j =>
    let (groupOf, bounds) := acc
    let same := j > 0 &&
      compareKeys (orderKey spec (rows[j - 1]!.order)) (orderKey spec (rows[j]!.order)) == .eq
    if same then
      let g := bounds.size - 1
      (groupOf.push g, bounds.set! g ((bounds[g]!).1, j))
    else (groupOf.push bounds.size, bounds.push (j, j))) (#[], #[])
  (groupOf, bounds)

/-- Whether row `i` of a partition falls on the near side of a `RANGE` end set at an
offset from row `j`'s value: at or after it for a start, at or before it for an end. -/
def rangeReach (spec : OrderSpec) (rows : Array WindowRow) (j i : Nat) (k : SqlValue)
    (backward isStart : Bool) : Bool :=
  let term := spec.headD (.binary, false, none)
  let v := (rows[j]!.order).headD .null
  let desc := term.2.1
  -- preceding moves against the order: down for ascending, up for descending
  let target := shiftValue v k (backward == desc)
  let c := compareKeys [((rows[i]!.order).headD .null, term)] [(target, term)]
  if isStart then c != .lt else c != .gt

/-- The rows of the frame of row `j` of a partition, in order. -/
def frameRows (spec : OrderSpec) (frame : FrameSpec) (rows : Array WindowRow)
    (groupOf : Array Nat) (bounds : Array (Nat × Nat)) (j : Nat) : List Nat :=
  let m := rows.size
  let g := groupOf[j]!
  let (first, last) := bounds[g]!
  let nullValue := ((rows[j]!.order).headD .null).isNull
  let startOk (i : Nat) : Bool :=
    match frame.unit, frame.start with
    | _, .unboundedPreceding => true
    | .rows, .currentRow => i ≥ j
    | .rows, .preceding k => i + (integerOf k).toNat ≥ j
    | .rows, .following k => i ≥ j + (integerOf k).toNat
    | .groups, .currentRow => groupOf[i]! ≥ g
    | .groups, .preceding k => groupOf[i]! + (integerOf k).toNat ≥ g
    | .groups, .following k => groupOf[i]! ≥ g + (integerOf k).toNat
    | .range, .currentRow => i ≥ first
    | .range, .preceding k => if nullValue then i ≥ first else rangeReach spec rows j i k true true
    | .range, .following k => if nullValue then i ≥ first else rangeReach spec rows j i k false true
    | _, .unboundedFollowing => false
  let endOk (i : Nat) : Bool :=
    match frame.unit, frame.finish with
    | _, .unboundedFollowing => true
    | .rows, .currentRow => i ≤ j
    | .rows, .preceding k => i + (integerOf k).toNat ≤ j
    | .rows, .following k => i ≤ j + (integerOf k).toNat
    | .groups, .currentRow => groupOf[i]! ≤ g
    | .groups, .preceding k => groupOf[i]! + (integerOf k).toNat ≤ g
    | .groups, .following k => groupOf[i]! ≤ g + (integerOf k).toNat
    | .range, .currentRow => i ≤ last
    | .range, .preceding k => if nullValue then i ≤ last else rangeReach spec rows j i k true false
    | .range, .following k => if nullValue then i ≤ last else rangeReach spec rows j i k false false
    | _, .unboundedPreceding => false
  let kept (i : Nat) : Bool :=
    match frame.exclude with
    | .noOthers => true
    | .currentRow => i != j
    | .group => groupOf[i]! != g
    | .ties => i == j || groupOf[i]! != g
  (List.range m).filter fun i => startOk i && endOk i && kept i

def WindowRow.arg (r : WindowRow) (k : Nat) : SqlValue := r.args.getD k .null

/-- The value of a window function for row `j` of a partition. -/
def windowValue (fn : WindowFn) (coll : Collation) (spec : OrderSpec) (frame : FrameSpec)
    (rows : Array WindowRow) (groupOf : Array Nat) (bounds : Array (Nat × Nat)) (j : Nat) :
    Except SqlError SqlValue :=
  let m := rows.size
  let g := groupOf[j]!
  let (first, last) := bounds[g]!
  let here := rows[j]!
  let inFrame := fun (_ : Unit) => frameRows spec frame rows groupOf bounds j
  match fn with
  | .ranking .rowNumber => .ok (.int (j + 1))
  | .ranking .rank => .ok (.int (first + 1))
  | .ranking .denseRank => .ok (.int (g + 1))
  | .ranking .percentRank =>
    .ok (.real (if m ≤ 1 then 0 else Float.ofNat first / Float.ofNat (m - 1)))
  | .ranking .cumeDist => .ok (.real (Float.ofNat (last + 1) / Float.ofNat m))
  | .ranking .ntile =>
    let n := integerOf (rows[0]!.arg 0)
    if n ≤ 0 then .error (.general "argument of ntile must be a positive integer")
    else
      let n := n.toNat
      let size := m / n
      if size == 0 then .ok (.int (j + 1))
      else
        let large := m - n * size
        let small := large * (size + 1)
        .ok (.int (if j < small then 1 + j / (size + 1) else 1 + large + (j - small) / size))
  | .ranking .lag | .ranking .lead =>
    let fallback := here.arg 2
    let offset : Option Int := if here.args.length < 2 then some 1 else exactInteger? (here.arg 1)
    match offset with
    | none => .ok fallback
    | some k =>
      let target : Int := if fn matches .ranking .lag then j - k else j + k
      if 0 ≤ target && target < m then .ok (rows[target.toNat]!.arg 0) else .ok fallback
  | .ranking .firstValue =>
    .ok (match inFrame () with
      | i :: _ => rows[i]!.arg 0
      | [] => .null)
  | .ranking .lastValue =>
    .ok (match (inFrame ()).getLast? with
      | some i => rows[i]!.arg 0
      | none => .null)
  | .ranking .nthValue =>
    match exactInteger? (here.arg 1) with
    | some n =>
      if n ≤ 0 then .error (.general "second argument to nth_value must be a positive integer")
      else
        .ok (match (inFrame ())[n.toNat - 1]? with
          | some i => rows[i]!.arg 0
          | none => .null)
    | none => .error (.general "second argument to nth_value must be a positive integer")
  | .aggregate agg =>
    let counted := (inFrame ()).filter fun i => rows[i]!.counted
    agg.finish false coll (counted.map fun i => rows[i]!.args)

/-! ## Walking a frame

An aggregate over a frame without `EXCLUDE` is computed the way the database computes it:
three cursors walk the partition, one adding the rows that enter the frame (`step`), one
taking out the rows that leave it (`inverse`) and one returning the rows with the value
the aggregate has at that moment (`emit`). The moves depend on the frame's ends, are made
as the rows arrive and again once the partition is complete, and under `RANGE` and
`GROUPS` a move covers a whole group of peers. An offset end of a `ROWS` or `GROUPS`
frame is a countdown: the move it guards is skipped, and the count lowered, while the
count is above 0. An offset end of a `RANGE` frame compares the ordering value of the
rows under the cursors, moved by the offset. The order of these moves is what the
aggregates of `Accumulate` see, which is why their values can differ from those of the
rows in the frame.
-/

/-- A move of the frame walk. -/
inductive WalkMove where
  /-- Add the row under the end cursor. -/
  | step
  /-- Take out the row under the start cursor. -/
  | inverse
  /-- Return the row under the current cursor with the aggregate's value. -/
  | emit
  deriving DecidableEq

/-- The countdown or offset a move is guarded by: that of the frame's start or end. -/
inductive WalkGuard where
  | start
  | finish
  deriving DecidableEq

/-- What the walk over one partition reads. -/
structure WalkSetup where
  agg : Aggregate
  /-- The collation its argument compares by. -/
  coll : Collation
  /-- The window's ordering. -/
  spec : OrderSpec
  frame : FrameSpec
  /-- The rows of the partition in order. -/
  rows : Array WindowRow
  /-- The peer group of each row. -/
  groupOf : Array Nat

/-- Where the walk stands. -/
structure WalkState where
  start : Nat := 0
  current : Nat := 0
  finish : Nat := 0
  /-- The countdowns of the frame's start and end. -/
  startCount : Int := 0
  finishCount : Int := 0
  /-- The aggregate's running state. -/
  acc : Accumulator
  /-- The value returned for each row. -/
  values : Array SqlValue
  /-- The first error met. -/
  error : Option SqlError := none

/-- The offset of a frame end, if it has one. -/
def FrameEnd.offset? : FrameEnd → Option SqlValue
  | .preceding k | .following k => some k
  | _ => none

/-- Whether two frame ends are of the same kind. -/
def FrameEnd.sameKind : FrameEnd → FrameEnd → Bool
  | .unboundedPreceding, .unboundedPreceding | .currentRow, .currentRow
  | .unboundedFollowing, .unboundedFollowing | .preceding _, .preceding _
  | .following _, .following _ => true
  | _, _ => false

/-- Whether a frame end is an offset after the current row. -/
def FrameEnd.isFollowing : FrameEnd → Bool
  | .following _ => true
  | _ => false

/-- Whether a frame end is an offset before the current row. -/
def FrameEnd.isPreceding : FrameEnd → Bool
  | .preceding _ => true
  | _ => false

/-- The comparisons a `RANGE` test makes. -/
inductive RangeOp where
  | ge
  | gt
  | le
  | lt
  deriving DecidableEq

/-- Whether an order holds the way a comparison asks. -/
def RangeOp.holds : RangeOp → Ordering → Bool
  | .ge, o => o != .lt
  | .gt, o => o == .gt
  | .le, o => o != .gt
  | .lt, o => o == .lt

namespace WalkSetup

def size (w : WalkSetup) : Nat := w.rows.size

def peer (w : WalkSetup) (i j : Nat) : Bool := w.groupOf.getD i 0 == w.groupOf.getD j 1

/-- Whether a move covers a group of peers rather than one row. -/
def byGroup (w : WalkSetup) : Bool := w.frame.unit != .rows

def offset (w : WalkSetup) : WalkGuard → SqlValue
  | .start => (w.frame.start.offset?).getD .null
  | .finish => (w.frame.finish.offset?).getD .null

/-- The `RANGE` test between two rows: whether the ordering value of row `a`, moved by
`k` (forward for an ascending order, back for a descending one, and only when it is a
number), stands to that of row `b` as `op` asks (turned around for a descending order).
`NULL`s are equal to each other and below everything else, unless the order puts them
where they do not go by default, and then they are above. -/
def rangeTest (w : WalkSetup) (op : RangeOp) (a : Nat) (k : SqlValue) (b : Nat) : Bool :=
  let (coll, desc, nulls) := w.spec.headD (.binary, false, none)
  let op := if desc then
      match op with
      | .ge => RangeOp.le
      | .gt => .lt
      | .le => .ge
      | .lt => .gt
    else op
  let v1 := ((w.rows.getD a default).order).headD .null
  let v2 := ((w.rows.getD b default).order).headD .null
  let bigNull := match nulls with
    | some first => first == desc
    | none => false
  let compareNulls (x y : SqlValue) : Ordering :=
    match x.isNull, y.isNull with
    | true, true => .eq
    | true, false => .lt
    | false, true => .gt
    | false, false => SqlValue.compareWith coll x y
  let final (x : SqlValue) : Bool := op.holds (compareNulls x v2)
  let numeric (x : SqlValue) : Bool := match x with
    | .int _ | .real _ => true
    | _ => false
  let arith (x : SqlValue) : SqlValue := (if desc then Arith.sub else Arith.add).apply x k
  let early : Bool :=
    numeric v1 && !v2.isNull && ((op == .ge && !desc) || (op == .le && desc)) &&
      op.holds (SqlValue.compareWith .binary v1 v2)
  if bigNull && v1.isNull then
    match op with
    | .ge => true
    | .gt => !v2.isNull
    | .le => v2.isNull
    | .lt => false
  else if bigNull && v2.isNull then !(op == .gt || op == .ge)
  else
    match v1 with
    | .text _ | .blob _ => final v1
    | _ => early || final (arith v1)

/-- The value of the aggregate now, with the error it meets kept. -/
def valueNow (w : WalkSetup) (st : WalkState) : WalkState × SqlValue :=
  match st.acc.value w.agg w.coll with
  | .ok v => (st, v)
  | .error e => ({ st with error := st.error.orElse fun _ => some e }, .null)

/-- Makes a move at its cursor and moves the cursor on. -/
def apply (w : WalkSetup) (move : WalkMove) (v : SqlValue) (st : WalkState) : WalkState :=
  let argsOf (i : Nat) : Option (List SqlValue) :=
    match w.rows[i]? with
    | some r => if r.counted then some r.args else none
    | none => none
  match move with
  | .step =>
    let acc := match argsOf st.finish with
      | some args => st.acc.step args
      | none => st.acc
    { st with acc, finish := st.finish + 1 }
  | .inverse =>
    let acc := match argsOf st.start with
      | some args => st.acc.inverse args
      | none => st.acc
    { st with acc, start := st.start + 1 }
  | .emit => { st with values := st.values.setIfInBounds st.current v, current := st.current + 1 }

/-- The position of the cursor a move uses. -/
def cursor (move : WalkMove) (st : WalkState) : Nat :=
  match move with
  | .step => st.finish
  | .inverse => st.start
  | .emit => st.current

def count (st : WalkState) : WalkGuard → Int
  | .start => st.startCount
  | .finish => st.finishCount

/-- Lowers the countdown of a guard by one. -/
def lower (st : WalkState) : WalkGuard → WalkState
  | .start => { st with startCount := st.startCount - 1 }
  | .finish => { st with finishCount := st.finishCount - 1 }

/-- Makes a move over the `n` rows that have arrived, `guard` guarding it, and answers
whether its cursor ran past the last row while `stopAtEnd` asks for it to be told;
`newest` is the number of rows while they are still arriving. The move covers one row, or
under `RANGE` and `GROUPS` a group of peers; a `RANGE` guard is tested again after each
group. -/
def move (w : WalkSetup) (mv : WalkMove) (guard : Option WalkGuard) (stopAtEnd : Bool)
    (n : Nat) (newest : Option Nat) : Nat → WalkState → WalkState × Bool
  | 0, st => (st, stopAtEnd)
  | fuel + 1, st =>
    if mv == .inverse && w.frame.start matches .unboundedPreceding then (st, false)
    else
      -- the guard
      let skip : Option WalkState :=
        match guard with
        | none => none
        | some g =>
          if w.frame.unit == .range then
            let k := w.offset g
            let held := match mv with
              | .inverse =>
                if w.frame.start.isFollowing then w.rangeTest .le st.current k st.start
                else w.rangeTest .ge st.start k st.current
              | _ => w.rangeTest .gt st.finish k st.current
            if held then some st else none
          else if count st g > 0 then some (lower st g) else none
      match skip with
      | some st => (st, false)
      | none =>
        let (st, v) := if mv == .emit then w.valueNow st else (st, .null)
        let sameEnds := w.frame.start.sameKind w.frame.finish && guard.isSome &&
          w.frame.unit == .range
        -- the rows of one group, one after another
        let rec group : Nat → WalkState → WalkState × Option Bool
          | 0, st => (st, some stopAtEnd)
          | g + 1, st =>
            let blocked :=
              sameEnds && st.finish < n &&
                ((mv == .inverse && st.start ≥ st.finish) ||
                  (mv == .step && (newest.map fun k => decide (st.finish + 1 ≥ k)).getD false))
            if blocked then (st, some false)
            else
              let st := w.apply mv v st
              let pos := cursor mv st
              if pos ≥ n then (st, some stopAtEnd)
              else if w.byGroup && w.peer (pos - 1) pos then group g st
              else if w.frame.unit == .range && guard.isSome then (st, none)
              else (st, some false)
        match group (w.size + 1) st with
        | (st, some atEnd) => (st, atEnd)
        | (st, none) => w.move mv guard stopAtEnd n newest fuel st

/-- Repeats a pair of moves until the first reports the end of the rows; answers whether
it was the first (`true`) or the second that did. -/
def loop (w : WalkSetup) (first second : WalkState → WalkState × Bool) :
    Nat → WalkState → WalkState × Bool
  | 0, st => (st, true)
  | fuel + 1, st =>
    let (st, ended) := first st
    if ended then (st, true)
    else
      let (st, ended) := second st
      if ended then (st, false) else w.loop first second fuel st

/-- The values of the aggregate for every row of the partition. -/
def values (w : WalkSetup) : Except SqlError (List SqlValue) :=
  let m := w.size
  let fuel := 4 * m + 8
  let frame := w.frame
  let countOf (e : FrameEnd) : Int := ((e.offset?).map integerOf).getD 0
  let st0 : WalkState :=
    { acc := Accumulator.empty w.agg, values := Array.replicate m .null,
      startCount := countOf frame.start, finishCount := countOf frame.finish }
  let emptyFrame :=
    frame.unit != .range && frame.start.sameKind frame.finish && frame.start.offset?.isSome &&
      (if frame.start.isFollowing then st0.finishCount < st0.startCount
       else st0.finishCount > st0.startCount)
  if m == 0 then .ok []
  else if emptyFrame then
    (List.replicate m (Accumulator.empty w.agg)).mapM (·.value w.agg w.coll)
  else
    let st0 :=
      if frame.start.isFollowing && frame.unit != .range && frame.finish.offset?.isSome then
        { st0 with startCount := st0.finishCount - st0.startCount }
      else st0
    let startGuard : Option WalkGuard := frame.start.offset?.map fun _ => .start
    let finishGuard : Option WalkGuard := frame.finish.offset?.map fun _ => .finish
    let unbounded := frame.finish matches .unboundedFollowing
    let bothBefore := frame.start.isPreceding && frame.unit == .range
    -- while the rows arrive: the moves made when row `n - 1` arrives
    let arriving (st : WalkState) (n : Nat) : WalkState :=
      if w.byGroup && w.peer (n - 2) (n - 1) then st
      else
        let mv (m' : WalkMove) (g : Option WalkGuard) (st : WalkState) :=
          (w.move m' g false n (some n) fuel st).1
        if frame.start.isFollowing then
          let st := mv .step none st
          if unbounded then st
          else if frame.unit == .range then
            let rec repeatRange : Nat → WalkState → WalkState
              | 0, st => st
              | f + 1, st =>
                if w.rangeTest .ge st.current (w.offset .finish) st.finish then st
                else repeatRange f (mv .emit none (mv .inverse startGuard st))
            repeatRange fuel st
          else mv .inverse startGuard (mv .emit finishGuard st)
        else if frame.finish.isPreceding then
          let st := mv .step finishGuard st
          let st := if bothBefore then mv .inverse startGuard st else st
          let st := mv .emit none st
          if bothBefore then st else mv .inverse startGuard st
        else
          let st := mv .step none st
          if unbounded then st
          else if frame.unit == .range then
            match finishGuard with
            | some _ =>
              let rec repeatRangeEnd : Nat → WalkState → WalkState
                | 0, st => st
                | f + 1, st =>
                  if w.rangeTest .ge st.current (w.offset .finish) st.finish then st
                  else repeatRangeEnd f (mv .inverse startGuard (mv .emit none st))
              repeatRangeEnd fuel st
            | none => mv .inverse startGuard (mv .emit none st)
          else
            match finishGuard with
            | some _ =>
              if st.finishCount > 0 then { st with finishCount := st.finishCount - 1 }
              else mv .inverse startGuard (mv .emit none st)
            | none => mv .inverse startGuard (mv .emit none st)
    let st := (List.range (m + 1)).drop 2 |>.foldl arriving st0
    -- once the partition is complete
    let mv (m' : WalkMove) (g : Option WalkGuard) (stop : Bool) (st : WalkState) :=
      w.move m' g stop m none fuel st
    let st :=
      if frame.finish.isPreceding then
        let st := (mv .step finishGuard false st).1
        let st := if bothBefore then (mv .inverse startGuard false st).1 else st
        (mv .emit none false st).1
      else if frame.start.isFollowing then
        let st := (mv .step none false st).1
        let (st, emitEnded) :=
          if frame.unit == .range then
            let (st, firstEnded) := w.loop (mv .inverse startGuard true) (mv .emit none true) fuel st
            (st, !firstEnded)
          else if unbounded then w.loop (mv .emit startGuard true) (mv .inverse none true) fuel st
          else w.loop (mv .emit finishGuard true) (mv .inverse startGuard true) fuel st
        if emitEnded then st
        else w.loop (mv .emit none true) (fun st => (st, false)) fuel st |>.1
      else
        let st := (mv .step none false st).1
        (w.loop (mv .emit none true) (fun st => ((mv .inverse startGuard false st).1, false)) fuel st).1
    match st.error with
    | some e => .error e
    | none => .ok st.values.toList

end WalkSetup

/-- The values of a window function for rows given in the order they came: the values in
that order, and the order of the rows in the window (partition after partition). -/
def windowColumn (fn : WindowFn) (coll : Collation) (partitionColls : List Collation)
    (spec : OrderSpec) (frame : FrameSpec) (rows : List WindowRow) :
    Except SqlError (List SqlValue × List Nat) := do
  let keyOf (r : WindowRow) : List (SqlValue × Collation × Bool × Option Bool) :=
    (r.partition.zip partitionColls).map (fun (v, c) => (v, c, false, none)) ++ orderKey spec r.order
  let sorted := sortStable (fun (a b : Nat × WindowRow) => compareKeys (keyOf a.2) (keyOf b.2))
    (rows.zipIdx.map fun (r, i) => (i, r))
  -- partitions: runs of equal partition terms
  let samePartition (a b : WindowRow) : Bool :=
    compareRows partitionColls a.partition b.partition == .eq
  let parts := sorted.foldl (fun (acc : List (List (Nat × WindowRow))) x =>
    match acc with
    | (y :: ys) :: rest => if samePartition y.2 x.2 then (x :: y :: ys) :: rest else [x] :: acc
    | _ => [x] :: acc) []
  let parts := (parts.map List.reverse).reverse
  let valued ← parts.mapM fun part => do
    let arr := (part.map (·.2)).toArray
    let (groupOf, bounds) := peerGroups spec arr
    let vals ← match fn, frame.exclude with
      | .aggregate agg, .noOthers => (WalkSetup.mk agg coll spec frame arr groupOf).values
      | _, _ => (List.range arr.size).mapM (windowValue fn coll spec frame arr groupOf bounds)
    pure ((part.map (·.1)).zip vals)
  let all := valued.flatten
  let values := (List.range rows.length).map fun i =>
    ((all.find? (·.1 == i)).map (·.2)).getD .null
  pure (values, all.map (·.1))

end Relational

end CrateState
