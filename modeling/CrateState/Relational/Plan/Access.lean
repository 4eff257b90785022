import CrateState.Relational.Plan.Estimate

/-!
# Choosing how to read a table

A query over one table reads its rows through one *access path*: the table in row-id order
(primary-key order without row ids), or one of its indexes, possibly backwards. The path
orders the rows for all that follows: unordered results, aggregates, scalar subqueries, and
ties under an `ORDER BY`.

The planner keeps the cheapest of these loops: a full scan (three times the rows); a full
scan of an index that covers the query more narrowly than the table, or whose order may
serve the `ORDER BY`; and searches fixing an index's leading columns by `=`, `IS`, `IN` or
`IS NULL` terms, possibly bounding the next column. A fixed column narrows the rows by its
`rowEstimates` factor, a range bound fourfold, a `LIKE` or `GLOB` prefix sixty-fourfold.
A loop costs a binary search and a step per entry, plus a lookup per entry when the index
lacks a column read, plus a sort when its order leaves the `ORDER BY`, `GROUP BY` or
`DISTINCT` unsatisfied. A candidate replaces a kept one only when strictly better; loops
are tried with the row id first, then the indexes, newest first.
-/

namespace CrateState

namespace Relational

namespace Plan

/-- How a `WHERE` term constrains a column. -/
inductive Operator where
  /-- `=` or `==` -/
  | eq
  /-- `IS` -/
  | is
  /-- `IS NULL` -/
  | isNull
  /-- `<` -/
  | lt
  /-- `<=` -/
  | le
  /-- `>` -/
  | gt
  /-- `>=` -/
  | ge
  /-- `IN` a list of this many values. -/
  | inList (size : Nat)
  /-- `IN` a subquery. -/
  | inQuery
  deriving DecidableEq, Repr, Inhabited

/-- Whether an operator is `IN`. -/
def Operator.isIn : Operator → Bool
  | .inList _ | .inQuery => true
  | _ => false

/-- A column an index keeps, or a part of an entry: the row id, a column of the table by
position, an expression some index of the table keeps (by its position among them), or
another expression. -/
inductive Part where
  /-- The row id. -/
  | rowid
  /-- A column of the table. -/
  | column (k : Nat)
  /-- The `k`-th expression the indexes of the table keep. -/
  | indexed (k : Nat)
  | expr
  deriving DecidableEq, Repr, Inhabited

/-- Whether a part is the row id or a column. -/
def Part.isColumn : Part → Bool
  | .rowid | .column _ => true
  | _ => false

/-- A conjunct of a `WHERE` clause as the planner reads it, or a term the planner derived
from one (a bound of a `BETWEEN`, a `LIKE` prefix, the other side of a comparison). -/
structure Term where
  /-- The column the term constrains and how, when an index can use it. -/
  target : Option (Part × Operator) := none
  /-- The collation the comparison uses, which an index column must share. -/
  collation : Collation := .binary
  /-- Whether the comparison's affinity lets an index on the column answer it. -/
  affinityOk : Bool := true
  /-- The probability the term holds, on the scale less `270`, when `likelihood` gives
  one; `1` when none is given. -/
  truth : LogEst := 1
  /-- Whether the value compared with is an integer literal from -1 to 1, which the
  planner takes to match more rows. -/
  small : Bool := false
  /-- Whether the term is a bound derived from a `LIKE` or `GLOB` prefix: the upper bound
  is only used with the lower. -/
  likeBound : Bool := false
  /-- Whether the term is the bound `> NULL` derived from `IS NOT NULL`, which narrows
  nothing. -/
  nullBound : Bool := false
  /-- The term this one was derived from, when it stands in for the whole of it. -/
  parent : Option Nat := none
  /-- Whether the term was derived rather than written. -/
  derived : Bool := false
  /-- Whether the term reads the table. -/
  reads : Bool := false
  /-- The columns of the table the term reads outside subqueries. -/
  columns : List Nat := []
  /-- The table of the join whose column the term constrains, by position. -/
  table : Nat := 0
  /-- The tables of the join the value compared with reads, which must be read first. -/
  prereq : List Nat := []
  /-- The tables of the join the conjunct reads (with, for a term of an outer join's `ON`
  clause, the table on that join's right). -/
  tables : List Nat := []
  /-- For a term of an `ON` or `USING` clause, the table on that join's right. -/
  onJoin : Option Nat := none
  /-- Whether the term comes from the `ON` or `USING` clause of an outer join. -/
  outerOn : Bool := false
  /-- The column on the term's left, table and part, when it is one: the column it
  constrains, or the left column of a comparison that cannot constrain it. -/
  left : Option (Nat × Part) := none
  /-- For `=` or `IS` between two columns that compare alike (of one affinity, or both
  numeric, and under one collation), the column on the right: what constrains one of them
  constrains the other. -/
  equivTo : Option (Nat × Part) := none
  /-- The value compared with, when it is a column. -/
  rightColumn : Option (Nat × Part) := none
  /-- The conjunct the term comes from. -/
  origin : Nat := 0
  deriving Inhabited

/-- Whether a term is a usable `=` or `IS` on some column. -/
def Term.isEquality (t : Term) : Bool :=
  match t.target with
  | some (_, .eq) | some (_, .is) => true
  | _ => false

/-- A column of an index entry: what it holds, its collation, whether it sorts
descending, and whether it is never `NULL`. -/
structure ProbeColumn where
  /-- What it holds. -/
  part : Part
  /-- The collation it sorts by. -/
  collation : Collation := .binary
  /-- Whether it sorts descending. -/
  desc : Bool := false
  /-- Whether it is never `NULL`. -/
  notNull : Bool := false
  deriving Inhabited

/-- An index as the planner sees it, or the table's own row-id order. -/
structure Probe where
  /-- The columns of an entry in order: the key, then the row id or the primary key
  columns the entry carries. -/
  columns : List ProbeColumn
  /-- How many leading columns form the key. -/
  keyCount : Nat
  /-- Whether this is the table's own row-id order. -/
  byRowid : Bool := false
  /-- Whether no two entries share a key. -/
  unique : Bool := false
  /-- Whether the key is unique and never `NULL`. -/
  uniqueNotNull : Bool := false
  /-- Whether this is a primary key's index. -/
  primary : Bool := false
  /-- Whether the index was made for a condition (a partial index). -/
  isPartial : Bool := false
  /-- Whether the index holds every column of its table. -/
  covering : Bool := false
  /-- The rows each key prefix picks out, on the scale. -/
  rows : List LogEst
  /-- The width of an entry, on the scale. -/
  width : LogEst
  /-- The columns of the table the index keeps (for a column that is not generated). -/
  kept : List Nat := []
  /-- Whether the query reads the table's columns the index lacks only inside expressions
  the index keeps, so that no entry needs a lookup in the table. -/
  exprCovered : Bool := false
  deriving Inhabited

/-- How the rows a query wants in order are compared: by `ORDER BY`, by `GROUP BY` (any
direction will do) or by the columns of a `DISTINCT` (only grouping matters). -/
inductive OrderMode where
  /-- `ORDER BY` -/
  | orderBy
  /-- `GROUP BY` -/
  | groupBy
  /-- `DISTINCT` -/
  | distinctBy
  deriving DecidableEq, Repr, Inhabited

/-- A term of the ordering the planner tries to deliver. -/
structure OrderTerm where
  /-- The column of the table it is, if it is one (a collation or `likelihood` aside). -/
  part : Option Part := none
  collation : Collation := .binary
  /-- Whether it sorts descending. -/
  desc : Bool := false
  /-- Whether it puts `NULL` values where its direction would not. -/
  bigNull : Bool := false
  /-- Whether it reads the table. -/
  reads : Bool := false
  constant : Bool := false
  deriving Inhabited

/-- One side of an `OR` term, as the planner costs reading its rows on their own: the
side itself, the terms it splits into, how many of them are written, and the probes that
may serve it. -/
structure Branch where
  /-- The side of the `OR`. -/
  expr : Expr
  /-- Its terms: its conjuncts, then the terms derived from them. -/
  terms : List Term
  /-- How many of the terms are written. -/
  written : Nat
  /-- The probes that may serve it. -/
  probes : List Probe
  deriving Inhabited

/-- An `OR` term each side of which some index may serve: its position among the terms
and its sides. -/
structure OrClause where
  /-- The position of the term. -/
  term : Nat
  /-- Its sides. -/
  branches : List Branch
  deriving Inhabited

/-- What the planner knows of the query. -/
structure Query where
  /-- The width of the table's rows, on the scale. -/
  tableWidth : LogEst
  /-- Whether the table has row ids. -/
  hasRowid : Bool
  /-- The terms: the conjuncts of the `WHERE` clause, then those derived from them. -/
  terms : List Term
  /-- How many leading terms were written. -/
  written : Nat
  /-- The columns of the table the query reads. -/
  used : List Nat
  /-- The ordering to deliver, and how it compares. -/
  order : List OrderTerm := []
  /-- How the ordering compares. -/
  mode : OrderMode := .orderBy
  /-- Whether the ordering is a `GROUP BY` that an `ORDER BY` repeats. -/
  sortByGroup : Bool := false
  /-- The fixed `LIMIT`, on the scale, when the query has one. -/
  limit : Option LogEst := none
  /-- Whether duplicate rows are dropped. -/
  distinct : Bool := false
  /-- The number of result columns. -/
  results : Nat := 1
  /-- Whether an `IN` term the loop searches by fixes its column for the ordering, as it
  does for the ordering `min` and `max` read by. -/
  orderLimit : Bool := false
  /-- The `OR` terms whose sides may each be read through an index. -/
  ors : List OrClause := []
  /-- Whether the rows are read to be changed, so that no whole index is read in place of
  the table. -/
  writes : Bool := false
  /-- The position of the table in the `FROM` clause. -/
  self : Nat := 0
  /-- The tables every loop over this one must come after: those an outer or `CROSS` join
  keeps before it. -/
  mPrereq : List Nat := []
  /-- Whether the table is on either side of an outer join (or left of a `RIGHT JOIN`),
  where only its own join's `ON` terms may drive a search. -/
  outerJoin : Bool := false
  /-- Whether the table is the right side of a `LEFT` or `RIGHT` join, where no term of
  an inner join's `ON` clause may drive a search. -/
  outerSide : Bool := false
  /-- Whether the planner may build an automatic index on the table for the join. -/
  autoIndex : Bool := false
  deriving Inhabited

/-- A candidate loop: a probe, the terms it searches by, and its cost. -/
structure Loop where
  /-- The probe's position. -/
  probe : Nat
  /-- The position that keeps loops apart that may serve the ordering (`0` when the probe
  cannot). -/
  sortIndex : Nat := 0
  /-- The terms it uses, by position. -/
  terms : List Nat := []
  /-- How many leading columns it fixes. -/
  fixed : Nat := 0
  /-- Whether it reads the table in row-id order. -/
  byRowid : Bool := false
  /-- Whether it reads an index. -/
  indexed : Bool := false
  /-- Whether the index holds every column read. -/
  indexOnly : Bool := false
  /-- Whether the index holds every expression read, so that no entry needs a lookup. -/
  exprIndexed : Bool := false
  /-- Whether a term fixes a column with `=` or `IS`. -/
  hasEq : Bool := false
  /-- Whether a term fixes a column with `IN`. -/
  hasIn : Bool := false
  /-- Whether a term fixes a column with `IS NULL`. -/
  hasNull : Bool := false
  /-- Whether a range bounds a column. -/
  hasRange : Bool := false
  /-- Whether the range has a lower bound. -/
  bottom : Bool := false
  /-- Whether the range has an upper bound. -/
  top : Bool := false
  /-- Whether it reads at most one row. -/
  oneRow : Bool := false
  /-- Its cost, on the scale. -/
  run : LogEst := 0
  /-- The rows it gives, on the scale. -/
  out : LogEst := 0
  /-- For a loop that reads the rows of each side of an `OR` term in turn, the term's
  position. -/
  orTerm : Option Nat := none
  /-- The position of its table in the `FROM` clause. -/
  table : Nat := 0
  /-- The tables that must be read before it, for the values its terms compare with. -/
  prereq : List Nat := []
  /-- The one-off cost of building the automatic index it searches, on the scale. -/
  setup : LogEst := 0
  /-- Whether it searches an automatic index built for the join. -/
  auto : Bool := false
  deriving Inhabited

/-- Whether every table of `xs` is among `ys`. -/
def tablesWithin (xs ys : List Nat) : Bool := xs.all (ys.contains ·)

/-- Whether a term may drive a search of the table: outside outer joins any term may;
on a side of one only a term of that join's own `ON` clause, and on the right of a `LEFT`
or `RIGHT` join only one of an outer join's. -/
def Query.joinAllows (q : Query) (t : Term) : Bool :=
  !q.outerJoin || (t.onJoin == some q.self && !(q.outerSide && !t.outerOn))

/-! ## Candidate loops -/

/-- The rows a loop gives once the terms it does not use are counted: each narrows them a
little (by its `likelihood` when it has one), and the output never exceeds the table less
a margin for an `=` term (more when the value is a small integer). Only written terms that
read the table count, and not one the loop uses or stands for through a derived term. -/
def Query.adjustOutput (q : Query) (l : Loop) (rows : LogEst) : Loop :=
  let uses (j : Nat) : Bool :=
    l.terms.any fun i => i == j || ((q.terms.getD i default).parent == some j)
  let (out, reduce) := (q.terms.take q.written).zipIdx.foldl (fun (out, reduce) (t, j) =>
    if !t.tables.contains q.self || !t.tables.all (fun k => k == q.self || l.prereq.contains k) ||
        t.derived || uses j then (out, reduce)
    else if t.truth ≤ 0 then (out + t.truth, reduce)
    else
      let k : LogEst := if t.small then 10 else 20
      (out - 1, if t.isEquality && reduce < k then k else reduce)) (l.out, 0)
  { l with out := if out > rows - reduce then rows - reduce else out }

/-- Whether loop `x` uses fewer terms than loop `y`, all of them among `y`'s, without
costing more in both time and rows, and reads the table only if `y` does too: then `y`
should not look worse than `x`. -/
def properSubset (x y : Loop) : Bool :=
  x.terms.length < y.terms.length &&
  !(x.run > y.run && x.out > y.out) &&
  x.terms.all (y.terms.contains ·) &&
  !(x.indexOnly && !y.indexOnly)

/-- A loop's cost made consistent with the loops kept: no worse than a loop using a
subset of its terms, no better than one using a superset. -/
def adjustCost (kept : List Loop) (l : Loop) : Loop :=
  if !l.indexed then l
  else kept.foldl (fun l p =>
    if !p.indexed then l
    else if properSubset p l then
      { l with run := min p.run l.run, out := min (p.out - 1) l.out }
    else if properSubset l p then
      { l with run := max p.run l.run, out := max (p.out + 1) l.out }
    else l) l

/-- How a candidate loop stands against a kept loop that may serve the ordering alike. -/
inductive Standing where
  /-- Neither makes the other pointless. -/
  | apart
  /-- The kept loop makes the candidate pointless. -/
  | beaten
  /-- The candidate makes the kept loop pointless. -/
  | supplants

/-- How candidate `l` stands against kept loop `p`. A search of an index by `=` beats an
automatic index that needs every table it needs. Otherwise the kept loop wins when it
needs no table the candidate does not and costs no more to build or run and gives no more
rows; the candidate wins when it needs no table the kept loop does not and costs no more
to run and gives no more rows. -/
def Loop.against (l p : Loop) : Standing :=
  if p.auto && l.indexed && l.hasEq && tablesWithin l.prereq p.prereq then .supplants
  else if tablesWithin p.prereq l.prereq && p.setup ≤ l.setup && p.run ≤ l.run && p.out ≤ l.out then
    .beaten
  else if tablesWithin l.prereq p.prereq && p.run ≥ l.run && p.out ≥ l.out then .supplants
  else .apart

/-- Drops the loops after the first that a candidate supplants, up to one that beats it;
loops that may serve the ordering differently are left alone. -/
def dropSupplanted (l : Loop) : List Loop → List Loop
  | [] => []
  | p :: rest =>
    if p.sortIndex != l.sortIndex then p :: dropSupplanted l rest
    else
      match l.against p with
      | .beaten => p :: rest
      | .supplants => dropSupplanted l rest
      | .apart => p :: dropSupplanted l rest

/-- Adds a candidate to the loops kept: it is dropped when a comparable kept loop beats
it; otherwise it takes the place of the first comparable loop it supplants (and the later
ones it supplants go), or else joins the end. -/
def insertLoop (kept : List Loop) (l : Loop) : List Loop :=
  let l := adjustCost kept l
  let rec go : List Loop → Option (List Loop)
    | [] => some [l]
    | p :: rest =>
      if p.sortIndex != l.sortIndex then (go rest).map (p :: ·)
      else
        match l.against p with
        | .beaten => none
        | .supplants => some (l :: dropSupplanted l rest)
        | .apart => (go rest).map (p :: ·)
  (go kept).getD kept

/-- Whether a term found for column `c` of an index can serve it: for a column of the
table compared other than by `IS NULL`, with a usable affinity and the column's
collation. -/
def Term.serves (t : Term) (c : ProbeColumn) : Bool :=
  match t.target with
  | some (_, op) =>
    c.part != Part.expr &&
      (match c.part with
        | .column _ => op == .isNull || (t.affinityOk && t.collation == c.collation)
        | _ => true)
  | none => false

/-- The terms that may constrain a part of the table, in the order the planner finds
them, with their positions: those on the part itself, then those on each column found
equal to it through an `=` between columns (but none from an outer join's `ON` clause
there), up to ten such columns, each with an operator allowed. A term that only equates
the part with itself through another column is left out. -/
def Query.scanTerms (q : Query) (part : Part) (allowed : Operator → Bool) : List (Term × Nat) :=
  let origin := (q.self, part)
  let numbered := q.terms.zipIdx
  let rec visit : Nat → Nat → List (Nat × Part) → List (Term × Nat) → List (Term × Nat)
    | 0, _, _, found => found
    | fuel + 1, k, equiv, found =>
      match equiv[k]? with
      | none => found
      | some col =>
        let (equiv, found) := numbered.foldl (fun (equiv, found) (t, i) =>
          let left := t.left.orElse fun _ => t.target.map fun (p, _) => (t.table, p)
          if left != some col || (k > 0 && t.outerOn) then (equiv, found)
          else
            let equiv := match t.equivTo with
              | some r => if equiv.length < 11 && !equiv.contains r then equiv ++ [r] else equiv
              | none => equiv
            match t.target with
            | some (_, op) =>
              if !allowed op then (equiv, found)
              else if (op == .eq || op == .is) && t.rightColumn == some origin then (equiv, found)
              else (equiv, found ++ [(t, i)])
            | none => (equiv, found)) (equiv, found)
        visit fuel (k + 1) equiv found
  visit 12 0 [origin] []

/-- The rows a range leaves of `out`, on the scale: each bound quarters them (a bound
with a `likelihood` narrows by it instead, and `> NULL` not at all), a range bounded on
both sides is quartered once more, and at least one row in a thousand is kept. -/
def rangeOutput (lower upper : Option Term) (out : LogEst) : LogEst :=
  let adjust (t : Option Term) (n : LogEst) : LogEst :=
    match t with
    | some t => if t.truth ≤ 0 then n + t.truth else if t.nullBound then n else n - 20
    | none => n
  let narrowed := adjust upper (adjust lower out)
  let narrowed := match lower, upper with
    | some l, some u => if l.truth > 0 && u.truth > 0 then narrowed - 20 else narrowed
    | _, _ => narrowed
  let out := out - (if lower.isSome then 1 else 0) - (if upper.isSome then 1 else 0)
  let narrowed := if narrowed < 10 then 10 else narrowed
  if narrowed < out then narrowed else out

/-- The loops that search probe `pi` by its leading columns, from a loop that already
fixes some of them (`tmpl`, with `mul` the rows its `IN` terms multiply by): for each term
that serves the next column, the loop that adds it, then the loops that continue from
there. -/
def Query.searchLoops (q : Query) (p : Probe) (ins : List Loop → Loop → List Loop) :
    Nat → Loop → LogEst → List Loop → List Loop
  | 0, _, _, kept => kept
  | fuel + 1, tmpl, mul, kept =>
    let col := p.columns.getD tmpl.fixed default
    let allowed : Operator → Bool :=
      if tmpl.bottom then fun op => op == .lt || op == .le else fun _ => true
    let size := p.rows.getD 0 0
    let logSize := estLog size
    (q.scanTerms col.part allowed).foldl (fun kept (t, i) =>
      if !t.serves col then kept
      else
        match t.target with
        | none => kept
        | some (_, op) =>
          if (op == .isNull || t.nullBound) && col.notNull then kept
          else if t.prereq.contains q.self then kept
          else if t.likeBound && op == .lt then kept
          else if !q.joinAllows t then kept
          else
            let prereq := (tmpl.prereq ++ t.prereq.filter (!tmpl.prereq.contains ·)).filter (· != q.self)
            let base := { tmpl with terms := tmpl.terms ++ [i], prereq }
            let nIn : LogEst := match op with
              | .inList n => logEst n
              | .inQuery => 46
              | _ => 0
            let isRowidCol := col.part == .rowid
            let isRealCol := match col.part with
              | .column _ => true
              | _ => false
            let base := match op with
              | .inList _ | .inQuery => { base with hasIn := true }
              | .eq | .is =>
                let one := (isRowidCol || (isRealCol && mul == 0 && tmpl.fixed + 1 == p.keyCount)) &&
                  (isRowidCol || p.uniqueNotNull || (p.keyCount == 1 && p.unique && op == Operator.eq))
                { base with hasEq := true, oneRow := base.oneRow || one }
              | .isNull => { base with hasNull := true }
              | .gt | .ge =>
                let withTop := t.likeBound
                { base with
                  hasRange := true, bottom := true, top := withTop,
                  terms := if withTop then base.terms ++ [i + 1] else base.terms }
              | .lt | .le => { base with hasRange := true, top := true }
            let l : Loop :=
              if base.hasRange && !tmpl.hasRange || (op == .gt || op == .ge || op == .lt || op == .le) then
                let (lower, upper) : Option Term × Option Term := match op with
                  | .gt | .ge =>
                    (some t, if t.likeBound then some (q.terms.getD (i + 1) default) else none)
                  | _ =>
                    (if tmpl.bottom then tmpl.terms.getLast?.map (q.terms.getD · default) else none,
                      some t)
                { base with out := rangeOutput lower upper tmpl.out }
              else
                let fixed := tmpl.fixed + 1
                let out :=
                  if t.truth ≤ 0 && isRealCol then tmpl.out + t.truth - nIn
                  else tmpl.out + (p.rows.getD fixed 0 - p.rows.getD tmpl.fixed 0) +
                    (if op == .isNull then 10 else 0)
                { base with fixed, out }
            let scanCost : LogEst :=
              if p.byRowid then l.out + 16 else l.out + 1 + (15 * p.width) / q.tableWidth
            let run := logEstAdd logSize scanCost
            let run := if l.indexOnly || l.exprIndexed || l.byRowid then run else logEstAdd run (l.out + 16)
            let unadjusted := l.out
            let candidate := q.adjustOutput { l with run := run + mul + nIn, out := l.out + mul + nIn } size
            let kept := ins kept candidate
            let next := { l with out := if l.hasRange then tmpl.out else unadjusted, run := run }
            if !next.top && next.fixed < p.columns.length && (next.fixed < p.keyCount || !p.primary) then
              q.searchLoops p ins fuel next (mul + nIn) kept
            else kept) kept

/-- Whether a probe's order may serve the ordering: some ordering term is the row id or a
key column of the probe. -/
def Query.mightServeOrder (q : Query) (p : Probe) : Bool :=
  q.order.any fun o =>
    match o.part with
    | some .rowid => true
    | some (.column k) => (p.columns.take p.keyCount).any (·.part == .column k)
    | some (.indexed k) => (p.columns.take p.keyCount).any (·.part == .indexed k)
    | _ => false

/-- The loops that search an automatic index the join would build on the table, one for
each term that may drive it: an `=` or `IS` on a column of the table, compared under a
usable affinity, whose value does not read the table. Building the index costs about
seven times the rows times their logarithm; each search is taken to give twenty rows. -/
def Query.autoLoops (q : Query) : List Loop :=
  let size := tableRows
  let logSize := estLog size
  q.terms.zipIdx.filterMap fun (t, i) =>
    match t.target with
    | some (.column _, op) =>
      if t.table == q.self && (op == .eq || op == .is) && t.affinityOk &&
          !t.prereq.contains q.self && q.joinAllows t then
        some { probe := 0, terms := [i], fixed := 1, auto := true, table := q.self,
               setup := max 0 (logSize + size + 28), out := 43, run := logEstAdd logSize 43,
               prereq := q.mPrereq ++ t.prereq.filter (!q.mPrereq.contains ·) }
      else none
    | _ => none

/-- The candidate loops over the probes, in the order the planner finds them, each offered
to the loops kept so far by `ins`: for a table of a join that may have one, the automatic
index searches first. -/
def Query.loopsWith (q : Query) (probes : List Probe) (ins : List Loop → Loop → List Loop) :
    List Loop :=
  let start := if q.autoIndex then q.autoLoops.foldl ins [] else []
  let mPrereq := q.mPrereq
  probes.zipIdx.foldl (fun kept (p, pi) =>
    let sortIndex := pi + 1
    let size := p.rows.getD 0 0
    let helps := q.mightServeOrder p
    let sortIndex := if helps then sortIndex else 0
    let fuel := 2 * p.columns.length + 2
    if p.byRowid then
      let scan : Loop :=
        { probe := pi, sortIndex, byRowid := true, run := size + 16, out := size, prereq := mPrereq }
      let kept := ins kept (q.adjustOutput scan size)
      q.searchLoops p ins fuel
        { probe := pi, sortIndex, byRowid := true, out := size, prereq := mPrereq } 0 kept
    else
      let missing := if p.covering || p.exprCovered then [] else q.used.filter (!p.kept.contains ·)
      let indexOnly := missing.isEmpty && !p.exprCovered
      let tmpl : Loop :=
        { probe := pi, sortIndex, indexed := true, indexOnly, exprIndexed := p.exprCovered, out := size,
          prereq := mPrereq }
      let kept :=
        if helps || !q.hasRowid || p.isPartial ||
            (missing.isEmpty && p.width < q.tableWidth && !q.writes) then
          let run := size + 1 + (15 * p.width) / q.tableWidth
          let run :=
            if missing.isEmpty then run
            else
              let covered (t : Term) : Bool := t.columns.all (p.kept.contains ·)
              let lookups := (q.terms.takeWhile covered).foldl (fun n t =>
                if t.truth ≤ 0 then n + t.truth
                else n - 1 - (if t.isEquality then 19 else 0)) (size + 16)
              logEstAdd run lookups
          ins kept (q.adjustOutput { tmpl with run } size)
        else kept
      q.searchLoops p ins fuel tmpl 0 kept) start

/-- The cheapest way to read one side of an `OR` on its own, as its cost and rows: the
cheapest loop over the side's terms that uses at least one of them, its rows lowered to
those of any cheaper loop found before it. Loop costs are first made consistent with the
full scans of indexes kept for the whole query. -/
def Query.branchCost (q : Query) (kept : List Loop) (b : Branch) : Option (LogEst × LogEst) :=
  let sub : Query := { q with terms := b.terms, written := b.written, ors := [] }
  let scans := kept.filter (·.terms.isEmpty)
  let found := sub.loopsWith b.probes fun acc l => acc ++ [adjustCost scans l]
  (found.filter (!·.terms.isEmpty)).foldl (fun acc l =>
    match acc with
    | none => some (l.run, l.out)
    | some (run, out) => if l.run ≤ run then some (l.run, min out l.out) else acc) none

/-- All candidate loops over the probes, in the order the planner finds them: those of
each probe, then, for each `OR` term, one that reads each side through its cheapest loop
and drops the rows already read, costing a little more than the sum of its sides. -/
def Query.loops (q : Query) (probes : List Probe) : List Loop :=
  let kept := q.loopsWith probes insertLoop
  q.ors.foldl (fun kept oc =>
    let total := oc.branches.foldl (fun (acc : Option (Option (LogEst × LogEst))) b =>
      match acc with
      | some sum =>
        match q.branchCost kept b, sum with
        | some (run, out), none => some (some (run, out))
        | some (run, out), some (r, o) => some (some (logEstAdd r run, logEstAdd o out))
        | none, _ => none
      | none => none) (some none)
    match total with
    | some (some (run, out)) =>
      insertLoop kept { probe := 0, terms := [oc.term], orTerm := some oc.term, run := run + 1, out }
    | _ => kept) kept

/-! ## Delivering an ordering -/

/-- The first term that fixes a column to a constant with one of the operators allowed,
preferring `=` and `IS`, with its position. -/
def Query.fixingTerm (q : Query) (part : Part) (allowed : Operator → Bool) : Option (Term × Nat) :=
  let found := q.terms.zipIdx.filter fun (t, _) =>
    match t.target with
    | some (p, op) => p == part && allowed op
    | none => false
  match found.find? (·.1.isEquality) with
  | some t => some t
  | none => found.head?

/-- How many leading terms of the ordering a loop delivers: all of them (the ordering's
length), `-1` when its rows are distinct in the ordering so far but some terms are left,
or else the longest satisfied prefix. Also whether the probe is read backwards to deliver
a descending order. -/
def Query.satisfies (q : Query) (probes : List Probe) (mode : OrderMode) (l : Loop) :
    Int × Bool := Id.run do
  let n := q.order.length
  let eqOps : Operator → Bool := fun op =>
    op == .eq || op == .is || op == .isNull || (q.orderLimit && op.isIn)
  let mut sat : List Bool := q.order.map fun _ => false
  -- terms fixed by `=` or `IS NULL` against a constant are delivered by any loop
  for (o, i) in q.order.zipIdx do
    match o.part with
    | some part =>
      if part.isColumn then
        match q.fixingTerm part eqOps with
        | some (t, ti) =>
          let collOk := match part, t.target with
            | .column _, some (_, .eq) | .column _, some (_, .is) => o.collation == t.collation
            | _, some (_, op) => !op.isIn || l.terms.contains ti
            | _, _ => true
          if collOk then sat := sat.set i true
        | none => pure ()
    | none => pure ()
  if !l.oneRow && l.orTerm.isSome then return (0, false)
  let mut distinctOrder := true
  let mut reverse := false
  if !l.oneRow then
    let p := probes.getD l.probe default
    let (cols, keyCount) : List ProbeColumn × Nat :=
      if l.byRowid then ([{ part := .rowid, notNull := true }], 0) else (p.columns, p.keyCount)
    if !l.byRowid then distinctOrder := p.unique
    let mut revSet := false
    let mut rev := false
    let mut distinctColumns := false
    let mut j := 0
    for c in cols do
      let fixedBy : Option Operator :=
        if j < l.fixed then
          match (q.terms.getD (l.terms.getD j 0) default).target with
          | some (_, op) => if eqOps op then some op else none
          | none => none
        else none
      if fixedBy == some .isNull || fixedBy == some .is then distinctOrder := false
      if fixedBy.isNone then
        match c.part with
        | .column _ =>
          if distinctOrder && j ≥ l.fixed && !c.notNull then distinctOrder := false
        | .rowid => pure ()
        | _ => distinctOrder := false
        let mut found : Option Nat := none
        let mut tried := false
        for (o, i) in q.order.zipIdx do
          if found.isNone && !(mode == .orderBy && tried) && !sat.getD i false then
            tried := true
            let same := o.part == some c.part && c.part != Part.expr &&
              (c.part == .rowid || o.collation == c.collation)
            if same then found := some i
        let mut matched := found
        match found with
        | some i =>
          let o := q.order.getD i default
          if mode != .groupBy then
            if revSet then
              if (rev != c.desc) != o.desc then matched := none
            else
              rev := c.desc != o.desc
              revSet := true
              if rev then reverse := true
          if matched.isSome && o.bigNull && j != l.fixed then matched := none
        | none => pure ()
        match matched with
        | some i =>
          if c.part == .rowid then distinctColumns := true
          sat := sat.set i true
        | none =>
          if j == 0 || j < keyCount then distinctOrder := false
          break
      j := j + 1
    if distinctColumns then distinctOrder := true
  if distinctOrder then
    for (o, i) in q.order.zipIdx do
      if !sat.getD i false && (o.reads || o.constant) then sat := sat.set i true
  if sat.all id then return (n, reverse)
  if !distinctOrder then
    let lead := (sat.takeWhile id).length
    return (if lead ≥ n then n else lead, reverse)
  return (-1, reverse)

/-- The cost of sorting the rows of a path that delivers `sorted` leading terms of the
ordering: the rows times a factor for the width of the result, scaled by the share of the
ordering left to sort, times the logarithm of the rows kept (fewer under a `LIMIT` or a
`DISTINCT`). -/
def Query.sortCost (q : Query) (rows : LogEst) (sorted : Nat) : LogEst :=
  let n := q.order.length
  let cost := rows + logEst ((q.results + 59) / 30)
  let cost := if sorted > 0 then cost + logEst ((n - sorted) * 100 / n) - 66 else cost
  let (cost, rows) := match q.limit with
    | some lim =>
      let cost := cost + 10 + (if sorted != 0 then 6 else 0)
      (cost, if lim < rows then lim else rows)
    | none =>
      if q.distinct && rows > 10 then (cost, rows - 10) else (cost, rows)
  cost + estLog rows

/-- A path through the loops: the loop, its cost unsorted and sorted, its rows, how much
of the ordering it delivers and whether it reads backwards. -/
structure Path where
  loop : Loop
  /-- Its cost, sorting included. -/
  cost : LogEst
  /-- Its cost without sorting (less a small bias for paths that need no sort). -/
  unsorted : LogEst
  rows : LogEst
  /-- How much of the ordering it delivers. -/
  ordered : Int
  /-- Whether it reads backwards. -/
  reverse : Bool
  deriving Inhabited

/-- The cheapest path, weighing each loop's cost and, when an ordering is wanted (`rows`
the estimated output), the cost of sorting what it leaves unsorted. A candidate replaces the
kept path only when strictly cheaper, or as cheap with fewer rows, or with equal rows and a
lower unsorted cost; a candidate that differs in whether its order is still open is
compared more coarsely, against the kept path's cost and rows. -/
def Query.bestPath (q : Query) (probes : List Probe) (loops : List Loop) (wantOrder : Bool)
    (rows : LogEst) : Option Path :=
  let n := q.order.length
  loops.foldl (fun (best : Option Path) l =>
    let unsorted := logEstAdd (logEstAdd 0 l.run) 0
    let (ordered, reverse) :=
      if wantOrder && n > 0 then q.satisfies probes q.mode l else (0, false)
    let (cost, unsorted) :=
      if wantOrder && n > 0 && ordered ≥ 0 && ordered < n then
        (logEstAdd unsorted (q.sortCost rows ordered.toNat) + 3, unsorted)
      else (unsorted, unsorted - 2)
    let cand : Path := { loop := l, cost, unsorted, rows := l.out, ordered, reverse }
    match best with
    | none => some cand
    | some b =>
      if (b.ordered < 0) == (ordered < 0) then
        if b.cost < cost || (b.cost == cost && (b.rows < l.out ||
            (b.rows == l.out && b.unsorted ≤ unsorted))) then best
        else some cand
      else if cost > b.cost || (cost == b.cost && unsorted ≥ b.rows) then best
      else some cand) none

/-- How a query over one table reads it: the probe, whether backwards, and how many
leading terms of the ordering the rows arrive in. -/
structure Access where
  /-- The probe's position. -/
  probe : Nat := 0
  /-- Whether it is read backwards. -/
  reverse : Bool := false
  /-- How many leading terms of the ordering the rows arrive in. -/
  ordered : Nat := 0
  /-- For a path that reads the rows of each side of an `OR` term in turn, the term's
  position. -/
  orTerm : Option Nat := none
  deriving Inhabited

/-- The access path the planner chooses: the cheapest loop, found once without regard to
the ordering to estimate the output, and again weighing the cost of sorting. A `GROUP BY`
that an `ORDER BY` repeats may then be read backwards when that delivers the `ORDER BY`
too; the columns of a `DISTINCT` are never delivered backwards. -/
def Query.choose (q : Query) (probes : List Probe) : Access :=
  let loops := q.loops probes
  match q.bestPath probes loops false 0 with
  | none => {}
  | some first =>
    if q.order.isEmpty then { probe := first.loop.probe, orTerm := first.loop.orTerm }
    else
      match q.bestPath probes loops true (first.rows + 1) with
      | none => { probe := first.loop.probe, orTerm := first.loop.orTerm }
      | some best =>
        let ordered := if best.ordered ≤ 0 then 0 else best.ordered.toNat
        let reverse := q.mode == .orderBy && best.reverse
        -- an ordering left to sort may still steer the direction of the scan, counting the
        -- `IN` terms the loop searches by as fixing their columns
        let reverse :=
          if q.mode != .distinctBy && best.ordered ≤ 0 && !best.loop.oneRow &&
              !(best.loop.byRowid && best.loop.hasIn) then
            let (again, rev) := { q with orderLimit := true }.satisfies probes .orderBy best.loop
            if again == q.order.length then rev else reverse
          else reverse
        if q.sortByGroup && ordered == q.order.length then
          let (again, rev) := q.satisfies probes .orderBy best.loop
          if again == q.order.length then
            { probe := best.loop.probe, reverse := rev, ordered, orTerm := best.loop.orTerm }
          else { probe := best.loop.probe, reverse, ordered, orTerm := best.loop.orTerm }
        else { probe := best.loop.probe, reverse, ordered, orTerm := best.loop.orTerm }

end Plan

end Relational

end CrateState
