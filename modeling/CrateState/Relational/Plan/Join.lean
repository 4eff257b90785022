import CrateState.Relational.Plan.Shape

/-!
# Choosing the order of a join

A join reads its tables in nested loops, whose order decides the order of its rows. The
planner offers for each table the loops of `Query.loopsWith`, each needing some tables read
before it (those its terms compare with, and those an outer or `CROSS` join keeps before
it), and builds the order one loop at a time.

At each step it keeps a few of the cheapest partial paths (one for one table, five for two,
ten for more), extending each by every loop whose table is unread and whose prerequisites
are read. A path costs its loops' costs, each run once per row of the loops outside it,
plus setup; no automatic index is built for an outer loop running fewer than about one and
a half times. A candidate replaces a kept path over the same tables when strictly cheaper
(or as cheap with fewer rows, or as many rows and lower cost without the bias of `2`);
otherwise, with the set full, it replaces the dearest path if cheaper. The cheapest complete
path wins, the first found among equals.
-/

namespace CrateState

namespace Relational

namespace Plan

/-- A partial path through the loops of a join. -/
structure JoinPath where
  /-- The loops chosen, outermost first. -/
  loops : List Loop := []
  /-- The tables they read. -/
  tables : List Nat := []
  /-- The rows they give, on the scale. -/
  rows : LogEst := 0
  /-- Their cost, on the scale. -/
  cost : LogEst := 0
  /-- Their cost less the bias toward paths that need no sorting. -/
  unsorted : LogEst := 0
  deriving Inhabited

/-- Whether two lists of tables hold the same tables. -/
def sameTables (xs ys : List Nat) : Bool :=
  xs.length == ys.length && tablesWithin xs ys

/-- The position and the cost and unsorted cost of the dearest of the kept paths: the
first of the greatest cost, among those the greatest unsorted cost, starting from the
first path's cost and its rows. -/
def dearest (paths : List JoinPath) : Nat × LogEst × LogEst :=
  match paths with
  | [] => (0, 0, 0)
  | first :: rest =>
    rest.zipIdx.foldl (fun (i, cost, uns) (p, j) =>
      if p.cost > cost || (p.cost == cost && p.unsorted > uns) then (j + 1, p.cost, p.unsorted)
      else (i, cost, uns)) (0, first.cost, first.rows)

/-- The kept paths with a candidate offered, `room` paths at most, and the position of
the dearest when the set is full. -/
structure PathSet where
  /-- The kept paths. -/
  paths : List JoinPath := []
  /-- The position of the path a candidate replaces when the set is full. -/
  worst : Nat := 0
  /-- The cost of that path. -/
  worstCost : LogEst := 0
  /-- Its unsorted cost (the rows of the first path, when that is the one). -/
  worstUnsorted : LogEst := 0

/-- Offers a candidate path to the kept set. -/
def PathSet.offer (room : Nat) (set : PathSet) (cand : JoinPath) : PathSet :=
  let placed : Option (List JoinPath) :=
    match set.paths.findIdx? (sameTables ·.tables cand.tables) with
    | some j =>
      let p := set.paths.getD j default
      if p.cost < cand.cost || (p.cost == cand.cost &&
          (p.rows < cand.rows || (p.rows == cand.rows && p.unsorted ≤ cand.unsorted))) then none
      else some (set.paths.set j cand)
    | none =>
      if set.paths.length ≥ room && (cand.cost > set.worstCost ||
          (cand.cost == set.worstCost && cand.unsorted ≥ set.worstUnsorted)) then none
      else if set.paths.length < room then some (set.paths ++ [cand])
      else some (set.paths.set set.worst cand)
  match placed with
  | none => set
  | some paths =>
    if paths.length ≥ room then
      let (worst, worstCost, worstUnsorted) := dearest (paths.take room)
      { paths, worst, worstCost, worstUnsorted }
    else { set with paths }

/-- A partial path extended by a loop, when the loop may come next: its table is not yet
read, every table it needs is, and an automatic index is only searched by a loop run at
least about one and a half times. -/
def JoinPath.extend (p : JoinPath) (l : Loop) : Option JoinPath :=
  if !tablesWithin l.prereq p.tables || p.tables.contains l.table then none
  else if l.auto && p.rows < 3 then none
  else
    let unsorted := logEstAdd (logEstAdd l.setup (l.run + p.rows)) p.unsorted
    some { loops := p.loops ++ [l], tables := p.tables ++ [l.table], rows := p.rows + l.out,
           cost := unsorted, unsorted := unsorted - 2 }

/-- The cheapest order of `count` loops drawn from `loops` (the candidates of every table),
starting from `start` rows; `none` when no order reads every table. -/
def solveJoin (loops : List Loop) (count : Nat) (start : LogEst) : Option JoinPath :=
  let room := if count ≤ 1 then 1 else if count == 2 then 5 else 10
  let step (frontier : List JoinPath) : List JoinPath :=
    (frontier.foldl (fun set p =>
      loops.foldl (fun set l =>
        match p.extend l with
        | some cand => set.offer room cand
        | none => set) set) ({} : PathSet)).paths
  let final := (List.range count).foldl (fun paths _ => step paths) [{ rows := start }]
  final.foldl (fun (best : Option JoinPath) p =>
    match best with
    | some b => if b.cost > p.cost then some p else best
    | none => some p) none

/-! ## The tables of a join -/

/-- How a table of a join is joined to the tables before it. -/
structure JoinFlags where
  /-- It is the right side of a `LEFT` or `FULL` join. -/
  left : Bool := false
  /-- It is the right side of a `RIGHT` or `FULL` join. -/
  right : Bool := false
  /-- Its join is outer. -/
  outer : Bool := false
  /-- Its join is a `CROSS JOIN`. -/
  cross : Bool := false
  /-- It stands left of a `RIGHT` or `FULL` join. -/
  leftOfRight : Bool := false
  deriving Inhabited

/-- The flags of a join of a kind. -/
def JoinFlags.ofKind : JoinKind → JoinFlags
  | .inner => {}
  | .cross => { cross := true }
  | .left => { left := true, outer := true }
  | .right => { right := true, outer := true }
  | .full => { left := true, right := true, outer := true }

/-- The flags of the tables of a join, from the kinds of their joins (the first table's
kind is not read): every table before the last `RIGHT` or `FULL` join stands left of it. -/
def joinFlags (kinds : List JoinKind) : List JoinFlags :=
  let flags := kinds.zipIdx.map fun (k, i) => if i == 0 then {} else JoinFlags.ofKind k
  match (flags.zipIdx.filter (·.1.right)).getLast? with
  | some (_, r) => flags.zipIdx.map fun (f, i) => if i < r then { f with leftOfRight := true } else f
  | none => flags

/-- A conjunct of a join's condition: from the `WHERE` clause, or from the `ON` or `USING`
clause of the join with table `onJoin` on its right, outer or not. -/
structure JoinConjunct where
  /-- The conjunct. -/
  expr : Expr
  /-- The table on the right of the join whose `ON` or `USING` clause it comes from. -/
  onJoin : Option Nat := none
  /-- Whether that join is outer. -/
  outer : Bool := false
  deriving Inhabited

/-- Whether an expression, when true, shows that the row of table `k` is not the `NULL`
row of an outer join: a column of `k` reaches its top through operators that give `NULL`
for a `NULL` operand. Tests for `NULL`, `IS`, functions (`LIKE` and `->` among them),
`CASE`, row values and subqueries show nothing; both sides of an `AND` or `OR` must show
it, and for a `BETWEEN` the operand or both bounds. -/
def Scope.showsRow (s : Scope) (k : Nat) : Nat → Expr → Bool
  | 0, _ => false
  | n + 1, e =>
    match e with
    | .column _ _ _ | .quoted _ => (s.locatePlain n e).any (·.1 == k)
    | .binary .and a b | .binary .or a b => s.showsRow k n a && s.showsRow k n b
    | .binary .is _ _ | .binary .isNot _ _ | .binary .extract _ _ | .binary .extractValue _ _ => false
    | .binary _ a b => s.showsRow k n a || s.showsRow k n b
    | .unary _ a | .collate a _ | .cast a _ => s.showsRow k n a
    | .inList a items _ => !items.isEmpty && s.showsRow k n a
    | .between a lo hi _ => s.showsRow k n a || (s.showsRow k n lo && s.showsRow k n hi)
    | _ => false

/-- Whether some conjunct shows that the row of table `k` is never the `NULL` row:
conjuncts of outer joins' `ON` clauses do not count, nor (when `k` stands left of a
`RIGHT JOIN`) those of inner joins'. An `IS NOT NULL` shows it when its operand does. -/
def Scope.impliesRow (s : Scope) (fuel k : Nat) (leftOfRight : Bool) (cs : List JoinConjunct) : Bool :=
  cs.any fun c =>
    !(c.onJoin.isSome && (c.outer || leftOfRight)) &&
      let e := skipCollateAndLikely fuel c.expr
      match nullTestOf e with
      | some (a, false) => s.showsRow k fuel a
      | _ => s.showsRow k fuel e

/-- Turns the conjuncts of the outer join on the right of table `j` into inner ones. -/
def innerOn (j : Nat) (cs : List JoinConjunct) : List JoinConjunct :=
  cs.map fun c => if c.outer && c.onJoin == some j then { c with outer := false } else c

/-- The joins once the conditions make outer ones inner, table by table left to right.
When the conditions show a table's row is never `NULL`, a `LEFT JOIN` on its left becomes
inner (a `FULL JOIN` a `RIGHT JOIN`), and when it stands left of a `RIGHT JOIN`, every
`RIGHT JOIN` after it becomes inner (a `FULL JOIN` a `LEFT JOIN`), and the tables from
the last join still `RIGHT` on no longer stand left of one. -/
def Scope.simplifyJoins (s : Scope) (fuel : Nat) (flags : List JoinFlags) (cs : List JoinConjunct) :
    List JoinFlags × List JoinConjunct :=
  (List.range flags.length).foldl (fun (flags, cs) i =>
    let f := flags.getD i default
    if !(f.left || f.leftOfRight) || !s.impliesRow fuel i f.leftOfRight cs then (flags, cs)
    else
      let (flags, cs) :=
        if f.left then
          if f.right then (flags.set i { f with left := false }, cs)
          else (flags.set i { f with left := false, outer := false }, innerOn i cs)
        else (flags, cs)
      if f.leftOfRight then
        let (flags, cs) := (List.range flags.length).foldl (fun (flags, cs) j =>
          let g := flags.getD j default
          if j ≤ i || !g.right then (flags, cs)
          else if g.left then (flags.set j { g with right := false }, cs)
          else (flags.set j { g with right := false, outer := false }, innerOn j cs)) (flags, cs)
        let last := ((flags.zipIdx.filter (·.1.right)).getLast?.map (·.2)).getD 0
        (flags.zipIdx.map fun (g, j) => if j ≥ last then { g with leftOfRight := false } else g, cs)
      else (flags, cs)) (flags, cs)

/-- The tables each table of a join must follow: after an outer or `CROSS` join, a table
left of a `RIGHT JOIN`, or the table after the right side of a `RIGHT JOIN`, every table
before it; otherwise none, unless the join has a `RIGHT JOIN`, where the tables of the
table before it. -/
def joinPrereqs (flags : List JoinFlags) : List (List Nat) :=
  let (out, _, _, _, _) := flags.zipIdx.foldl
    (fun (acc : List (List Nat) × List Nat × List Nat × Bool × Bool) (f, i) =>
      let (out, prior, prereq, hasRight, pastRight) := acc
      let (prereq, hasRight, pastRight) :=
        if pastRight || f.outer || f.cross || f.leftOfRight then
          (prereq ++ prior.filter (!prereq.contains ·), hasRight || f.leftOfRight, f.right)
        else if !hasRight then ([], hasRight, pastRight)
        else (prereq, hasRight, pastRight)
      (out ++ [prereq], prior ++ [i], prereq, hasRight, pastRight)) ([], [], [], false, false)
  out

/-- The planner's view of one table of a join, and its probes: the terms of every conjunct of
the join's condition read from this table, each marked with the join whose `ON` or `USING`
clause it comes from (an outer join's term also needs that join's right table and equates no
columns; an inner join's term reading a table right of that join counts as a `WHERE` term),
the table's columns the query reads, and how the table is joined. A table left of a
`RIGHT JOIN` uses no partial index. -/
def Scope.joinQuery (s : Scope) (fuel : Nat) (cs : List JoinConjunct) (reads : List Expr)
    (mPrereq : List Nat) (f : JoinFlags) : Query × List (Probe × Option Index) :=
  let conjuncts := cs.map (·.expr)
  let terms := (s.terms fuel conjuncts).map fun t =>
    let c := cs.getD t.origin default
    match c.onJoin with
    | some j =>
      if c.outer then
        { t with onJoin := some j, outerOn := true, equivTo := none,
                 tables := if t.tables.contains j then t.tables else t.tables ++ [j] }
      else if t.tables.any (· > j) then t
      else { t with onJoin := some j }
    | none => t
  let implying := cs.filterMap fun c =>
    if f.outer then (if c.outer && c.onJoin == some s.self then some c.expr else none)
    else if c.outer && c.onJoin != some s.self then none
    else some c.expr
  let probes := if f.leftOfRight then (s.probes fuel []).filter (·.2.all (·.filter.isNone))
    else s.probes fuel (s.termExprs fuel implying)
  let used := (reads.flatMap (s.usedColumns fuel)).eraseDups
  let probes := probes.map fun (p, ix) => (s.expressionCover fuel reads false used p ix, ix)
  ({ tableWidth := Table.rowWidth s.table, hasRowid := !s.table.withoutRowid, terms,
     written := conjuncts.length, used, self := s.self, mPrereq,
     outerJoin := f.left || f.right || f.leftOfRight, outerSide := f.left || f.right,
     autoIndex := !s.table.withoutRowid && !f.right }, probes)

/-- The columns an automatic index built for a loop over the table keys its entries by,
with their collations, when the tables `outer` are read before it: the column of each
term that may drive it and compares with those tables only, the first term for a column
setting its collation; then the other columns the query reads, in table order, compared
as `BINARY`. The row id follows. -/
def Query.autoColumns (q : Query) (outer : List Nat) : List (Nat × Collation) :=
  let keys := q.terms.foldl (fun (acc : List (Nat × Collation)) t =>
    match t.target with
    | some (.column c, op) =>
      if t.table == q.self && (op == .eq || op == .is) && t.affinityOk &&
          tablesWithin t.prereq outer && !t.prereq.contains q.self && q.joinAllows t &&
          !acc.any (·.1 == c) then acc ++ [(c, t.collation)]
      else acc
    | _ => acc) []
  let extra := (q.used.filter fun c => !keys.any (·.1 == c)).mergeSort (· ≤ ·)
  keys ++ extra.map fun c => (c, .binary)

end Plan

end Relational

end CrateState
