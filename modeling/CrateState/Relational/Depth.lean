import CrateState.Relational.Syntax
import CrateState.Relational.Error

/-!
# How deep an expression is

The database refuses an expression tree deeper than `maxExprDepth` with
`Expression tree is too large (maximum depth 1000)`, and it looks twice.

While reading, it gives each node a height: a name, literal or parameter 1, any other node
one more than the highest it is built over, and a node over the limit fails the statement
as soon as it is built. `Expr.height` computes that height on the tree kept here, whose
nodes are not quite the database's:

* a number under a minus sign is a minus node over a literal (height 2), though the reader
  keeps a negative literal;
* `t.c` is a dot node over two names (height 2), and `s.t.c` one more;
* `COLLATE` and a row value `(a, b, …)` keep height 1;
* `BETWEEN` is measured over its left operand only;
* a `NOT` before `BETWEEN`, `IN` or a pattern operator is a node of its own;
* a call is measured over its arguments, not its `FILTER`, `ORDER BY` or window;
* a subquery counts the expressions of each simple query (result columns, `WHERE`,
  `GROUP BY`, `HAVING`), its ordering terms and a limit node over `LIMIT` and `OFFSET`,
  not its sources or common table expressions.

Looking names up, it then adds the height of each expression it enters to those around it,
and enters an expression's subqueries on top of that sum (`Query.fitsAt`): nested
subqueries fail long before their own height nears the limit.
-/

namespace CrateState

namespace Relational

/-- The deepest expression tree the database accepts. -/
def maxExprDepth : Nat := 1000

/-- The error of a tree deeper than `maxExprDepth`. -/
def depthError : SqlError :=
  .general ("Expression tree is too large (maximum depth " ++ toString maxExprDepth ++ ")")

/-- The height of a literal: a negative number was written as a minus sign over a
number. -/
def litHeight : SqlValue → Nat
  | .int i => if i < 0 then 2 else 1
  | .real f => if f < 0 || (f == 0 && 1 / f < 0) then 2 else 1
  | _ => 1

/-- The highest of some heights, `0` for none. -/
def highest (hs : List Nat) : Nat := hs.foldl max 0

/-- One more for a `NOT` written before the operator. -/
def notHeight (negated : Bool) : Nat := if negated then 1 else 0

mutual

/-- The height of the node the database builds for an expression. Out of fuel the answer
is beyond the limit, so fuel of four times the limit measures every tree within it. -/
def Expr.height : Nat → Expr → Nat
  | 0, _ => maxExprDepth + 1
  | n + 1, e =>
    match e with
    | .lit v => litHeight v
    | .column schema table _ => if schema.isSome then 3 else if table.isSome then 2 else 1
    | .quoted _ | .param _ | .collate _ _ | .row _ => 1
    | .unary _ a | .cast a _ | .nullTest a _ => Expr.height n a + 1
    | .binary _ a b => max (Expr.height n a) (Expr.height n b) + 1
    | .between a _ _ negated => Expr.height n a + 1 + notHeight negated
    | .inList a items negated => highest ((a :: items).map (Expr.height n)) + 1 + notHeight negated
    | .inQuery a q negated => max (Expr.height n a) (Query.height n q) + 1 + notHeight negated
    | .pattern _ a p escape negated =>
      highest ((a :: p :: escape.toList).map (Expr.height n)) + 1 + notHeight negated
    | .case operand arms otherwise =>
      highest ((operand.toList ++ arms.flatMap (fun (x, y) => [x, y]) ++ otherwise.toList).map
        (Expr.height n)) + 1
    | .call _ _ args _ _ _ => highest (args.map (Expr.height n)) + 1
    | .hasRows q | .subquery q => Query.height n q + 1
    | .raise _ message => highest (message.toList.map (Expr.height n)) + 1
    | .window f _ => Expr.height n f

/-- The highest expression a query node counts: those of its simple queries, its
ordering terms and its limit node. -/
def Query.height : Nat → Query → Nat
  | 0, _ => maxExprDepth + 1
  | n + 1, .mk _ _ body order limit offset =>
    let limitNode := match limit with
      | some l => max (Expr.height n l) (highest (offset.toList.map (Expr.height n))) + 1
      | none => 0
    highest [Compound.height n body, highest (order.map fun t => Expr.height n t.1), limitNode]

/-- The highest expression of the simple queries of a compound query. -/
def Compound.height : Nat → Compound → Nat
  | 0, _ => maxExprDepth + 1
  | n + 1, .single c => Core.height n c
  | n + 1, .combine _ left right => max (Compound.height n left) (Core.height n right)

/-- The highest expression of a simple query outside its sources: result columns
(`*` has height 1 and `t.*` height 2), `WHERE`, `GROUP BY` and `HAVING`. -/
def Core.height : Nat → Core → Nat
  | 0, _ => maxExprDepth + 1
  | n + 1, .select _ items _ filter groupBy having =>
    let itemHeight : Item → Nat
      | .all => 1
      | .allOf _ => 2
      | .expr e _ _ => Expr.height n e
    highest (items.map itemHeight ++
      (filter.toList ++ groupBy ++ having.toList).map (Expr.height n))
  | n + 1, .values rows => highest (rows.flatten.map (Expr.height n))

end

/-- The fuel `Expr.height` needs to measure any tree within the limit exactly: a subquery
takes four steps for the one level it adds. -/
def heightFuel : Nat := 4 * (maxExprDepth + 1)

/-- Whether an expression is within the limit on its own. -/
def Expr.shallow (e : Expr) : Bool := e.height heightFuel ≤ maxExprDepth

/-- The queries standing directly in an expression, outside the queries among them. -/
def Expr.queries : Nat → Expr → List Query
  | 0, _ => []
  | n + 1, e =>
    match e with
    | .inQuery a q _ => Expr.queries n a ++ [q]
    | .hasRows q | .subquery q => [q]
    | .window f w => (f.children ++ w.terms).flatMap (Expr.queries n)
    | e => e.children.flatMap (Expr.queries n)

/-- The expressions of a source looked up on their own: arguments of a table-valued
function and `ON` conditions; and the queries it reads. -/
def Source.parts : Source → List Expr × List Query
  | .table _ _ _ => ([], [])
  | .query q _ => ([], [q])
  | .call _ args _ => (args, [])
  | .join _ _ left right on _ =>
    let (le, lq) := left.parts
    let (re, rq) := right.parts
    (le ++ re ++ on.toList, lq ++ rq)

/-- The expressions a simple query looks up one by one, and the queries of its sources. -/
def Core.parts : Core → List Expr × List Query
  | .select _ items source filter groupBy having =>
    let (se, sq) := (source.map Source.parts).getD ([], [])
    let exprs := items.filterMap fun
      | .expr e _ _ => some e
      | _ => none
    (se ++ exprs ++ having.toList ++ filter.toList ++ groupBy, sq)
  | .values rows => (rows.flatten, [])

/-- The query a common table expression names. -/
def Cte.query : Cte → Query
  | .mk _ _ q => q

/-- The simple queries of a compound query, left to right. -/
def Compound.coreList : Compound → List Core
  | .single c => [c]
  | .combine _ left right => left.coreList ++ [right]

/-- The names of the tables and table-valued functions a source reads, as written. -/
def Source.names : Source → List String
  | .table _ name _ => [name]
  | .call name _ _ => [name]
  | .query _ _ => []
  | .join _ _ left right _ _ => left.names ++ right.names

/-- The names of the tables and table-valued functions a query reads, those of its
subqueries and common table expressions included, as written. -/
def Query.sourceNames : Nat → Query → List String
  | 0, _ => []
  | n + 1, .mk ctes _ body order limit offset =>
    let cores := body.coreList
    let own := cores.flatMap fun
      | .select _ _ (some src) _ _ _ => src.names
      | _ => []
    let parts := cores.map Core.parts
    let exprs := parts.flatMap (·.1) ++ order.map (·.1) ++ limit.toList ++ offset.toList
    let queries := ctes.map Cte.query ++ parts.flatMap (·.2) ++
      exprs.flatMap (Expr.queries heightFuel)
    own ++ queries.flatMap (Query.sourceNames n)

mutual

/-- Whether looking up the names of an expression entered at accumulated height `base`
stays within the limit, the queries inside it entered on top of it. -/
def Expr.fitsAt : Nat → Nat → Expr → Bool
  | 0, _, _ => false
  | n + 1, base, e =>
    let sum := base + e.height heightFuel
    sum ≤ maxExprDepth && (e.queries heightFuel).all (Query.fitsAt n sum)

/-- Whether looking up the names of a query at accumulated height `base` stays within
the limit: each of its expressions is entered on its own on top of `base`, and the
queries of its sources and common table expressions at `base` itself. -/
def Query.fitsAt : Nat → Nat → Query → Bool
  | 0, _, _ => false
  | n + 1, base, .mk ctes _ body order limit offset =>
    let limitNode : List Expr := match limit with
      | some l => [.binary .concat l (offset.getD (.lit .null))]
      | none => []
    let cores := body.coreList.map Core.parts
    -- the limit node stands over `LIMIT` and `OFFSET` as an operator would
    (cores.flatMap (·.1) ++ order.map (·.1) ++ limitNode).all (Expr.fitsAt n base) &&
      (cores.flatMap (·.2) ++ ctes.map Cte.query).all (Query.fitsAt n base)

end

/-- Whether the names of a statement's query can be looked up within the limit. -/
def Query.withinDepth (q : Query) : Bool := q.fitsAt heightFuel 0

/-- Whether an expression of a statement, looked up on its own, stays within the limit. -/
def Expr.withinDepth (e : Expr) : Bool := e.fitsAt heightFuel 0

/-- The expressions of `RETURNING` items. -/
def itemExprs (items : List Item) : List Expr :=
  items.filterMap fun
    | .expr e _ _ => some e
    | _ => none

/-- The expressions of an upsert: its target's, and those of its update. -/
def Upsert.exprs (u : Upsert) : List Expr :=
  let target := match u.target with
    | some (cols, filter) => cols.map (·.expr) ++ filter.toList
    | none => []
  match u.action with
  | .update sets filter => target ++ sets.map (·.2) ++ filter.toList
  | .nothing => target

/-- Whether the names of a write can be looked up within the limit: its queries and its
expressions, each on its own. -/
def Action.withinDepth : Action → Bool
  | .insert i =>
    let queries := (match i.source with
      | .query q => [q]
      | .defaults => []) ++ i.ctes.map Cte.query
    queries.all Query.withinDepth &&
      (i.upserts.flatMap Upsert.exprs ++ itemExprs i.returning).all Expr.withinDepth
  | .update u =>
    let (se, sq) := (u.source.map Source.parts).getD ([], [])
    (sq ++ u.ctes.map Cte.query).all Query.withinDepth &&
      (se ++ u.sets.map (·.2) ++ u.filter.toList ++ itemExprs u.returning).all Expr.withinDepth
  | .delete d =>
    (d.ctes.map Cte.query).all Query.withinDepth &&
      (d.filter.toList ++ itemExprs d.returning).all Expr.withinDepth
  | .select q => q.withinDepth

end Relational

end CrateState
