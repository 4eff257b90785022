import CrateState.Relational.Plan.Access
import CrateState.Relational.Scope

/-!
# A query as the planner reads it

Before choosing an access path, the planner reads the query over its one table:

* the *terms* of `WHERE`: each conjunct, with the column it constrains when it compares a
  column with a value that does not read the table (`=`, `IS`, `<`, `<=`, `>`, `>=`, `IN`,
  `IS NULL`, the column on either side; turned about when written the other way; two
  columns of the table constrain neither). Derived terms follow the written ones, the last
  conjunct's first: the bounds of a `BETWEEN`; `> NULL` for `IS NOT NULL`; the bounds of a
  `LIKE` or `GLOB` whose pattern starts with literal text (under `NOCASE` for `LIKE`, so
  only such an index uses them); the `IN` list an `OR` of `=` on one column amounts to; a
  comparison of two columns turned about;
* the columns of the table read anywhere, subqueries included;
* the ordering it would like to deliver: each term's column, collation and direction.

Names resolve as in the evaluator: a column of the table, its row id, then (unqualified) a
result alias, standing for its expression; anything else belongs to an outer query and is
a constant here. In a subquery a name first reaches the subquery's own sources.
-/

namespace CrateState

namespace Relational

namespace Plan

/-- The scope of a query over one table: the database, the table, the binding its columns
answer through, the aliases of the result columns, and what the evaluator makes of an
expression's affinity and collation there. -/
structure Scope where
  /-- The database. -/
  db : Database
  table : Table
  /-- The binding the table's columns answer through. -/
  binding : Binding
  /-- The aliases of the result columns, with the expressions they stand for. -/
  aliases : List (String × Expr) := []
  /-- The affinity of an expression. -/
  affinity : Expr → Option Affinity := fun _ => none
  /-- The collation of an expression (`BINARY` when it has none). -/
  collation : Expr → Collation := fun _ => .binary
  /-- The collation a comparison of two expressions uses. -/
  compareCollation : Expr → Expr → Collation := fun _ _ => .binary
  /-- The other tables of a join, each with its position in the `FROM` clause and the
  binding its columns answer through. -/
  peers : List (Nat × Table × Binding) := []
  /-- The position of the table in the `FROM` clause. -/
  self : Nat := 0

/-- What a column reference of the query names. -/
inductive Named where
  /-- A column of the table, or its row id. -/
  | part (p : Part)
  /-- The alias of a result column, standing for its expression. -/
  | aliased (e : Expr)
  /-- A column of an outer query, or nothing the query knows. -/
  | other

/-- The part of the table the `k`-th column is: the row id for the column that names it. -/
def Scope.columnPart (s : Scope) (k : Nat) : Named :=
  if s.table.rowidColumn == some k then .part .rowid
  else if k < s.table.columns.length then .part (.column k)
  else .other

/-- What a column reference names, qualified or not. -/
def Scope.named (s : Scope) (schema table : Option String) (name : String) : Named :=
  let b := s.binding
  let column := b.columns.findIdx? (sameName ·.name name)
  match table with
  | some tn =>
    if !b.answers schema tn then .other
    else
      match column with
      | some k => s.columnPart k
      | none => if isRowidName name && b.hasRowid then .part .rowid else .other
  | none =>
    match column with
    | some k => s.columnPart k
    | none =>
      if isRowidName name && b.hasRowid then .part .rowid
      else if s.peers.any (fun (_, _, pb) => pb.columns.any (sameName ·.name name)) then .other
      else
        match s.aliases.find? (sameName ·.1 name) with
        | some (_, e) => .aliased e
        | none => .other

/-- An expression with the collations around it taken off. -/
def skipCollate : Nat → Expr → Expr
  | 0, e => e
  | n + 1, e =>
    match e with
    | .collate a _ => skipCollate n a
    | _ => e

/-- The probability `likelihood` (or `likely`, `unlikely`) gives an expression, scaled to
2^27, and the expression inside. -/
def likelihoodOf : Expr → Option (Nat × Expr)
  | .call name _ args _ _ _ =>
    match name.toLower, args with
    | "likely", [a] => some (125829120, a)
    | "unlikely", [a] => some (8388608, a)
    | "likelihood", [a, .lit (.real p)] =>
      if 0 ≤ p && p ≤ 1 then some ((p * 134217728.0).floor.toUInt64.toNat, a) else none
    | _, _ => none
  | _ => none

/-- An expression with the collations and likelihoods around it taken off. -/
def skipCollateAndLikely : Nat → Expr → Expr
  | 0, e => e
  | n + 1, e =>
    match e with
    | .collate a _ => skipCollateAndLikely n a
    | _ =>
      match likelihoodOf e with
      | some (_, a) => skipCollateAndLikely n a
      | none => e

/-- The part of the table an expression is when it is a plain column reference (no
collation), through aliases. -/
def Scope.plainPart (s : Scope) : Nat → Expr → Option Part
  | 0, _ => none
  | n + 1, e =>
    let viaName (named : Named) : Option Part :=
      match named with
      | .part p => some p
      | .aliased a => s.plainPart n a
      | .other => none
    match e with
    | .column schema table name => viaName (s.named schema table name)
    | .quoted name => viaName (s.named none none name)
    | _ => none

/-- The indexes of the table, in the order the planner tries them: the newest first. -/
def Scope.indexes (s : Scope) : List Index :=
  (s.db.indexesOf s.table.name).filter (·.store == s.table.store)

/-- Whether two literals are written alike. -/
def sameLiteral : SqlValue → SqlValue → Bool
  | .null, .null => true
  | .int a, .int b => a == b
  | .real a, .real b => a == b
  | .text a, .text b => a == b
  | .blob a, .blob b => a.written == b.written
  | _, _ => false

/-- The operand of a test for `NULL`, and whether it tests for `NULL` (`IS NULL`) rather
than for a value (`IS NOT NULL`). -/
def nullTestOf : Expr → Option (Expr × Bool)
  | .nullTest a isNull => some (a, isNull)
  | .binary .is a (.lit .null) => some (a, true)
  | .binary .isNot a (.lit .null) => some (a, false)
  | _ => none

/-- Whether two expressions are the same: the same operators over the same operands,
the same literals, and names that reach the same part of the table. -/
def Scope.sameExpr (s : Scope) : Nat → Expr → Expr → Bool
  | 0, _, _ => false
  | n + 1, a, b =>
    let sameAll (xs ys : List Expr) : Bool :=
      xs.length == ys.length && (xs.zip ys).all fun (x, y) => s.sameExpr n x y
    match nullTestOf a, nullTestOf b with
    | some (x, p), some (y, q) => p == q && s.sameExpr n x y
    | some _, none | none, some _ => false
    | none, none =>
      match a, b with
      | .lit x, .lit y => sameLiteral x y
      | .param i, .param j => i == j
      | .unary o x, .unary p y => o == p && s.sameExpr n x y
      | .binary o x y, .binary p z w => o == p && s.sameExpr n x z && s.sameExpr n y w
      | .collate x c, .collate y d => c.toLower == d.toLower && s.sameExpr n x y
      | .cast x c, .cast y d => c == d && s.sameExpr n x y
      | .between x lo hi ng, .between y lo2 hi2 ng2 =>
        ng == ng2 && sameAll [x, lo, hi] [y, lo2, hi2]
      | .inList x xs ng, .inList y ys ng2 => ng == ng2 && sameAll (x :: xs) (y :: ys)
      | .pattern o x p e ng, .pattern o2 y q f ng2 =>
        o == o2 && ng == ng2 && e.isSome == f.isSome && sameAll ([x, p] ++ e.toList) ([y, q] ++ f.toList)
      | .case o arms d, .case o2 arms2 d2 =>
        o.isSome == o2.isSome && d.isSome == d2.isSome && arms.length == arms2.length &&
          sameAll (o.toList ++ arms.flatMap (fun (x, y) => [x, y]) ++ d.toList)
            (o2.toList ++ arms2.flatMap (fun (x, y) => [x, y]) ++ d2.toList)
      | .call f dis args star flt ord, .call g dis2 args2 star2 flt2 ord2 =>
        f.toLower == g.toLower && dis == dis2 && star == star2 && flt.isNone && flt2.isNone &&
          ord.isEmpty && ord2.isEmpty && sameAll args args2
      | .row xs, .row ys => sameAll xs ys
      | _, _ =>
        match s.plainPart n a, s.plainPart n b with
        | some p, some q => p == q
        | _, _ => false

/-- The expressions the indexes of the table key their entries by, other than plain
columns, each once, in the order the indexes are tried. -/
def Scope.indexExprs (s : Scope) (fuel : Nat) : List Expr :=
  (s.indexes.flatMap fun ix => ix.columns.map (·.expr)).foldl (fun acc e =>
    match s.plainPart fuel e with
    | some _ => acc
    | none => if acc.any (s.sameExpr fuel (skipCollate fuel e) <| skipCollate fuel ·) then acc
      else acc ++ [e]) []

/-- The position among the index expressions of the one an expression is, collations
aside. -/
def Scope.indexExprPosition (s : Scope) (fuel : Nat) (e : Expr) : Option Nat :=
  (s.indexExprs fuel).findIdx? fun x => s.sameExpr fuel (skipCollate fuel e) (skipCollate fuel x)

/-- The part of the table an expression is, collations aside: a column (through an alias,
the part its expression is), or an expression an index keeps. -/
def Scope.partOf (s : Scope) : Nat → Expr → Option Part
  | 0, _ => none
  | n + 1, e =>
    let viaName (named : Named) : Option Part :=
      match named with
      | .part p => some p
      | .aliased a => s.partOf n a
      | .other => none
    match e with
    | .collate a _ => s.partOf n a
    | .column schema table name => viaName (s.named schema table name)
    | .quoted name => viaName (s.named none none name)
    | .lit _ | .param _ => none
    | _ => (s.indexExprPosition n e).map Part.indexed

/-- The scope of another table of the join, at position `k`, with this one among its
peers. -/
def Scope.peerScope (s : Scope) (k : Nat) (t : Table) (b : Binding) : Scope :=
  { s with table := t, binding := b, self := k,
           peers := (s.self, s.table, s.binding) :: s.peers.filter (·.1 != k) }

/-- The scope of the table at a position of the `FROM` clause. -/
def Scope.scopeOf (s : Scope) (k : Nat) : Scope :=
  if k == s.self then s
  else
    match s.peers.find? (·.1 == k) with
    | some (_, t, b) => s.peerScope k t b
    | none => s

/-- The table of the join an expression is a part of, with the part. -/
def Scope.locate (s : Scope) (fuel : Nat) (e : Expr) : Option (Nat × Part) :=
  match s.partOf fuel e with
  | some p => some (s.self, p)
  | none => s.peers.findSome? fun (k, t, b) => ((s.peerScope k t b).partOf fuel e).map (k, ·)

/-- The table of the join a plain column reference is a part of, with the part. -/
def Scope.locatePlain (s : Scope) (fuel : Nat) (e : Expr) : Option (Nat × Part) :=
  match s.plainPart fuel e with
  | some p => some (s.self, p)
  | none => s.peers.findSome? fun (k, t, b) => ((s.peerScope k t b).plainPart fuel e).map (k, ·)

/-! ## References -/

/-- A column reference: schema, table and column name, and how many subqueries deep it
sits. -/
structure Ref where
  /-- The schema named. -/
  schema : Option String
  /-- The table named. -/
  table : Option String
  /-- The column name. -/
  name : String
  /-- How many subqueries deep it sits. -/
  depth : Nat

/-- The names the sources of a subquery's `FROM` answer to, each with the column names it
is known to have. -/
def sourceNames (db : Database) : Nat → Source → List (String × List String)
  | 0, _ => []
  | n + 1, src =>
    match src with
    | .table schema name aliasName =>
      let cols := match db.findIn? schema name with
        | some (.table t) =>
          t.columns.map (·.name) ++ (if t.withoutRowid then [] else ["rowid", "oid", "_rowid_"])
        | some (.view v) => v.columns
        | _ => []
      [(aliasName.getD name, cols)]
    | .query q aliasName =>
      let cols := match q with
        | .mk _ _ (.single (.select _ items _ _ _ _)) _ _ _ =>
          items.filterMap fun
            | .expr e aliasName _ =>
              match aliasName, e with
              | some a, _ => some a
              | none, .column _ _ c => some c
              | _, _ => none
            | _ => none
        | _ => []
      [(aliasName.getD "", cols)]
    | .call name _ aliasName =>
      let cols := if name.toLower == "json_each" || name.toLower == "json_tree" then
          Document.walkColumns else []
      [(aliasName.getD name, cols)]
    | .join _ _ l r _ _ => sourceNames db n l ++ sourceNames db n r

/-- Whether a subquery's sources answer a reference. -/
def captures (names : List (String × List String)) (r : Ref) : Bool :=
  match r.table with
  | some t => names.any fun (n, _) => sameName n t
  | none => names.any fun (_, cols) => cols.any (sameName · r.name)

mutual

/-- The column references of an expression, subqueries included, but for those a
subquery's own sources answer. -/
def exprRefs (db : Database) : Nat → Expr → List Ref
  | 0, _ => []
  | n + 1, e =>
    match e with
    | .column schema table name => [⟨schema, table, name, 0⟩]
    | .quoted name => [⟨none, none, name, 0⟩]
    | .subquery q | .hasRows q => queryRefs db n q
    | .inQuery a q _ => exprRefs db n a ++ queryRefs db n q
    | .window f w =>
      exprRefs db n f ++
        (match w with
          | .mk _ partition order _ =>
            exprListRefs db n partition ++ exprListRefs db n (order.map (·.1))
          | .named _ => [])
    | .unary _ a | .collate a _ | .cast a _ | .nullTest a _ => exprRefs db n a
    | .binary _ a b => exprRefs db n a ++ exprRefs db n b
    | .between a b c _ => exprRefs db n a ++ exprRefs db n b ++ exprRefs db n c
    | .inList a items _ => exprRefs db n a ++ exprListRefs db n items
    | .pattern _ a b c _ => exprRefs db n a ++ exprRefs db n b ++ exprListRefs db n c.toList
    | .case o arms d =>
      exprListRefs db n o.toList ++ exprListRefs db n (arms.flatMap fun (x, y) => [x, y]) ++
        exprListRefs db n d.toList
    | .call _ _ args _ filter order =>
      exprListRefs db n args ++ exprListRefs db n filter.toList ++
        exprListRefs db n (order.map (·.1))
    | .raise _ m => exprListRefs db n m.toList
    | .row items => exprListRefs db n items
    | .lit _ | .param _ => []

/-- The references of a list of expressions. -/
def exprListRefs (db : Database) : Nat → List Expr → List Ref
  | 0, _ => []
  | _ + 1, [] => []
  | n + 1, e :: rest => exprRefs db n e ++ exprListRefs db n rest

/-- The references of a subquery its own sources do not answer, one level deeper. -/
def queryRefs (db : Database) : Nat → Relational.Query → List Ref
  | 0, _ => []
  | n + 1, Relational.Query.mk ctes _ body order limit offset =>
    let inner := compoundRefs db n body ++ exprListRefs db n (order.map (·.1)) ++
      exprListRefs db n (limit.toList ++ offset.toList)
    let fromCtes := cteRefs db n ctes
    (inner ++ fromCtes).map fun r => { r with depth := r.depth + 1 }

/-- The references of the common table expressions of a query. -/
def cteRefs (db : Database) : Nat → List Cte → List Ref
  | 0, _ => []
  | _ + 1, [] => []
  | n + 1, .mk _ _ q :: rest =>
    (queryRefs db n q).map (fun r => { r with depth := r.depth - 1 }) ++ cteRefs db n rest

/-- The references of a compound query its sources do not answer. -/
def compoundRefs (db : Database) : Nat → Compound → List Ref
  | 0, _ => []
  | n + 1, .single c => coreRefs db n c
  | n + 1, .combine _ l r => compoundRefs db n l ++ coreRefs db n r

/-- The references of a simple query its sources do not answer. -/
def coreRefs (db : Database) : Nat → Core → List Ref
  | 0, _ => []
  | n + 1, .values rows => exprListRefs db n rows.flatten
  | n + 1, .select _ items source filter groupBy having =>
    let names := match source with
      | some s => sourceNames db n s
      | none => []
    let itemExprs := items.filterMap fun
      | .expr e _ _ => some e
      | _ => none
    let own := exprListRefs db n (itemExprs ++ filter.toList ++ groupBy ++ having.toList) ++
      (match source with
        | some s => sourceRefs db n s
        | none => [])
    own.filter fun r => r.depth > 0 || !captures names r

/-- The references of the expressions inside a `FROM` clause: subqueries, function
arguments and join conditions. -/
def sourceRefs (db : Database) : Nat → Source → List Ref
  | 0, _ => []
  | n + 1, src =>
    match src with
    | .table _ _ _ => []
    | .query q _ => (queryRefs db n q).map fun r => { r with depth := r.depth - 1 }
    | .call _ args _ => exprListRefs db n args
    | .join _ _ l r on _ => sourceRefs db n l ++ sourceRefs db n r ++ exprListRefs db n on.toList

end

/-- The parts of the table the references of an expression reach. -/
def Scope.partsOf (s : Scope) (fuel : Nat) (refs : List Ref) : List Part :=
  let rec go : Nat → List Ref → List Part
    | 0, _ => []
    | _ + 1, [] => []
    | n + 1, r :: rest =>
      let here := match s.named r.schema r.table r.name with
        | .part p => [p]
        | .aliased a => if r.depth == 0 then go n (exprRefs s.db fuel a) else []
        | .other => []
      here ++ go n rest
  go (fuel + refs.length) refs

/-- Whether an expression reads the table. -/
def Scope.reads (s : Scope) (fuel : Nat) (e : Expr) : Bool :=
  !(s.partsOf fuel (exprRefs s.db fuel e)).isEmpty

/-- The tables of the join an expression reads, by position. -/
def Scope.readers (s : Scope) (fuel : Nat) (e : Expr) : List Nat :=
  (if s.reads fuel e then [s.self] else []) ++
    s.peers.filterMap fun (k, t, b) => if (s.peerScope k t b).reads fuel e then some k else none

/-- The columns of the table an expression reads outside subqueries, the row id aside. -/
def Scope.directColumns (s : Scope) (fuel : Nat) (e : Expr) : List Nat :=
  (s.partsOf fuel ((exprRefs s.db fuel e).filter (·.depth == 0))).filterMap fun
    | .column k => some k
    | _ => none

/-- The columns of the table an expression reads, subqueries included: a generated
column reads them all. -/
def Scope.usedColumns (s : Scope) (fuel : Nat) (e : Expr) : List Nat :=
  let all := List.range s.table.columns.length
  (s.partsOf fuel (exprRefs s.db fuel e)).flatMap fun
    | .column k => if ((s.table.columns.getD k default).generated).isSome then all else [k]
    | _ => []

/-- Whether an expression is constant: no column, subquery, aggregate or function whose
value may change from call to call. -/
def isConstant : Nat → Expr → Bool
  | 0, _ => false
  | n + 1, e =>
    match e with
    | .lit _ | .param _ => true
    | .column _ _ _ | .quoted _ | .subquery _ | .hasRows _ | .inQuery _ _ _ | .window _ _
    | .raise _ _ => false
    | .call name _ args star filter order =>
      !star && filter.isNone && order.isEmpty &&
        !(["random", "randomblob", "changes", "total_changes", "last_insert_rowid",
          "count", "sum", "total", "avg", "min", "max", "group_concat", "string_agg",
          "json_group_array", "json_group_object"].contains name.toLower) &&
        args.attach.all fun ⟨a, _⟩ => isConstant n a
    | _ => e.children.attach.all fun ⟨a, _⟩ => isConstant n a

/-- Whether an expression is an integer literal from -1 to 1 (a sign allowed). -/
def isSmallInteger : Expr → Bool
  | .lit (.int i) => -1 ≤ i && i ≤ 1
  | .unary .neg (.lit (.int i)) => -1 ≤ -i && -i ≤ 1
  | .unary .plus (.lit (.int i)) => -1 ≤ i && i ≤ 1
  | _ => false

/-! ## Terms -/

/-- A comparison operator turned about, for the column on its right. -/
def Operator.turned : Operator → Operator
  | .lt => .gt
  | .le => .ge
  | .gt => .lt
  | .ge => .le
  | op => op

/-- The operator of a comparison the planner can use. -/
def comparisonOperator : BinaryOp → Option Operator
  | .eq => some .eq
  | .is => some .is
  | .lt => some .lt
  | .le => some .le
  | .gt => some .gt
  | .ge => some .ge
  | _ => none

/-- Whether an index on a column of affinity `col` can answer a comparison with a value
of affinity `other`: not when the comparison is numeric and the column is not. -/
def affinityServes (col : Option Affinity) (other : Option Affinity) : Bool :=
  match other with
  | some o => !((o.isNumeric || (col.map Affinity.isNumeric).getD false) &&
      !(col.map Affinity.isNumeric).getD false)
  | none => true

/-- The affinity of a part of the table. -/
def Scope.partAffinity (s : Scope) : Part → Option Affinity
  | .column k => some (s.table.columns.getD k default).affinity
  | .rowid => some .integer
  | .indexed k => s.affinity ((s.indexExprs walkDepth).getD k default)
  | .expr => none

/-- The part of the table an indexed column names: the row id for the column that names
it, an expression for anything but a column. -/
def Scope.indexedPart (s : Scope) (e : Expr) : Part :=
  let name : Option String := match e with
    | .column _ _ n | .quoted n => some n
    | _ => none
  match name.bind fun n => s.table.columns.findIdx? (sameName ·.name n) with
  | some k => if s.table.rowidColumn == some k then .rowid else .column k
  | none =>
    match s.indexExprPosition walkDepth e with
    | some k => .indexed k
    | none => .expr

/-- The columns of the primary key of a table without row ids. -/
def Scope.keyColumns (s : Scope) : List Nat :=
  if !s.table.withoutRowid then []
  else
    match s.indexes.find? (·.origin == .primaryKey) with
    | some ix => ix.columns.filterMap fun c =>
      match s.indexedPart c.expr with
      | .column k => some k
      | _ => none
    | none => []

/-- Whether the `k`-th column never holds `NULL`: it is declared `NOT NULL`, or belongs to
the primary key of a table without row ids. -/
def Scope.columnNotNull (s : Scope) (k : Nat) : Bool :=
  (s.table.columns.getD k default).notNull.isSome || s.keyColumns.contains k

/-- Whether an expression may be `NULL`, as far as its form shows: a literal other than
`NULL` is not, nor the row id or a column that never holds `NULL`, signs aside. -/
def Scope.canBeNull (s : Scope) : Nat → Expr → Bool
  | 0, _ => true
  | n + 1, e =>
    match e with
    | .unary .plus a | .unary .neg a => s.canBeNull n a
    | .lit .null => true
    | .lit _ => false
    | .column _ _ _ | .quoted _ =>
      match s.plainPart n e with
      | some .rowid => false
      | some (.column k) => !s.columnNotNull k
      | _ => true
    | _ => true

/-- The terms a comparison `a op b` gives: the term itself, with the column on either side
(of any table of the join) when the other does not read that column's table, and, when both
sides are columns, a derived term turned about. `i` is the position of the term, `truth`
its likelihood. -/
def Scope.comparison (s : Scope) (fuel i : Nat) (op : Operator) (a b : Expr) (base : Term) :
    Term × List Term :=
  let left := s.locate fuel (skipCollate fuel a)
  let right := s.locate fuel (skipCollate fuel b)
  let coll := s.compareCollation a b
  let numeric (x : Option Affinity) : Bool := (x.map Affinity.isNumeric).getD false
  -- two columns compared with `=` or `IS` alike stand for each other
  let equivalent := (op == .eq || op == .is) &&
    (s.affinity a == s.affinity b || (numeric (s.affinity a) && numeric (s.affinity b))) &&
    (coll == .binary || s.collation a == s.collation b)
  let on (k : Nat) (p : Part) (o : Operator) (other : Expr) (otherColumn : Option (Nat × Part))
      (t : Term) : Term :=
    let prereq := s.readers fuel other
    { t with
      target := if prereq.contains k then none else some (p, o), table := k,
      prereq := prereq.filter (· != k), collation := coll,
      small := isSmallInteger other, left := some (k, p), rightColumn := otherColumn,
      affinityOk := affinityServes ((s.scopeOf k).partAffinity p) (s.affinity other) }
  match left, right with
  | some (k, p), some (m, q) =>
    let equivTo (c : Nat × Part) : Option (Nat × Part) := if equivalent then some c else none
    let t := { on k p op b right base with equivTo := equivTo (m, q) }
    (t, [{ on m q op.turned a left base with parent := some i, derived := true, equivTo := equivTo (k, p) }])
  | some (k, p), none => (on k p op b none base, [])
  | none, some (m, q) => (on m q op.turned a none base, [])
  | none, none => (base, [])

/-- The bytes of a `LIKE` or `GLOB` pattern before its first wildcard, with its escape
character, and whether the optimization applies: the count of bytes, the byte that stopped
the count, and whether a multi-byte character that is not valid stopped it. -/
def likePrefixLength (wild : List UInt8) (escape : Option UInt8) :
    Nat → List UInt8 → Nat → Nat × Option UInt8
  | 0, _, n => (n, none)
  | _ + 1, [], n => (n, none)
  | fuel + 1, c :: rest, n =>
    if wild.contains c then (n, some c)
    else if escape == some c && (rest.head?.map (fun b => 0 < b && b < 0x80)).getD false then
      likePrefixLength wild escape fuel rest.tail (n + 2)
    else if c ≥ 0xc0 then
      let cont := rest.takeWhile (fun b => b &&& 0xc0 == 0x80)
      let lead : Nat := if c < 0xe0 then (c.toNat &&& 0x1f) else if c < 0xf0 then (c.toNat &&& 0x0f)
        else if c < 0xf8 then (c.toNat &&& 0x07) else if c < 0xfc then (c.toNat &&& 0x03)
        else if c < 0xfe then (c.toNat &&& 0x01) else 0
      let v := cont.foldl (fun acc b => acc * 64 + (b.toNat &&& 0x3f)) lead
      let invalid := v < 0x80 || (v &&& 0xFFFFF800) == 0xD800 || (v &&& 0xFFFFFFFE) == 0xFFFE ||
        v == 0xFFFD
      if invalid then (n, some c)
      else likePrefixLength wild escape fuel (rest.drop cont.length) (n + 1 + cont.length)
    else likePrefixLength wild escape fuel rest (n + 1)

/-- Whether a `LIKE` (or `GLOB`) of `a` against the literal pattern gives range bounds
on `a`, and whether those bounds stand for the whole pattern (it ends in one `%` or `*`
after the literal text). The literal text must not be empty, and when `a` is not a column
of text affinity it must not read as a number, nor the text with its last byte raised. -/
def Scope.likeRange (s : Scope) (fuel : Nat) (glob : Bool) (a : Expr) (pattern : String)
    (escape : Option Expr) : Option Bool :=
  let z := utf8Bytes pattern
  let wild : List UInt8 := if glob then [42, 63, 91] else [37, 95]
  let esc : Option (Option UInt8) := match escape with
    | none => some none
    | some (.lit (.text e)) =>
      match utf8Bytes e with
      | [b] => if wild.take 2 |>.contains b then none else some (some b)
      | _ => none
    | some _ => none
  match esc with
  | none => none
  | some escByte =>
    let (cnt, stop) := likePrefixLength wild escByte z.length z 0
    let lastOk := z.getD (cnt - 1) 0 != 255
    let firstIsEscape := escByte.isSome && z.head? == escByte
    if !((cnt > 1 || (cnt > 0 && !firstIsEscape)) && lastOk) then none
    else
      let complete := stop == wild.head? && z.length == cnt + 1
      -- the literal text with its escapes removed
      let rec unescape : Nat → List UInt8 → List UInt8
        | 0, _ => []
        | _ + 1, [] => []
        | k + 1, b :: rest =>
          if escByte == some b then
            match rest with
            | x :: more => x :: unescape k more
            | [] => []
          else b :: unescape k rest
      let text := unescape (cnt + 1) (z.take cnt)
      -- a bound raised past `@` would enter the letters, where case folding spoils it
      let complete := complete && (glob || text.getLast? != some 64)
      let textColumn := match s.plainPart fuel a with
        | some (.column k) => (s.table.columns.getD k default).affinity == .text
        | _ => false
      if textColumn = true then some complete
      else
        let numeric (bs : List UInt8) : Bool := (parseNumber (utf8Text bs)).isSome
        let isNum :=
          if numeric text then true
          else if text == [45] then true
          else
            match text.getLast? with
            | some last => numeric (text.dropLast ++ [last + 1])
            | none => false
        if isNum then none else some complete

/-- The terms one conjunct gives at position `i`: the term, and the terms derived from it. -/
def Scope.conjunct (s : Scope) (fuel i : Nat) (e : Expr) : Term × List Term :=
  let (truth, e) := match likelihoodOf e with
    | some (p, inner) => (logEst p - 270, skipCollateAndLikely fuel inner)
    | none => ((1 : LogEst), e)
  let reads := s.reads fuel e
  let base : Term := { truth, reads, columns := s.directColumns fuel e }
  let derive (t : Term) : Term := { t with parent := some i, derived := true }
  let constant : Term × List Term := ({ base with reads := false, columns := [] }, [])
  let nullTest (a : Expr) : Term × List Term :=
    match s.locate fuel (skipCollate fuel a) with
    | some (m, .column k) =>
      if !(s.scopeOf m).canBeNull fuel a then constant
      else ({ base with target := some (.column k, .isNull), table := m }, [])
    | _ => if !s.canBeNull fuel a then constant else (base, [])
  let notNullTest (a : Expr) : Term × List Term :=
    match s.locatePlain fuel a with
    | some (m, .column k) =>
      if !(s.scopeOf m).canBeNull fuel a then constant
      else
        (base, [derive { base with
          target := some (.column k, .gt), nullBound := true, table := m,
          collation := ((s.scopeOf m).table.columns.getD k default).collation,
          columns := if m == s.self then [k] else [] }])
    | _ => if !s.canBeNull fuel a then constant else (base, [])
  match e with
  | .binary .is a (.lit .null) => nullTest a
  | .nullTest a true => nullTest a
  | .binary .isNot a (.lit .null) => notNullTest a
  | .nullTest a false => notNullTest a
  | .binary op a b =>
    match comparisonOperator op with
    | some o =>
      -- `x IS TRUE` asks for a truth, which no index answers
      if (op == .is || op == .isNot) && (b.truthWord? fuel).isSome &&
          (s.locate fuel (skipCollate fuel b)).isNone then (base, [])
      else s.comparison fuel i o a b base
    | none =>
      if op == .or then
        -- an `OR` of `=` terms on one column is an `IN` list
        let rec branches : Nat → Expr → List Expr
          | 0, x => [x]
          | k + 1, x =>
            match skipCollateAndLikely fuel x with
            | .binary .or l r => branches k l ++ branches k r
            | y => [y]
        let arms := branches fuel e
        let eqs := arms.filterMap fun arm =>
          match arm with
          | .binary .eq x y =>
            match s.locate fuel (skipCollate fuel x), s.locate fuel (skipCollate fuel y) with
            | some (m, p), none => if (s.readers fuel y).contains m then none else some ((m, p), x, y)
            | none, some (m, p) => if (s.readers fuel x).contains m then none else some ((m, p), y, x)
            | _, _ => none
          | .inList x [y] false =>
            if isConstant fuel y then
              match s.locate fuel (skipCollate fuel x) with
              | some (m, p) => if (s.readers fuel y).contains m then none else some ((m, p), x, y)
              | none => none
            else none
          | _ => none
        match eqs.head? with
        | some ((m, p), col, _) =>
          let sameColumn := eqs.all fun (q, _, _) => q == (m, p)
          let affOk := eqs.all fun (_, x, y) =>
            match s.affinity y with
            | some ay => some ay == s.affinity x
            | none => true
          if eqs.length == arms.length && sameColumn && affOk && p.isColumn then
            let lastCol := (eqs.getLast?.map (·.2.1)).getD col
            let prereq := (eqs.flatMap fun (_, _, y) => s.readers fuel y).eraseDups
            (base, [derive { base with
              target := some (p, .inList arms.length), table := m, prereq,
              collation := s.collation lastCol,
              columns := match p with
                | .column k => if m == s.self then [k] else []
                | _ => [] }])
          else (base, [])
        | none => (base, [])
      else (base, [])
  | .between a lo hi false =>
    let loTerm : Term :=
      { truth := 1, reads := s.reads fuel a || s.reads fuel lo,
        columns := s.directColumns fuel a ++ s.directColumns fuel lo }
    let hiTerm : Term :=
      { truth := 1, reads := s.reads fuel a || s.reads fuel hi,
        columns := s.directColumns fuel a ++ s.directColumns fuel hi }
    let (ge, geMore) := s.comparison fuel i .ge a lo loTerm
    let (le, leMore) := s.comparison fuel i .le a hi hiTerm
    (base, [derive ge] ++ geMore.map derive ++ [derive le] ++ leMore.map derive)
  | .inList a items false =>
    match items with
    | [y] =>
      if isConstant fuel y then s.comparison fuel i .eq a y base
      else
        match s.locate fuel (skipCollate fuel a) with
        | some (m, p) =>
          let prereq := s.readers fuel y
          if prereq.contains m then (base, [])
          else ({ base with target := some (p, .inList 1), table := m, prereq,
                            collation := s.collation a }, [])
        | none => (base, [])
    | [] => ({ base with reads := false, columns := [] }, [])
    | _ =>
      match s.locate fuel (skipCollate fuel a) with
      | some (m, p) =>
        let prereq := (items.flatMap (s.readers fuel ·)).eraseDups
        if prereq.contains m then (base, [])
        else ({ base with target := some (p, .inList items.length), table := m, prereq,
                          collation := s.collation a }, [])
      | none => (base, [])
  | .inQuery a q false =>
    match s.locate fuel (skipCollate fuel a) with
    | some (m, p) =>
      let prereq := s.readers fuel (.subquery q)
      if prereq.contains m then (base, [])
      else ({ base with
        target := some (p, .inQuery), collation := s.collation a, table := m, prereq,
        affinityOk := affinityServes ((s.scopeOf m).partAffinity p) (s.affinity (.subquery q)) }, [])
    | none => (base, [])
  | .pattern op a pat escape false =>
    let glob := op == .glob
    if op != .like && !glob then (base, [])
    else
      match skipCollate fuel pat with
      | .lit (.text z) =>
        match s.likeRange fuel glob a z escape with
        | some complete =>
          match s.locate fuel (skipCollate fuel a) with
          | some (m, p) =>
            let bound (o : Operator) : Term :=
              { truth := 1, reads := s.reads fuel a, columns := s.directColumns fuel a,
                target := some (p, o), likeBound := true, table := m,
                collation := if glob then .binary else .nocase,
                parent := if complete then some i else none, derived := true }
            (base, [bound .ge, bound .lt])
          | none =>
            let plain : Term :=
              { truth := 1, reads := s.reads fuel a,
                columns := s.directColumns fuel a, likeBound := true, derived := true }
            (base, [plain, plain])
        | none => (base, [])
      | _ => (base, [])
  | _ => (base, [])

/-- The terms of a `WHERE` clause's conjuncts: the conjuncts in order, then the terms
derived from them, those of the last conjunct first. -/
def Scope.terms (s : Scope) (fuel : Nat) (conjuncts : List Expr) : List Term :=
  let read := conjuncts.zipIdx.map fun (e, i) =>
    let tables := s.readers fuel e
    let (t, more) := s.conjunct fuel i e
    (({ t with tables, origin := i } : Term), more.map fun (d : Term) => { d with tables, origin := i })
  read.map (·.1) ++ (read.reverse.flatMap (·.2))

/-! ## Partial indexes -/

/-- Whether an expression, when true, shows that `nn` is not `NULL`: it is `nn` itself, or
an operator that yields `NULL` for a `NULL` operand applied to something that shows it.
Under a `NOT` or a comparison (`seenNot`), the truth of a `BETWEEN` or of an `IN` over a
subquery shows nothing. -/
def Scope.impliesNotNull (s : Scope) (fuel : Nat) (nn : Expr) : Nat → Expr → Bool → Bool
  | 0, _, _ => false
  | n + 1, p, seenNot =>
    if s.sameExpr fuel p nn then
      match nn with
      | .lit .null => false
      | _ => true
    else
      match p with
      | .inList a _ _ => s.impliesNotNull fuel nn n a true
      | .inQuery a _ neg => if seenNot || neg then false else s.impliesNotNull fuel nn n a true
      | .between a lo hi neg =>
        if seenNot || neg then false
        else s.impliesNotNull fuel nn n lo true || s.impliesNotNull fuel nn n hi true ||
          s.impliesNotNull fuel nn n a true
      | .binary op a b =>
        match op with
        | .eq | .ne | .lt | .le | .gt | .ge | .arith .add | .arith .sub | .bits .or
        | .bits .shiftLeft | .bits .shiftRight | .concat =>
          s.impliesNotNull fuel nn n b true || s.impliesNotNull fuel nn n a true
        | .arith .mul | .arith .rem | .bits .and | .arith .div =>
          s.impliesNotNull fuel nn n b seenNot || s.impliesNotNull fuel nn n a seenNot
        | _ => false
      | .collate a _ | .unary .plus a | .unary .neg a => s.impliesNotNull fuel nn n a seenNot
      | .unary .bitNot a | .unary .not a => s.impliesNotNull fuel nn n a true
      | _ => false

/-- Whether a term of the `WHERE` clause implies a condition: it is the condition, or
implies a side of an `OR`, or shows the operand of an `IS NOT NULL` not to be `NULL`. -/
def Scope.implies (s : Scope) (fuel : Nat) (term : Expr) : Nat → Expr → Bool
  | 0, _ => false
  | n + 1, goal =>
    s.sameExpr fuel term goal ||
      match goal with
      | .binary .or l r => s.implies fuel term n l || s.implies fuel term n r
      | _ =>
        match nullTestOf goal with
        | some (x, false) => s.impliesNotNull fuel x fuel term false
        | _ => false

/-- Whether a partial index may serve the query: each conjunct of its condition is
implied by a term of the `WHERE` clause. -/
def Scope.partialUsable (s : Scope) (fuel : Nat) (terms : List Expr) : Nat → Expr → Bool
  | 0, _ => false
  | n + 1, cond =>
    match cond with
    | .binary .and a b => s.partialUsable fuel terms n a && s.partialUsable fuel terms n b
    | _ => terms.any fun t => s.implies fuel t fuel cond

/-- A comparison operator of the syntax turned about. -/
def BinaryOp.turned : BinaryOp → BinaryOp
  | .lt => .gt
  | .le => .ge
  | .gt => .lt
  | .ge => .le
  | op => op

/-- The expressions of the terms of a `WHERE` clause, as a partial index's condition is
matched against them: each conjunct, written with the column on the left when only its
right side is a column (both ways when both are), and the two bounds of a `BETWEEN`. -/
def Scope.termExprs (s : Scope) (fuel : Nat) (conjuncts : List Expr) : List Expr :=
  let turn (e : Expr) : List Expr :=
    match e with
    | .binary op a b =>
      match comparisonOperator op with
      | some _ =>
        match s.partOf fuel (skipCollate fuel a), s.partOf fuel (skipCollate fuel b) with
        | some _, some _ => [e, .binary (BinaryOp.turned op) b a]
        | none, some _ => [.binary (BinaryOp.turned op) b a]
        | _, _ => [e]
      | none => [e]
    | _ => [e]
  conjuncts.flatMap fun c =>
    let e := match likelihoodOf c with
      | some _ => skipCollateAndLikely fuel c
      | none => c
    match e with
    | .between a lo hi false => turn e ++ turn (.binary .ge a lo) ++ turn (.binary .le a hi)
    | _ => turn e

/-! ## Probes -/

/-- The collation an index orders a column by: its own, else the column's, else `BINARY`. -/
def Scope.indexCollation (s : Scope) (c : IndexedColumn) : Collation :=
  match c.collation.bind Collation.ofName? with
  | some coll => coll
  | none =>
    match s.indexedPart c.expr with
    | .column k => (s.table.columns.getD k default).collation
    | _ => .binary

/-- Whether a part of the table never holds `NULL`. -/
def Scope.partNotNull (s : Scope) : Part → Bool
  | .rowid => true
  | .column k => s.columnNotNull k
  | _ => false

/-- Whether the `k`-th column is generated and not stored: no index keeps its value. -/
def Scope.isVirtualColumn (s : Scope) (k : Nat) : Bool :=
  let c := s.table.columns.getD k default
  c.generated.isSome && !c.stored

/-- The probe an index gives: its key columns, then the row id (or, for a table without
row ids, the primary key columns it lacks, or for the primary key itself every other
stored column), with the planner's width and row estimates. -/
def Scope.indexProbe (s : Scope) (ix : Index) : Probe :=
  let t := s.table
  let column (c : IndexedColumn) : ProbeColumn :=
    let part := s.indexedPart c.expr
    { part, collation := s.indexCollation c, desc := c.desc, notNull := s.partNotNull part }
  let primary := ix.origin == .primaryKey
  let keyCols := ix.columns.map column
  let same (a b : ProbeColumn) : Bool := a.part == b.part && a.collation == b.collation
  let keyCols :=
    if t.withoutRowid && primary then
      keyCols.foldl (fun acc c => if acc.any (same c) then acc else acc ++ [c]) []
    else keyCols
  let pkCols : List ProbeColumn :=
    match s.indexes.find? (·.origin == .primaryKey) with
    | some pk => pk.columns.map column
    | none => []
  let rest : List ProbeColumn :=
    if !t.withoutRowid then [{ part := .rowid, notNull := true }]
    else if primary then
      (List.range t.columns.length).filterMap fun k =>
        if keyCols.any (·.part == .column k) || s.isVirtualColumn k then none
        else
          some { part := .column k, collation := (t.columns.getD k default).collation,
                 notNull := s.columnNotNull k }
    else pkCols.filter fun pc => !keyCols.any (same pc)
  let columns := keyCols ++ rest
  let keyCount := keyCols.length
  let isPartial := ix.filter.isSome
  -- the index of a `UNIQUE` constraint of a table without row ids is made before the
  -- primary key's columns join it, and only its own columns count as held
  let held := if t.withoutRowid && ix.origin == .unique then keyCols else columns
  let kept := held.filterMap fun c =>
    match c.part with
    | .column k => if s.isVirtualColumn k then none else some k
    | _ => none
  let width := logEst (4 * (columns.map fun c =>
    match c.part with
    | .column k => Column.widthEstimate (t.columns.getD k default)
    | _ => 1).foldr (· + ·) 0)
  { columns, keyCount, unique := ix.unique,
    uniqueNotNull := ix.unique && keyCols.all fun c => c.notNull && c.part != .expr,
    primary, isPartial, covering := t.withoutRowid && primary,
    rows := rowEstimates keyCount ix.unique isPartial, width, kept }

/-- The probes of the table, in the order the planner tries them, each with its index:
the row id first (for a table with row ids), then the indexes, newest first, leaving out
partial indexes the `WHERE` clause does not show usable. -/
def Scope.probes (s : Scope) (fuel : Nat) (termExprs : List Expr) : List (Probe × Option Index) :=
  let byRowid : List (Probe × Option Index) :=
    if s.table.withoutRowid then []
    else [({ columns := [{ part := .rowid, notNull := true }], keyCount := 1, byRowid := true,
             unique := true, uniqueNotNull := true, rows := [tableRows, 0], width := 3 }, none)]
  byRowid ++ s.indexes.filterMap fun ix =>
    match ix.filter with
    | some f => if s.partialUsable fuel termExprs fuel f then some (s.indexProbe ix, some ix) else none
    | none => some (s.indexProbe ix, some ix)

/-- Whether every reference an expression makes to the table is to a column in `kept` (or
the row id) or stands inside one of the expressions `exprs`, and whether one stands inside
such an expression. Inside a subquery only the columns count. -/
def Scope.coveredBy (s : Scope) (exprs : List Expr) (kept : List Nat) : Nat → Expr → Bool × Bool
  | 0, _ => (false, false)
  | n + 1, e =>
    if exprs.any (s.sameExpr n e) then (true, true)
    else
      let plainOk (parts : List Part) : Bool := parts.all fun
        | .column k => kept.contains k
        | _ => true
      match e with
      | .column _ _ _ | .quoted _ => (plainOk (s.partsOf n (exprRefs s.db n e)), false)
      | .subquery _ | .hasRows _ | .inQuery _ _ _ => (plainOk (s.partsOf n (exprRefs s.db n e)), false)
      | _ => e.children.attach.foldl (fun (ok, viaExpr) ⟨a, _⟩ =>
          let (ok', via') := s.coveredBy exprs kept n a
          (ok && ok', viaExpr || via')) (true, false)

/-- A probe once the query's reads are weighed against an index on expressions that lacks
some column the query reads: when every reference to the table stands in an expression
the index keeps (or names a column it keeps), its entries need no lookup in the table. A
query that writes, or an index with a column generated and not stored, gets no such
credit. -/
def Scope.expressionCover (s : Scope) (fuel : Nat) (reads : List Expr) (writes : Bool)
    (used : List Nat) (p : Probe) (ix : Option Index) : Probe :=
  match ix with
  | none => p
  | some ix =>
    let exprs := ix.columns.filterMap fun c =>
      match s.indexedPart c.expr with
      | .indexed _ => some c.expr
      | _ => none
    let virtualColumn := p.columns.any fun c =>
      match c.part with
      | .column k => s.isVirtualColumn k
      | _ => false
    if exprs.isEmpty || writes || p.covering || virtualColumn || used.all (p.kept.contains ·) then p
    else
      let (ok, viaExpr) := reads.foldl (fun (ok, viaExpr) e =>
        let (ok', via') := s.coveredBy exprs p.kept fuel e
        (ok && ok', viaExpr || via')) (true, false)
      if !ok then p
      else if viaExpr then { p with exprCovered := true }
      else { p with covering := true }

/-! ## The query -/

/-- What the planner is told about a query over one table. -/
structure Request where
  /-- The conjuncts of the `WHERE` clause. -/
  conjuncts : List Expr := []
  /-- The `ORDER BY` terms, result column numbers and aliases replaced by what they
  name: term, descending, and nulls first when written. -/
  orderBy : List (Expr × Bool × Option Bool) := []
  /-- The `GROUP BY` terms, result column numbers replaced. -/
  groupBy : List Expr := []
  /-- Whether the query has a `HAVING` clause. -/
  hasHaving : Bool := false
  /-- The conjuncts of the `HAVING` clause that call no aggregate. -/
  plainHaving : List Expr := []
  /-- Whether the query aggregates. -/
  aggregate : Bool := false
  /-- Whether it is a `SELECT DISTINCT`. -/
  distinct : Bool := false
  /-- The result expressions, `*` spelled out. -/
  results : List Expr := []
  /-- The aggregate calls of the result columns, the `ORDER BY` terms and `HAVING`. -/
  calls : List Expr := []
  /-- The value of a `LIMIT` written as an integer. -/
  limit : Option Nat := none
  /-- Every expression of the query, for the columns it reads. -/
  reads : List Expr := []
  /-- Whether the rows are read to be changed, where a whole index is never read in place
  of the table. -/
  writes : Bool := false

/-- Whether an expression has one value per group of the `GROUP BY` terms `keys`: it is
a key, or a constant, or built from such by operators and functions that always give the
same value for the same arguments. -/
def Scope.perGroup (s : Scope) (keys : List Expr) : Nat → Expr → Bool
  | 0, _ => false
  | n + 1, e =>
    keys.any (s.sameExpr n e ·) ||
      match e with
      | .lit _ | .param _ => true
      | .quoted _ => (s.plainPart n e).isNone && !(s.reads n e)
      | .column _ _ _ | .subquery _ | .hasRows _ | .inQuery _ _ _ | .window _ _ | .raise _ _ => false
      | .call name _ args star filter order =>
        !star && filter.isNone && order.isEmpty &&
          !(["random", "randomblob", "changes", "total_changes", "last_insert_rowid"].contains
            name.toLower) &&
          args.attach.all fun ⟨a, _⟩ => s.perGroup keys n a
      | _ => e.children.attach.all fun ⟨a, _⟩ => s.perGroup keys n a

/-- An ordering term as the planner sees it. -/
def Scope.orderTerm (s : Scope) (fuel : Nat) (e : Expr) (desc : Bool) (nullsFirst : Option Bool) :
    OrderTerm :=
  { part := s.partOf fuel (skipCollateAndLikely fuel e),
    collation := s.collation e, desc,
    bigNull := nullsFirst == some desc,
    reads := s.reads fuel e, constant := isConstant fuel e }

/-- Whether a `DISTINCT` over the expressions `list` changes nothing: one of them is the
row id, or a unique index without condition has each key column either fixed by an `=`
term or among them (under the index's collation) and never `NULL`. -/
def Scope.distinctRedundant (s : Scope) (fuel : Nat) (terms : List Term) (list : List Expr) : Bool :=
  list.any (fun e => s.plainPart fuel (skipCollateAndLikely fuel e) == some .rowid) ||
    s.indexes.any fun ix =>
      ix.unique && ix.filter.isNone && ix.columns.all fun c =>
        let part := s.indexedPart c.expr
        let coll := s.indexCollation c
        let fixed := terms.any fun t =>
          t.target == some (part, .eq) && t.affinityOk &&
            (match part with
              | .column _ => t.collation == coll
              | _ => true)
        fixed || (s.partNotNull part && part.isColumn && list.any fun e =>
          s.plainPart fuel (skipCollateAndLikely fuel e) == some part && s.collation e == coll)

/-- The sides of an `OR`, left to right. -/
def orSides : Nat → Expr → List Expr
  | 0, e => [e]
  | n + 1, e =>
    match skipCollateAndLikely n e with
    | .binary .or a b => orSides n a ++ orSides n b
    | _ => [e]

/-- The conjuncts of an `AND`, left to right. -/
def andSides : Nat → Expr → List Expr
  | 0, e => [e]
  | n + 1, e =>
    match skipCollateAndLikely n e with
    | .binary .and a b => andSides n a ++ andSides n b
    | _ => [e]

/-- Whether an expression holds a subquery. -/
def hasSubquery : Nat → Expr → Bool
  | 0, _ => true
  | n + 1, e =>
    match e with
    | .subquery _ | .hasRows _ | .inQuery _ _ _ => true
    | _ => e.children.attach.any fun ⟨a, _⟩ => hasSubquery n a

/-- A condition as a term of the `WHERE` clause holds it: without the `likelihood` and the
collations around it. -/
def Scope.asTerm (fuel : Nat) (e : Expr) : Expr :=
  match likelihoodOf e with
  | some _ => skipCollateAndLikely fuel e
  | none =>
    match e with
    | .collate _ _ => skipCollateAndLikely fuel e
    | _ => e

/-- One side of an `OR`, as the planner costs it: a side that compares a column is the
one term it is; any other side is read as the conjuncts of an `AND`. -/
def Scope.branch (s : Scope) (fuel : Nat) (e : Expr) : Branch :=
  let (t, _) := s.conjunct fuel 0 e
  let side := Scope.asTerm fuel e
  match t.target with
  | some _ =>
    { expr := side, terms := [t], written := 1,
      probes := (s.probes fuel (s.termExprs fuel [e])).map (·.1) }
  | none =>
    let cs := andSides fuel e
    { expr := side, terms := s.terms fuel cs, written := cs.length,
      probes := (s.probes fuel (s.termExprs fuel cs)).map (·.1) }

/-- The `OR` terms among the conjuncts whose every side some term of the table serves. -/
def Scope.orClauses (s : Scope) (fuel : Nat) (conjuncts : List Expr) : List OrClause :=
  conjuncts.zipIdx.filterMap fun (c, i) =>
    match Scope.asTerm fuel c with
    | .binary .or a b =>
      let branches := (orSides fuel (.binary .or a b)).map (s.branch fuel)
      if branches.all (·.terms.any (·.target.isSome)) then some { term := i, branches } else none
    | _ => none

/-- The conjuncts the planner reads: those of `WHERE`, then those of `HAVING` that have one
value per group. -/
def Scope.conjunctsOf (s : Scope) (fuel : Nat) (r : Request) : List Expr :=
  r.conjuncts ++ (if r.groupBy.isEmpty then [] else r.plainHaving.filter (s.perGroup r.groupBy fuel))

/-- The planner's view of a query, and the probes it may read the table through. The
conjuncts of `HAVING` that have one value per group join those of `WHERE`. A query whose
one aggregate is `min` or `max` of one argument, without `GROUP BY` or `HAVING`, would read
its rows in that argument's order; one whose one aggregate is `DISTINCT` would read them
ordered by its argument when no column is read outside aggregates. -/
def Scope.query (s : Scope) (fuel : Nat) (r : Request) : Query × List (Probe × Option Index) :=
  let conjuncts := s.conjunctsOf fuel r
  let terms := s.terms fuel conjuncts
  let probes := s.probes fuel (s.termExprs fuel conjuncts)
  let used := (r.reads.flatMap (s.usedColumns fuel)).eraseDups
  let calls := r.calls.foldl (fun acc c => if acc.any (s.sameExpr fuel c) then acc else acc ++ [c]) []
  let partCount (es : List Expr) : Nat := (s.partsOf fuel (es.flatMap (exprRefs s.db fuel))).length
  let bare := partCount (r.results ++ r.orderBy.map (·.1) ++ r.plainHaving) > partCount calls
  let minMax : Option (Expr × Bool) :=
    if !r.groupBy.isEmpty || r.hasHaving then none
    else
      match calls with
      | [.call name _ [arg] false none []] =>
        if name.toLower == "min" then some (arg, false)
        else if name.toLower == "max" then some (arg, true)
        else none
      | _ => none
  let distinctArg : Option Expr :=
    match calls with
    | [.call _ true [arg] _ _ _] => if !r.groupBy.isEmpty || !bare then some arg else none
    | _ => none
  let probes := probes.map fun (p, ix) => (s.expressionCover fuel r.reads r.writes used p ix, ix)
  let base : Query :=
    { tableWidth := Table.rowWidth s.table, hasRowid := !s.table.withoutRowid, terms,
      written := conjuncts.length, used, results := r.results.length,
      ors := s.orClauses fuel conjuncts, writes := r.writes }
  let term (e : Expr) (desc : Bool) (nulls : Option Bool) : OrderTerm := s.orderTerm fuel e desc nulls
  let q : Query :=
    if r.aggregate then
      if !r.groupBy.isEmpty then
        let sameLength := r.orderBy.length == r.groupBy.length
        let descs := if sameLength then r.orderBy.map (·.2.1) else r.groupBy.map fun _ => false
        let order := (r.groupBy.zip descs).map fun (g, d) => term g d none
        let sortByGroup := sameLength && (r.orderBy.zip r.groupBy).all fun ((o, d, nulls), g) =>
          nulls != some d && s.sameExpr fuel o g
        { base with order, mode := .groupBy, sortByGroup, distinct := distinctArg.isSome }
      else
        match minMax with
        | some (arg, isMax) =>
          let t := term arg isMax none
          { base with
            order := [{ t with bigNull := !isMax && s.canBeNull fuel arg }],
            orderLimit := true, distinct := distinctArg.isSome }
        | none =>
          match distinctArg with
          | some arg =>
            if s.distinctRedundant fuel terms [arg] then { base with distinct := true }
            else { base with order := [term arg false none], mode := .distinctBy, distinct := true }
          | none => base
    else
      let limit := r.limit.map fun n => logEst n
      if !r.orderBy.isEmpty then
        { base with order := r.orderBy.map (fun (e, d, nulls) => term e d nulls), limit,
                    distinct := r.distinct }
      else if r.distinct && !s.distinctRedundant fuel terms r.results then
        { base with order := r.results.map (term · false none), mode := .distinctBy,
                    limit, distinct := true }
      else { base with limit, distinct := r.distinct }
  (q, probes)

/-- The queries a path through an `OR` term reads each side of it by: for each side, the
side and a query over the side's conjuncts and the other conjuncts that constrain a column
(but hold no subquery), without ordering. -/
def Scope.branchRequests (s : Scope) (fuel : Nat) (r : Request) (q : Query) (i : Nat) :
    List (Expr × Request) :=
  let conjuncts := s.conjunctsOf fuel r
  let others := conjuncts.zipIdx.filterMap fun (c, j) =>
    let t := q.terms.getD j default
    if j == i || hasSubquery fuel c then none
    else if t.target.isSome || q.ors.any (·.term == j) then some (Scope.asTerm fuel c)
    else none
  match q.ors.find? (·.term == i) with
  | some oc => oc.branches.map fun b =>
    (b.expr, { conjuncts := andSides fuel b.expr ++ others, results := r.results, reads := r.reads })
  | none => []

end Plan

end Relational

end CrateState
