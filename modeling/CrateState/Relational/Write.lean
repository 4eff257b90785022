import CrateState.Relational.Resolve
import CrateState.Relational.Rtree
import CrateState.Relational.FullText.Command

/-!
# Writing rows: inserts, updates, deletes and triggers

A write runs on the database as state and may stop (`Write`); the state it leaves when it
stops is what `FAIL` keeps, and the statement runner restores the state before the statement
for the other outcomes.

## One row

A row is written in the database's order of steps:

1. `BEFORE` triggers, seeing the new values with the columns' affinities applied;
2. `NOT NULL` constraints column by column, then `STRICT` types, then `CHECK` constraints in
   declaration order;
3. uniqueness: an upsert's `ON CONFLICT` target, the row id, then each unique index, newest
   first; a conflict is resolved by the statement's `OR` clause, else the constraint's own,
   else by aborting;
4. foreign keys (`Relational.Reference`): the row as child and as parent, the old row of an
   update or delete, then the new one, counting dangling references;
5. the write, with the next row id (one past the largest, or past the recorded sequence for
   `AUTOINCREMENT`), and the sequence recorded;
6. the actions of the foreign keys naming a deleted or changed row;
7. `AFTER` triggers, and `RETURNING`.

Each written row counts as one change; rows a `REPLACE` removes do not (they go through their
foreign keys' checks and actions, but fire no trigger). What a trigger's statement or a
foreign key action changes joins the connection's total as soon as that statement completes
(`countStep`), even when the statement that fired it is undone.

## Triggers

A trigger runs its statements with `NEW` and `OLD` in scope and does not fire again while it
runs. `RAISE(IGNORE)` abandons the row at hand and undoes nothing.

## Virtual tables

R*Tree and full-text tables write their rows themselves, with none of the steps above: no
triggers, constraints or foreign keys, only a row id that must be free.
-/

namespace CrateState

namespace Relational

/-- A write: state that survives a stop. -/
abbrev Write := ExceptT Stop (StateM Database)

/-- Runs an evaluation inside a write. -/
def Write.lift {α : Type} (x : Eval α) : Write α :=
  match x with
  | .ok a => pure a
  | .error s => throw s

/-- Stops a write with an error that undoes the statement. -/
def Write.fail {α : Type} (e : SqlError) : Write α := throw (.error e .statement)

/-- Stops a write with a generic error. -/
def Write.failWith {α : Type} (message : String) : Write α := Write.fail (.general message)

/-- What a statement knows of the triggers it runs inside. -/
structure Context where
  /-- The triggers running, which do not fire again. -/
  active : List String := []
  /-- The levels holding `NEW` and `OLD` of the trigger running. -/
  frames : List Frame := []
  /-- How deep triggers are nested. -/
  depth : Nat := 0
  /-- The `OR` clause of the statement that fired the trigger, which overrides those of
  the trigger's statements. -/
  conflict : Option Conflict := none
  /-- Whether the statement is the one being run rather than a trigger's. -/
  topLevel : Bool := true
  /-- The values bound to the statement's parameters. -/
  params : List SqlValue := []
  /-- The schema of the running trigger, which names its missing tables. -/
  home : Option String := none
  /-- The common table expressions of the statement's `WITH`. -/
  ctes : List CteEntry := []
  /-- Whether the statement is the delete a dropped table's rows go through, which fires
  no trigger and looks up no missing parent. -/
  quiet : Bool := false
  /-- Whether the statement keeps a journal to undo its own changes by inside a
  transaction (see `Database.keepsJournal`). -/
  journaled : Bool := true

/-- How much a type error of a `STRICT` table undoes: the statement, whatever its `OR`
clause, by its journal when it keeps one. -/
def Context.strictUndo (ctx : Context) : Undo :=
  if ctx.journaled then .statement else .unjournaled

/-- The environment of a statement in a context, with more levels inside. -/
def Context.env (ctx : Context) (db : Database) (frames : List Frame) : Env :=
  { db, frames := frames ++ ctx.frames, inTrigger := ctx.depth > 0, params := ctx.params,
    home := ctx.home, ctes := ctx.ctes }

/-- The context the triggers a statement fires run in: the `OR` clause that overrides
their statements' is the one the statement itself follows, the firing one's first. A
delete passes none on (`stmt = none`). -/
def Context.firing (ctx : Context) (stmt : Option Conflict) : Context :=
  { ctx with conflict := match ctx.conflict with
    | some c => some c
    | none => stmt }

/-- The context with a statement's common table expressions in scope. -/
def Context.withCtes (ctx : Context) (db : Database) (ctes : List Cte) : Eval Context := do
  let env ← (ctx.env db []).withCtes ctes
  pure { ctx with ctes := env.ctes }

/-- The conflict resolution a failure of a constraint uses: the statement's `OR` clause
(the firing statement's first), else the constraint's. -/
def Context.resolve (ctx : Context) (stmt : Option Conflict) (own : Conflict) : Conflict :=
  match ctx.conflict with
  | some c => c
  | none => stmt.getD own

/-- How much a failure undoes under a conflict resolution. -/
def Conflict.undo : Conflict → Undo
  | .fail => .keep
  | .rollback => .transaction
  | _ => .statement

/-- The error of a failed constraint under a resolution. -/
def constraintStop (mode : Conflict) (code : Nat) (message : String) : Stop :=
  .error ⟨code, message⟩ mode.undo

/-! ## Tables and rows -/

/-- The position of the row with a row id. -/
def Table.row? (t : Table) (rowid : Int) : Option Row := t.rows.find? (·.rowid == rowid)

/-- A table with a row put in its place by row id. -/
def Table.insertRow (t : Table) (r : Row) : Table :=
  let before := t.rows.filter (·.rowid < r.rowid)
  let after := t.rows.filter (·.rowid > r.rowid)
  { t with rows := before ++ [r] ++ after }

/-- A table without the row of a row id (and, for an R*Tree table, without its box). -/
def Table.deleteRow (t : Table) (rowid : Int) : Table :=
  { t with rows := t.rows.filter (·.rowid != rowid),
           rtree := t.rtree.map fun s => { s with tree := s.tree.remove rowid } }

/-- The `k`-th row id tried when the largest row id is taken: the database draws one at
random from `1 … 2^62`, and a fixed spread of that range by a multiplicative hash stands
in for the draw, so that the id is as far from the small ones as a random one is. -/
def spareRowid (k : Nat) : Int :=
  Int.ofNat ((k + 1) * 0x9E3779B97F4A7C15 % Nat.pow 2 64 % Nat.pow 2 62 + 1)

/-- The row id the next row gets: one past the largest (past the recorded sequence too
for `AUTOINCREMENT`); when the largest is the greatest integer, the first unused of a
hundred tries of `spareRowid`, and for `AUTOINCREMENT` an error. -/
def Table.nextRowid (t : Table) (sequence : Int) : Except SqlError Int :=
  let last := match t.rows.getLast? with
    | some r => r.rowid
    | none => 0
  if t.autoincrement then
    if sequence ≥ maxInt || last ≥ maxInt then .error .full
    else .ok (max last sequence + 1)
  else if last ≥ maxInt then
    match (List.range 100).find? (fun k => (t.row? (spareRowid k)).isNone) with
    | some k => .ok (spareRowid k)
    | none => .error .full
  else .ok (last + 1)

/-- Whether a row of the sequence table is the row of a table. -/
def isSequenceRow (table : String) (r : Row) : Bool :=
  match r.values with
  | .text n :: _ => n == table
  | _ => false

/-- The sequence recorded for a table, 0 when none is. -/
def Database.sequenceOf (db : Database) (table : String) : Int :=
  match db.table? "sqlite_sequence" with
  | some s =>
    match s.rows.find? (isSequenceRow table) with
    | some r => (r.values.getD 1 .null).toInt
    | none => 0
  | none => 0

/-- Records that a table handed out a row id, when it is past its recorded sequence. -/
def Database.recordSequence (db : Database) (table : String) (rowid : Int) : Database :=
  match db.table? "sqlite_sequence" with
  | none => db
  | some s =>
    match s.rows.find? (isSequenceRow table) with
    | some r =>
      if rowid > (r.values.getD 1 .null).toInt then
        db.putTable (s.insertRow { r with values := [.text table, .int rowid] })
      else db
    | none =>
      let next := match s.rows.getLast? with
        | some l => l.rowid + 1
        | none => 1
      db.putTable (s.insertRow ⟨next, [.text table, .int rowid]⟩)

/-- The table of a name now, which must exist. -/
def currentTable (name : String) : Write Table := do
  match (← get).table? name with
  | some t => pure t
  | none => Write.fail (.noTable name)

/-- What a write statement writes to. -/
inductive Target where
  | table (t : Table)
  /-- A view with `INSTEAD OF` triggers. -/
  | view (v : View)

/-- Finds what a statement writes to: a table, or a view with `INSTEAD OF` triggers for
the event. -/
def findTarget (schema : Option String) (name : String) (event : TriggerEvent → Bool) :
    Write Target := do
  let db ← get
  match db.findIn? schema name with
  | some (.table t) =>
    if isMasterName name then Write.failWith ("table " ++ name ++ " may not be modified")
    else pure (.table t)
  | some (.view v) =>
    if (db.triggersOf v.name).any (fun tr => tr.time == .insteadOf && event tr.event) then
      pure (.view v)
    else Write.failWith ("cannot modify " ++ v.name ++ " because it is a view")
  | _ =>
    -- `writable_schema` lets a statement write the schema table, which the catalogue
    -- it is read from does not follow
    if isMasterName name then
      if db.setting "writable_schema" then pure (.table (db.masterNamed schema name))
      else Write.failWith ("table " ++ name ++ " may not be modified")
    else Write.fail (.noTable (tableDisplay schema name))

/-- Whether a trigger is a `BEFORE`, `AFTER` or `INSTEAD OF` one of the given time. -/
def TriggerTime.same : TriggerTime → TriggerTime → Bool
  | .before, .before | .after, .after | .insteadOf, .insteadOf => true
  | _, _ => false

/-- The collation an index compares a key column by. -/
def keyCollation (env : Env) (c : IndexedColumn) : Collation :=
  match c.collation.bind Collation.ofName? with
  | some coll => coll
  | none =>
    match exprCollation env c.expr with
    | .ok (some coll) => coll
    | _ => .binary

/-- The message naming an index in a uniqueness failure: its columns as `table.column`,
or the index's name when it indexes an expression. -/
def uniqueMessage (t : Table) (ix : Index) : String :=
  let names := ix.columns.map fun c =>
    match c.expr with
    | .column none none n | .quoted n => (t.columnIndex n).map fun k => (t.columns.getD k default).name
    | _ => none
  if names.all Option.isSome then
    "UNIQUE constraint failed: " ++ ", ".intercalate (names.reduceOption.map (t.name ++ "." ++ ·))
  else "UNIQUE constraint failed: index '" ++ ix.name ++ "'"

/-- The names of columns an upsert target lists. -/
def targetNames (cols : List IndexedColumn) : List String :=
  cols.filterMap fun c =>
    match c.expr with
    | .column none none n | .quoted n => some n
    | _ => none

/-- Whether an index is the one an upsert target names: the same columns, in any order. -/
def Index.matchesTarget (ix : Index) (cols : List IndexedColumn) : Bool :=
  let mine := targetNames ix.columns
  let theirs := targetNames cols
  ix.unique && mine.length == ix.columns.length && theirs.length == cols.length &&
    mine.length == theirs.length && mine.all (fun m => theirs.any (sameName · m)) &&
    theirs.all (fun m => mine.any (sameName · m))

/-- The upsert clause that applies to the row id (`none` index) or to an index. -/
def upsertFor (t : Table) (ups : List Upsert) (ix : Option Index) : Option Upsert :=
  ups.find? fun u =>
    match u.target with
    | none => true
    | some (cols, _) =>
      match ix with
      | some i => i.matchesTarget cols
      | none =>
        match t.rowidColumn, targetNames cols with
        | some k, [n] => sameName (t.columns.getD k default).name n && cols.length == 1
        | _, _ => false

/-- What a uniqueness check decided for a row. -/
inductive Uniqueness where
  /-- Write the row. -/
  | proceed
  /-- Leave the row out. -/
  | skip
  /-- An upsert updated the row in the way, which counts as this many changes. -/
  | updated (changes : Nat)

/-- A uniqueness check to make: the row id, or an index. -/
inductive UniqueCheck where
  /-- The row id. -/
  | rowid
  /-- A unique index. -/
  | index (ix : Index)

/-- The uniqueness checks of a row in the order they are made: the indexes an upsert
names first (the row id after the first of them), the row id, then the other unique
indexes, the newest first. -/
def uniqueChecks (t : Table) (indexes : List Index) (ups : List Upsert) (checkRowid : Bool) :
    List UniqueCheck :=
  let unique := indexes.filter (·.unique)
  let named := ups.filterMap fun u =>
    match u.target with
    | some (cols, _) => unique.find? (·.matchesTarget cols)
    | none => none
  let named := named.foldl (fun (acc : List Index) i =>
    if acc.any (fun (j : Index) => j.name == i.name) then acc else acc ++ [i]) []
  let rest := unique.filter fun i => !named.any (fun (j : Index) => j.name == i.name)
  let rowid := if checkRowid then [UniqueCheck.rowid] else []
  let _ := t
  match named with
  | [] => rowid ++ rest.map .index
  | first :: more => [.index first] ++ rowid ++ more.map .index ++ rest.map .index

/-- The values of a row as a column of the given affinity and strictness keeps them; a
`STRICT` column refuses a value of another type. -/
def strictCheck (t : Table) (values : List SqlValue) : Option SqlError :=
  if !t.strict then none
  else
    (t.columns.zip values).findSome? fun (c, v) =>
      let ty := c.declared.toUpper
      let ok := match v with
        | .null => true
        | .int _ => ty == "INT" || ty == "INTEGER" || ty == "ANY"
        | .real _ => ty == "REAL" || ty == "ANY"
        | .text _ => ty == "TEXT" || ty == "ANY"
        | .blob _ => ty == "BLOB" || ty == "ANY"
      if ok then none
      else some ⟨3091, "cannot store " ++ v.typeName.toUpper.replace "BIGINT" "INT"
        |>.replace "DOUBLE" "REAL" |> fun s => s ++ " value in " ++ ty ++ " column " ++ t.name ++ "." ++ c.name⟩

/-- Checks the types of a row of a `STRICT` table before the `BEFORE` triggers of the event
see it: when the table has such a trigger (whether or not it fires), the row's types are
checked before the triggers run and before its `NOT NULL` constraints. -/
def strictBeforeTriggers (ctx : Context) (t : Table)
    (event : TriggerEvent → Bool) (values : List SqlValue) : Write Unit := do
  if t.strict && !ctx.quiet &&
      ((← get).triggersOf t.name).any (fun tr => tr.time.same .before && event tr.event) then
    match strictCheck t values with
    | some e => throw (.error e ctx.strictUndo)
    | none => pure ()

/-- A value as a `STRICT` column keeps it: integers in `REAL` columns become doubles. -/
def strictValue (c : Column) (v : SqlValue) : SqlValue :=
  let ty := c.declared.toUpper
  match v with
  | .int i => if ty == "REAL" then .real (floatOfInt i) else v
  | v => v

/-- Converts values by their columns' affinities (for `STRICT` tables, by its rules). -/
def Table.applyAffinity (t : Table) (values : List SqlValue) : List SqlValue :=
  (t.columns.zip values).map fun (c, v) =>
    if t.strict then
      let ty := c.declared.toUpper
      if ty == "ANY" then v
      else strictValue c (v.withAffinity (Affinity.ofDeclared ty))
    else v.withAffinity c.affinity

/-- The row id a value gives: an integer, or a text or double that is one; anything else
is a datatype mismatch. -/
def rowidOf (v : SqlValue) : Write Int :=
  match v.asNumber true with
  | .int i => pure i
  | _ => Write.fail .mismatch

/-! ## Foreign keys at run time -/

/-- The checks a row makes as a child when written (`delta = 1`) or removed (`delta = -1`), for
the foreign keys of its table that `pick` selects and whose columns are all non-`NULL`: a
written row whose parent is missing, and which does not name itself, counts a dangling
reference; a removed one whose parent is missing uncounts one (looked at only while some
dangle). With the parent table gone (being dropped), each removed row uncounts one. -/
def childChecks (t : Table) (values : List SqlValue) (rowid : Int) (delta : Int)
    (pick : ForeignKey → Bool) : Write Unit := do
  if (← get).foreignKeys then
    for fk in t.foreignKeys.reverse do
      let db ← get
      if pick fk && !(fk.valuesIn t values).any (·.isNull) then
        match db.parentOf t fk with
        | none => if delta < 0 then set (db.countDangling fk.target.deferred delta)
        | some p =>
          if delta < 0 && db.dangling fk.target.deferred == 0 then pure ()
          else
            match parentKey db p t fk with
            | none => pure ()
            | some key =>
              let itself := delta > 0 && sameName p.name t.name && p.store == t.store &&
                refersToItself key values rowid
              if !itself && !parentHolds p key values then
                set (db.countDangling fk.target.deferred delta)

/-- The checks a row makes as a parent when it is removed (`delta = 1`) or written
(`delta = -1`), for the foreign keys naming its table that `pick` selects: each child row
that names its key counts a dangling reference when the row goes (the row itself left
out), and uncounts one when it comes (looked at only while some dangle). -/
def parentChecks (t : Table) (values : List SqlValue) (rowid : Int) (delta : Int)
    (pick : ForeignKey → Bool) : Write Unit := do
  if (← get).foreignKeys then
    for (c, fk) in (← get).referencesTo t do
      let db ← get
      if pick fk && !(delta < 0 && db.dangling fk.target.deferred == 0) then
        match parentKey db t c fk with
        | none => pure ()
        | some key =>
          let skip := if delta > 0 && sameName c.name t.name then some rowid else none
          let rows := referringRows t key values rowid c skip
          set (db.countDangling fk.target.deferred (delta * rows.length))

/-- The name a parent key column has in `OLD` and `NEW`. -/
def keyColumnName (t : Table) (p : Option Nat) : String :=
  match p with
  | some k => (t.columns.getD k default).name
  | none =>
    match t.rowidColumn with
    | some k => (t.columns.getD k default).name
    | none => "rowid"

/-- `a AND b AND …` of a list (true when empty). -/
def conjunction : List Expr → Expr
  | [] => .lit (.int 1)
  | [e] => e
  | e :: rest => .binary .and e (conjunction rest)

/-- The statement a foreign key's action runs on the child rows that name a parent row,
those where `OLD.k = c` for each key column `k` and child column `c`: a delete (`CASCADE`
on delete), an update giving them the new key (`CASCADE` on update), `NULL` (`SET NULL`)
or the columns' defaults (`SET DEFAULT`), or a query that fails on the first of them
(`RESTRICT`). -/
def actionStatement (parent child : Table) (key : KeyPairs) (action : ForeignAction)
    (onUpdate : Bool) : Action :=
  let childName (k : Nat) : String := (child.columns.getD k default).name
  let oldKey (p : Option Nat) : Expr := .column none (some "old") (keyColumnName parent p)
  let newKey (p : Option Nat) : Expr := .column none (some "new") (keyColumnName parent p)
  let filter := conjunction (key.map fun (p, k) => .binary .eq (oldKey p) (.column none none (childName k)))
  let schema := parent.store.home
  match action, onUpdate with
  | .restrict, _ =>
    .select (Query.ofCore (.select false
      [.expr (.raise .abort (some (.lit (.text "FOREIGN KEY constraint failed")))) none "RAISE"]
      (some (.table (some child.schemaName) child.name none)) (some filter) [] none))
  | .cascade, false => .delete { schema, table := child.name, filter := some filter }
  | _, _ =>
    let value (p : Option Nat) (k : Nat) : Expr :=
      match action with
      | .cascade => newKey p
      | .setDefault =>
        let col := child.columns.getD k default
        if col.generated.isSome then .lit .null else col.default.getD (.lit .null)
      | _ => .lit .null
    .update { schema, table := child.name, sets := key.map fun (p, k) => ([childName k], value p k),
              filter := some filter }

/-- The condition of an `ON UPDATE` action: that the parent key changed,
`NOT (OLD.k IS NEW.k AND …)`. -/
def actionCondition (parent : Table) (key : KeyPairs) : Expr :=
  .unary .not (conjunction (key.map fun (p, _) =>
    .binary .is (.column none (some "old") (keyColumnName parent p))
      (.column none (some "new") (keyColumnName parent p))))

/-! ## The writer -/

/-- Writes a row of an R*Tree table in place of the row of id `old`, if any. The bounds
are narrowed and must not be inverted; the id is the first value, or one past the
largest left when that is `NULL`; an id another row has is a conflict that `REPLACE`
resolves by removing that row and `IGNORE` by writing nothing. The tree loses the box of
the row cleared away, then that of the row written over, then takes the new box (see
`BoxTree`). -/
def writeRtreeRow (ctx : Context) (t : Table) (shape : RtreeShape) (conflict : Option Conflict)
    (old : Option Int) (values : List SqlValue) : Write Nat := do
  let mode := ctx.resolve conflict .abort
  let bounds := shape.narrow (values.drop 1)
  match shape.inverted bounds with
  | some k =>
    if mode == .ignore then pure 0
    else throw (.error (rtreeInvertedError t k) (if mode == .replace then Conflict.abort else mode).undo)
  | none =>
    let given := values.headD .null
    let taken := match given with
      | .null => false
      | v => old != some v.toInt && (t.row? v.toInt).isSome
    if taken && mode == .ignore then pure 0
    else if taken && mode != .replace then throw (.error (rtreeTakenError t) mode.undo)
    else
      let kept := t.rows.filter fun r => !(taken && r.rowid == given.toInt) && some r.rowid != old
      let id := match given with
        | .null => ({ t with rows := kept } : Table).freshId
        | v => v.toInt
      let aux := (values.drop (1 + shape.bounds)).take shape.aux
      let aux := aux ++ List.replicate (shape.aux - aux.length) .null
      let tree := if taken then shape.tree.remove given.toInt else shape.tree
      let tree := match old with
        | some o => tree.remove o
        | none => tree
      let tree := tree.insert id (bounds.map SqlValue.toFloat)
      modify fun db => db.putTable { t with rows := kept ++ [⟨id, .int id :: bounds ++ aux⟩],
                                            rtree := some { shape with tree } }
      if ctx.topLevel then modify fun db => { db with lastRowid := id }
      pure 1

/-- Writes a row of a full-text table in place of the row of id `old`, if any. `values` are
the row's columns, then the table's own column and `rank`; `given` is the row id written,
`NULL` for none.

An insert whose own column is not `NULL` is a command (`Table.runCommand`), or, for a table
keeping no text of its own, `delete`, taking the given id's row out of the index; it counts
one change and leaves the last row id 0.

Otherwise the row id is an integer, or `NULL` for one past the largest (which a text-less
table recording no row sizes cannot make). A table keeping its text refuses another row's
id, unless `REPLACE` removes that row first or `IGNORE` writes nothing; a table without its
text takes the row in place of the other. A table keeping no text at all takes only updates
of every column, and only when made `contentless_delete`. -/
def writeFullTextRow (ctx : Context) (t : Table) (shape : FullTextShape) (conflict : Option Conflict)
    (old : Option Int) (values : List SqlValue) (given : SqlValue) (whole : Bool) : Write Nat := do
  let width := t.columns.length
  let command := values.getD width .null
  let kept := shape.content == .kept
  if old.isNone && !command.isNull then
    let name := command.textD
    if !kept && name.toLower == "delete" then
      if shape.deletable then
        Write.failWith "'delete' may not be used with a contentless_delete=1 table"
      match given with
      | .int id => modify fun db => db.putFullText (t.deleteRow id)
      | _ => pure ()
    else
      match t.runCommand (← get) shape name (values.getD (width + 1) .null) with
      | .ok t' => modify fun db => db.putFullText t'
      | .error e => Write.fail e
    if ctx.topLevel then modify fun db => { db with lastRowid := 0 }
    pure 1
  else
    if old.isSome && shape.content == .dropped then
      if !shape.deletable then Write.failWith ("cannot UPDATE contentless fts5 table: " ++ t.name)
      if !whole then
        Write.failWith ("cannot UPDATE a subset of columns on fts5 contentless-delete table: " ++ t.name)
    let mode := if kept || shape.deletable then ctx.resolve conflict .abort else .abort
    let requested ← match given.asNumber false with
      | .int i => pure (some i)
      | .null => pure none
      | _ => Write.fail .mismatch
    let cleared := match old with
      | some o => t.deleteRow o
      | none => t
    let cleared := match requested with
      | some i => if mode == Conflict.replace && old != some i then cleared.deleteRow i else cleared
      | none => cleared
    let taken := match requested with
      | some i => kept && old != some i && (cleared.row? i).isSome
      | none => false
    if taken && mode == .ignore then pure 0
    else if taken then throw (constraintStop mode 1555 "constraint failed")
    else
      let id ← match requested with
        | some i => pure i
        | none =>
          if !kept && !shape.sized then Write.fail .mismatch
          else match cleared.nextRowid 0 with
            | .ok i => pure i
            | .error e => Write.fail e
      modify fun db => db.putFullText (cleared.insertRow ⟨id, values.take width⟩)
      if ctx.topLevel && old.isNone then modify fun db => { db with lastRowid := id }
      pure 1

/-- Removes a row of a full-text table; a table that keeps no text refuses, unless made
`contentless_delete`. -/
def deleteFullTextRow (t : Table) (shape : FullTextShape) (rowid : Int) : Write Nat := do
  if shape.content == .dropped && !shape.deletable then
    Write.failWith ("cannot DELETE from contentless fts5 table: " ++ t.name)
  modify fun db => db.putFullText (t.deleteRow rowid)
  pure 1

/-! ## The order an update changes rows in

An update that needs nothing but the rows its `WHERE` matches changes each row as it
reads it, in the order of the access path the planner picks. One that fires triggers,
returns rows, has foreign keys to look after, changes the row id or the primary key, may
replace conflicting rows or reads a subquery in its `WHERE` first collects the row ids and
then changes the rows in table order, as does one whose path reads an index it changes. -/

/-- The columns an update of the named columns writes, by position: those named (a name
of the row id names the `INTEGER PRIMARY KEY` column) and the generated columns computed
from them. -/
def Table.updatedColumns (t : Table) (changed : List String) : List Nat :=
  let positions := List.range t.columns.length
  let direct := positions.filter fun k => t.assigns changed (t.columns.getD k default).name
  positions.foldl (fun acc _ =>
    acc ++ positions.filter fun k =>
      !acc.contains k &&
        match (t.columns.getD k default).generated with
        | some g => (t.columnsRead walkDepth g).any acc.contains
        | none => false) direct

/-- Whether an update of the named columns changes an index: a key column or expression,
or the condition of a partial index, reads a column it writes; the primary key of a table
without row ids counts always. -/
def Table.updateChanges (t : Table) (changed : List String) (ix : Index) : Bool :=
  let updated := t.updatedColumns changed
  let touches (e : Expr) : Bool := (t.columnsRead walkDepth e).any updated.contains
  (t.withoutRowid && ix.origin == .primaryKey) || ix.columns.any (fun c => touches c.expr) ||
    (ix.filter.map touches).getD false

/-- Whether an update changes each row as it reads it (see above), given the database. -/
def Database.updatesInPlace (db : Database) (t : Table) (u : Update) : Bool :=
  let changed := u.sets.flatMap (·.1)
  let updated := t.updatedColumns changed
  let keyChanged := changed.any isRowidName || t.rowidColumn.any updated.contains ||
    (t.withoutRowid && t.columns.zipIdx.any fun (c, k) => c.primaryKey && updated.contains k)
  let references := db.foreignKeys &&
    (t.foreignKeys.any (·.childChanged t changed) ||
      (db.referencesTo t).any fun (_, fk) => fk.parentChanged t changed)
  let replaces := u.conflict == some .replace ||
    (u.conflict.isNone && (db.indexesOf t.name).any fun ix =>
      ix.conflict == .replace && ix.columns.any fun c =>
        (t.columnsRead walkDepth c.expr).any updated.contains)
  let triggers := (db.triggersOf t.name).any fun tr => TriggerEvent.watchesUpdate changed tr.event
  !t.isVirtual && u.source.isNone && u.returning.isEmpty && !triggers && !references &&
    !keyChanged && !replaces && !((u.filter.map (Plan.hasSubquery walkDepth)).getD false)

/-- Counts what a statement of a trigger program or of a foreign key action changed, once
it completes: it adds to the connection's total at once, even if the statement that fired
it fails later, and `changes()` reads it until the program ends. A query counts nothing. -/
def countStep (a : Action) (k : Nat) : Write Unit :=
  match a with
  | .select _ => pure ()
  | _ => modify fun db => { db with changes := k, totalChanges := db.totalChanges + k }

mutual

/-- Runs a statement of a trigger or the statement at hand, answering the rows it
changed. -/
def runAction : Nat → Context → Action → Write Nat
  | 0, _, _ => Write.lift outOfFuel
  | n + 1, ctx, a =>
    match a with
    | .insert i => runInsert n ctx i
    | .update u => runUpdate n ctx u
    | .delete d => runDelete n ctx d
    | .select q => do
      let env := ctx.env (← get) []
      Write.lift (env.checkReads n q)
      let _ ← Write.lift (runQuery n env q)
      pure 0

/-- Counts rows the statement at hand changed, as each is stored (see `Database.written`),
before its `AFTER` triggers run; a trigger's rows are not its own. -/
def countWritten (ctx : Context) (k : Nat) : Write Nat := do
  if ctx.topLevel then modify fun db => { db with written := db.written + k }
  pure k

/-- Runs an `INSERT`. -/
def runInsert : Nat → Context → Insert → Write Nat
  | 0, _, _ => Write.lift outOfFuel
  | n + 1, ctx, ins => do
    Write.lift (checkInsertStatement n (ctx.env (← get) []) ctx.active ins)
    let ctx ← Write.lift (ctx.withCtes (← get) ins.ctes)
    if (← get).refusesWrites then throw (.error .readOnly .statement)
    let target ← findTarget ins.schema ins.table TriggerEvent.isInsert
    let (columns, hasRowid, shown) : List String × Bool × String := match target with
      | .table t => (t.columns.map (fun (c : Column) => c.name) ++ t.hiddenNames, !t.withoutRowid, t.name)
      | .view v => (v.columns, false, v.name)
    let columns ← match target with
      | .table _ => pure columns
      | .view v =>
        if v.columns.isEmpty then do
          let cols ← Write.lift (queryColumns n (v.scope (← get)) v.query)
          pure (cols.map (fun (c : ColumnInfo) => c.name))
        else pure columns
    let display := tableDisplay ins.schema ins.table
    -- where each supplied value goes: a column position, or the row id
    -- a generated column takes no value: the values without names go to the others
    let written : List String := match target with
      | .table t =>
        ((List.range t.columns.length).filter (!t.isGenerated ·)).map fun k => (t.columns.getD k default).name
      | .view _ => columns
    let slots ← match ins.columns with
      | none => pure (written.map fun c => (columns.findIdx? (sameName · c)))
      | some names => names.mapM fun nm =>
        match columns.findIdx? (sameName · nm) with
        | some k => pure (some k)
        | none =>
          if hasRowid && isRowidName nm then pure none
          else Write.failWith ("table " ++ display ++ " has no column named " ++ nm)
    let env := ctx.env (← get) []
    let rows ← match ins.source with
      | .defaults => pure [[]]
      | .query (.mk [] _ (.single (.values [r])) [] none none) => do
        pure [← Write.lift (r.mapM (eval n env))]
      | .query q => do pure (← Write.lift (runQuery n env q)).rows
    let _ := shown
    let counts ← rows.mapM fun vals => do
      match target with
      | .view v => do
        let full := columns.map fun _ => SqlValue.null
        let full := (slots.zip vals).foldl (fun (acc : List SqlValue) (sv : Option Nat × SqlValue) =>
          match sv with
          | (some k, v) => acc.set k v
          | (none, _) => acc) full
        let newB : Binding := { name := "new", columns := columns.map fun c => { name := c }, values := full }
        let _ ← fireTriggers n (ctx.firing ins.conflict) v.name .insteadOf TriggerEvent.isInsert
          none (some newB)
        pure 0
      | .table t => do
        let db ← get
        let defaults ← t.columns.mapM fun c =>
          match c.default with
          | some d => Write.lift (eval n { db } d)
          | none => pure SqlValue.null
        let defaults := defaults ++ t.hiddenNames.map fun _ => SqlValue.null
        let full := (slots.zip vals).foldl (fun (acc : List SqlValue) (sv : Option Nat × SqlValue) =>
          match sv with
          | (some k, v) => acc.set k v
          | (none, _) => acc) defaults
        let explicitRowid := (slots.zip vals).findSome? fun (s, v) =>
          match s with
          | none => some v
          | some _ => none
        insertRow n ctx t.name ins.conflict ins.upserts ins.returning full explicitRowid
    pure counts.sum

/-- Inserts one row of values (one per column), with the row id written explicitly if
any. -/
def insertRow : Nat → Context → String → Option Conflict → List Upsert → Returning →
    List SqlValue → Option SqlValue → Write Nat
  | 0, _, _, _, _, _, _, _ => Write.lift outOfFuel
  | n + 1, ctx, name, conflict, ups, returning, values, explicitRowid => do
    let t ← currentTable name
    if let some shape := t.rtree then
      return (← countWritten ctx (← writeRtreeRow ctx t shape conflict none values))
    if let some shape := t.fullText then
      let given ← match explicitRowid.getD .null with
        | .null => pure SqlValue.null
        | v => do pure (.int (← rowidOf v))
      return (← countWritten ctx (← writeFullTextRow ctx t shape conflict none values given true))
    let values := t.applyAffinity values
    let given := match t.rowidColumn with
      | some k => values.getD k .null
      | none => explicitRowid.getD .null
    let givenId ← match given with
      | .null => pure none
      | v => some <$> rowidOf v
    let values ← Write.lift (t.withGenerated (← get) values givenId)
    strictBeforeTriggers ctx t TriggerEvent.isInsert values
    let newB := t.binding "new" values (some (givenId.getD (-1)))
    let go ← fireTriggers n (ctx.firing conflict) t.name .before TriggerEvent.isInsert none (some newB)
    if !go then pure 0
    else
      let t ← currentTable name
      -- the row id is settled before the row is checked, and the generated columns see it
      let rowid ← match givenId with
        | some i => pure i
        | none => match t.nextRowid ((← get).sequenceOf t.name) with
          | .ok i => pure i
          | .error e => Write.fail e
      let values := match t.rowidColumn with
        | some k => values.set k (.int rowid)
        | none => values
      let values ← Write.lift (t.withGenerated (← get) values (some rowid))
      match ← checkRow n ctx t conflict values with
      | none => pure 0
      | some values =>
        match ← checkUnique n ctx t conflict ups values rowid none givenId.isSome with
        | .skip => pure 0
        | .updated k => pure k
        | .proceed =>
          let t ← currentTable name
          childChecks t values rowid 1 (fun _ => true)
          parentChecks t values rowid (-1) (fun _ => true)
          let t ← currentTable name
          modify fun db => db.putTable (t.insertRow ⟨rowid, values⟩)
          let _ ← countWritten ctx 1
          if t.autoincrement then modify fun db => db.recordSequence t.name rowid
          if ctx.topLevel then modify fun db => { db with lastRowid := rowid }
          let newB := t.binding "new" values (some rowid)
          let _ ← fireTriggers n (ctx.firing conflict) t.name .after TriggerEvent.isInsert none
            (some newB)
          let _ ← returnRow n ctx t returning values rowid
          pure 1

/-- Checks `NOT NULL`, `STRICT` types and `CHECK` constraints of a row: the values to
write (a `NOT NULL` column resolved by `REPLACE` takes its default), or `none` when the
row is to be left out. -/
def checkRow : Nat → Context → Table → Option Conflict → List SqlValue →
    Write (Option (List SqlValue))
  | 0, _, _, _, _ => Write.lift outOfFuel
  | n + 1, ctx, t, conflict, values => do
    -- NOT NULL, column by column
    let step (acc : Option (List SqlValue)) (ck : Column × Nat) : Write (Option (List SqlValue)) := do
        let (c, k) := ck
        match acc with
        | none => pure none
        | some vs =>
          match c.notNull, vs.getD k .null with
          | some own, .null =>
            if t.rowidColumn == some k then pure (some vs)
            else
              match ctx.resolve conflict own with
              | .ignore => pure none
              | .replace =>
                match c.default with
                | some d => do
                  let v ← Write.lift (eval n { db := ← get } d)
                  let v := v.withAffinity c.affinity
                  if v.isNull then
                    throw (constraintStop .abort 1299 ("NOT NULL constraint failed: " ++ t.name ++ "." ++ c.name))
                  else pure (some (vs.set k v))
                | none =>
                  throw (constraintStop .abort 1299 ("NOT NULL constraint failed: " ++ t.name ++ "." ++ c.name))
              | mode =>
                throw (constraintStop mode 1299 ("NOT NULL constraint failed: " ++ t.name ++ "." ++ c.name))
          | _, _ => pure (some vs)
    let checked ← (t.columns.zip (List.range t.columns.length)).foldlM step (some values)
    match checked with
    | none => pure none
    | some vs =>
      match strictCheck t vs with
      | some e => throw (.error e ctx.strictUndo)
      | none =>
        let env := ctx.env (← get) [{ bindings := [t.binding t.name vs none] }]
        -- `ignore_check_constraints` leaves the checks unread
        let checks := if (← get).setting "ignore_check_constraints" then [] else t.checks
        let failed ← checks.findM? fun c => do
          let v ← Write.lift (eval n env c.expr)
          pure (v.truth == some false)
        match failed with
        | none => pure (some vs)
        | some c =>
          match ctx.resolve conflict .abort with
          | .ignore => pure none
          | mode =>
            let mode := if mode == .replace then .abort else mode
            throw (constraintStop mode 275 ("CHECK constraint failed: " ++ c.name.getD c.text))

/-- Checks a row's uniqueness against the other rows (`self` is the row's own id when it
is being updated), resolving conflicts. -/
def checkUnique : Nat → Context → Table → Option Conflict → List Upsert → List SqlValue →
    Int → Option Int → Bool → Write Uniqueness
  | 0, _, _, _, _, _, _, _, _ => Write.lift outOfFuel
  | n + 1, ctx, t, conflict, ups, values, rowid, self, checkRowid => do
    let checks := uniqueChecks t ((← get).indexesOf t.name) ups checkRowid
    uniqueSteps n ctx t.name conflict ups values rowid self checks

/-- Makes the uniqueness checks of a row one after another. -/
def uniqueSteps : Nat → Context → String → Option Conflict → List Upsert → List SqlValue →
    Int → Option Int → List UniqueCheck → Write Uniqueness
  | 0, _, _, _, _, _, _, _, _ => Write.lift outOfFuel
  | _ + 1, _, _, _, _, _, _, _, [] => pure .proceed
  | n + 1, ctx, name, conflict, ups, values, rowid, self, check :: rest => do
    let t ← currentTable name
    let single := match ups with
      | [u] => u.target.isNone
      | _ => false
    match check with
    | .rowid =>
      match t.rows.find? (fun r => r.rowid == rowid && some r.rowid != self) with
      | none => uniqueSteps n ctx name conflict ups values rowid self rest
      | some other =>
        let clause := if single then ups.head? else upsertFor t ups none
        let own := t.rowidConflict
        let message := match t.rowidColumn with
          | some k => t.name ++ "." ++ (t.columns.getD k default).name
          | none => t.name ++ ".rowid"
        let code := if t.rowidColumn.isSome then 1555 else 2579
        match clause with
        | some u =>
          match u.action with
          | .nothing => pure .skip
          | .update sets filter =>
            .updated <$> upsertUpdate n ctx t other.rowid sets filter values rowid
        | none =>
          match ctx.resolve conflict own with
          | .ignore => pure .skip
          | .replace =>
            removeReplaced n ctx t other
            uniqueSteps n ctx name conflict ups values rowid self rest
          | mode => throw (constraintStop mode code ("UNIQUE constraint failed: " ++ message))
    | .index ix =>
      let db ← get
      let env (row : List SqlValue) (rid : Int) : Env :=
        ctx.env db [{ bindings := [t.binding t.name row (some rid)] }]
      let inFilter (row : List SqlValue) (rid : Int) : Write Bool := do
        match ix.filter with
        | some f => do pure (← Write.lift (eval n (env row rid) f)).holds
        | none => pure true
      let keyOf (row : List SqlValue) (rid : Int) : Write (List SqlValue) :=
        ix.columns.mapM fun c => Write.lift (eval n (env row rid) c.expr)
      if !(← inFilter values rowid) then uniqueSteps n ctx name conflict ups values rowid self rest
      else
        let key ← keyOf values rowid
        if key.any (·.isNull) then uniqueSteps n ctx name conflict ups values rowid self rest
        else
          let colls := ix.columns.map (keyCollation (env values rowid))
          let clashes ← t.rows.filterM fun r => do
            if some r.rowid == self then pure false
            else if !(← inFilter r.values r.rowid) then pure false
            else
              let k ← keyOf r.values r.rowid
              pure (compareRows colls key k == .eq && !k.any (·.isNull))
          match clashes with
          | [] => uniqueSteps n ctx name conflict ups values rowid self rest
          | other :: _ =>
            let clause := if single then ups.head? else upsertFor t ups (some ix)
            let code := if ix.origin == .primaryKey then 1555 else 2067
            match clause with
            | some u =>
              match u.action with
              | .nothing => pure .skip
              | .update sets filter =>
                .updated <$> upsertUpdate n ctx t other.rowid sets filter values rowid
            | none =>
              match ctx.resolve conflict ix.conflict with
              | .ignore => pure .skip
              | .replace =>
                for r in clashes do
                  removeReplaced n ctx t r
                uniqueSteps n ctx name conflict ups values rowid self rest
              | mode => throw (constraintStop mode code (uniqueMessage t ix))

/-- The `DO UPDATE` of an upsert on the row in the way, with `excluded` the row that was
to be inserted; answers the rows changed. -/
def upsertUpdate : Nat → Context → Table → Int → List Assignment → Option Expr →
    List SqlValue → Int → Write Nat
  | 0, _, _, _, _, _, _, _ => Write.lift outOfFuel
  | n + 1, ctx, t, rowid, sets, filter, proposed, proposedRowid => do
    let excluded := { t.binding "excluded" proposed (some proposedRowid) with qualifiedOnly := true }
    match t.row? rowid with
    | none => pure 0
    | some old =>
      let keep ← match filter with
        | some f => do
          let env := ctx.env (← get) [{ bindings := [t.binding t.name old.values (some rowid), excluded] }]
          pure (← Write.lift (eval n env f)).holds
        | none => pure true
      if !keep then pure 0
      else
        let targets ← resolveSets t sets
        updateRow n { ctx with conflict := none } t.name rowid targets [excluded] (some .abort) []

/-- The columns assignments write: a column position, or `none` for the row id. -/
def resolveSets : Table → List Assignment → Write (List (Option Nat × Expr))
  | t, sets => do
    let pairs ← sets.mapM fun (names, e) =>
      match names, e with
      | [nm], e => pure [(nm, e)]
      | nms, .row items =>
        if nms.length == items.length then pure (nms.zip items)
        else Write.failWith (toString nms.length ++ " columns assigned " ++ toString items.length ++ " values")
      | nms, _ => Write.failWith (toString nms.length ++ " columns assigned 1 values")
    pairs.flatten.mapM fun (nm, e) =>
      match t.columnIndex nm, t.hiddenNames.findIdx? (sameName · nm) with
      | some k, _ => pure (some k, e)
      | none, some h => pure (some (t.columns.length + h), e)
      | none, none =>
        if isRowidName nm && !t.withoutRowid then pure (none, e)
        else Write.fail (.noColumn nm)

/-- Updates one row: computes the assigned values from the row as it is, then checks
and writes it like an inserted row. -/
def updateRow : Nat → Context → String → Int → List (Option Nat × Expr) → List Binding →
    Option Conflict → Returning → Write Nat
  | 0, _, _, _, _, _, _, _ => Write.lift outOfFuel
  | n + 1, ctx, name, rowid, sets, extra, conflict, returning => do
    let t ← currentTable name
    if let some shape := t.fullText then
      match (t.readRows (← get)).find? (·.1 == rowid) with
      | none => return 0
      | some (_, shown) =>
        let env := ctx.env (← get) [{ bindings := t.binding t.name shown (some rowid) :: extra }]
        let assigned ← sets.mapM fun (k, e) => do pure (k, ← Write.lift (eval n env e))
        let values := assigned.foldl (fun acc (k, v) =>
          match k with
          | some k => acc.set k v
          | none => acc) (shown ++ t.hiddenNames.map fun _ => .null)
        let given := ((assigned.find? (·.1.isNone)).map (·.2)).getD (.int rowid)
        let whole := (List.range t.columns.length).all fun k => assigned.any (·.1 == some k)
        return (← countWritten ctx (← writeFullTextRow ctx t shape conflict (some rowid)
          (values.take t.columns.length ++ [.null, .null]) given whole))
    match t.row? rowid with
    | none => pure 0
    | some old =>
      let env := ctx.env (← get) [{ bindings := t.binding t.name old.values (some rowid) :: extra }]
      let assigned ← sets.mapM fun (k, e) => do pure (k, ← Write.lift (eval n env e))
      let changedNames := assigned.filterMap fun (k, _) => k.map fun k => (t.columns.getD k default).name
      let applyTo (vals : List SqlValue) : List SqlValue :=
        assigned.foldl (fun acc (k, v) =>
          match k with
          | some k => acc.set k v
          | none => acc) vals
      if let some shape := t.rtree then
        return (← countWritten ctx (← writeRtreeRow ctx t shape conflict (some rowid) (applyTo old.values)))
      let newRowidV := (assigned.find? (·.1.isNone)).map (·.2)
      let values := t.applyAffinity (applyTo old.values)
      let newRowid ← match t.rowidColumn with
        | some k =>
          if assigned.any (·.1 == some k) then rowidOf (values.getD k .null)
          else match newRowidV with
            | some v => rowidOf v
            | none => pure rowid
        | none => match newRowidV with
          | some v => rowidOf v
          | none => pure rowid
      let values := match t.rowidColumn with
        | some k => values.set k (.int newRowid)
        | none => values
      let values ← Write.lift (t.withGenerated (← get) values (some newRowid))
      strictBeforeTriggers ctx t (TriggerEvent.watchesUpdate changedNames) values
      let oldB := t.binding "old" old.values (some rowid)
      let newB := t.binding "new" values (some newRowid)
      let go ← fireTriggers n (ctx.firing conflict) t.name .before
        (TriggerEvent.watchesUpdate changedNames)
        (some oldB) (some newB)
      if !go then pure 0
      else
        let t ← currentTable name
        match t.row? rowid with
        | none => pure 0
        | some current =>
          let values := t.applyAffinity (applyTo current.values)
          let values := match t.rowidColumn with
            | some k => values.set k (.int newRowid)
            | none => values
          let values ← Write.lift (t.withGenerated (← get) values (some newRowid))
          match ← checkRow n ctx t conflict values with
          | none => pure 0
          | some values =>
            match ← checkUnique n ctx t conflict [] values newRowid (some rowid) (newRowid != rowid) with
            | .skip => pure 0
            | .updated k => pure k
            | .proceed =>
              let t ← currentTable name
              let changed := changedNames ++ (if sets.any (·.1.isNone) then ["rowid"] else [])
              let childPick (fk : ForeignKey) : Bool := fk.selfReferring t || fk.childChanged t changed
              let parentPick (fk : ForeignKey) : Bool := fk.parentChanged t changed
              childChecks t old.values rowid (-1) childPick
              parentChecks t old.values rowid 1 parentPick
              modify fun db => db.putTable (t.deleteRow rowid)
              childChecks t values newRowid 1 childPick
              parentChecks t values newRowid (-1) parentPick
              let t ← currentTable name
              modify fun db => db.putTable (t.insertRow ⟨newRowid, values⟩)
              let _ ← countWritten ctx 1
              foreignActions n ctx t old.values rowid (some (values, newRowid)) parentPick
              let newB := t.binding "new" values (some newRowid)
              let _ ← fireTriggers n (ctx.firing conflict) t.name .after
                (TriggerEvent.watchesUpdate changedNames)
                (some oldB) (some newB)
              let _ ← returnRow n ctx t returning values newRowid
              pure 1

/-- Runs an `UPDATE`. -/
def runUpdate : Nat → Context → Update → Write Nat
  | 0, _, _ => Write.lift outOfFuel
  | n + 1, ctx, u => do
    Write.lift (checkUpdateStatement n (ctx.env (← get) []) ctx.active u)
    let ctx ← Write.lift (ctx.withCtes (← get) u.ctes)
    if (← get).refusesWrites then throw (.error .readOnly .statement)
    let changed := u.sets.flatMap (·.1)
    let target ← findTarget u.schema u.table (TriggerEvent.watchesUpdate changed)
    match target with
    | .view v => do
      let r ← Write.lift (runQuery n (v.scope (← get)) v.query)
      let cols ← Write.lift (viewColumns v.name v.columns r.columns)
      let b : Binding := { name := u.aliasName.getD v.name, columns := cols, values := [] }
      let hits ← r.rows.filterM fun vals => do
        match u.filter with
        | some f => do
          pure (← Write.lift (eval n (ctx.env (← get) [{ bindings := [{ b with values := vals }] }]) f)).holds
        | none => pure true
      for vals in hits do
        let env := ctx.env (← get) [{ bindings := [{ b with values := vals }] }]
        let newVals ← cols.mapM fun c =>
          match u.sets.find? (fun (ns, _) => ns.any (sameName · c.name)) with
          | some (_, e) => Write.lift (eval n env e)
          | none => pure (vals.getD ((cols.findIdx? (·.name == c.name)).getD 0) .null)
        let oldB : Binding := { b with name := "old", values := vals }
        let newB : Binding := { b with name := "new", values := newVals }
        let _ ← fireTriggers n (ctx.firing u.conflict) v.name .insteadOf
          (TriggerEvent.watchesUpdate changed)
          (some oldB) (some newB)
      pure 0
    | .table t => do
      let shown := u.aliasName.getD t.name
      let targets ← resolveSets t u.sets
      let rowEnv (r : Row) (more : List Binding) : Write Env := do
        pure (ctx.env (← get) [{ bindings := t.binding shown r.values (some r.rowid) :: more }])
      -- the rows to change, each with the extra bindings of an `UPDATE … FROM` match
      let fromRows ← match u.source with
        | some s => do pure (some (← Write.lift (sourceRows n (ctx.env (← get) []) s)).2)
        | none => pure none
      -- a full-text table answers its `MATCH` conditions itself
      let matched ← match t.fullText, fromRows with
        | some _, none => do
          let (template, rows) := tableBindings (← get) t (some shown)
          let rows ← match u.filter with
            | some f => Write.lift (filterLevel n (ctx.env (← get) []) (fun row => { bindings := row })
                template f rows)
            | none => pure rows
          pure (some (rows.filterMap fun row => (row.headD default).rowid.map fun id => (id, [])))
        | _, _ => pure none
      let hits ← match matched with
        | some ids => pure ids
        | none => (t.scanOrder (← get) t.rows).filterMapM fun r => do
            match fromRows with
            | none =>
              match u.filter with
              | some f => do
                if (← Write.lift (eval n (← rowEnv r []) f)).holds then pure (some (r.rowid, []))
                else pure none
              | none => pure (some (r.rowid, []))
            | some rows => do
              let found ← rows.findM? fun more => do
                match u.filter with
                | some f => do pure (← Write.lift (eval n (← rowEnv r more) f)).holds
                | none => pure true
              pure (found.map fun more => (r.rowid, more))
      let hits ← if matched.isNone && (← get).updatesInPlace t u then do
          let env := ctx.env (← get) []
          let template := [t.binding shown (t.columns.map fun _ => .null) none]
          let req : Plan.Request :=
            { conjuncts := (u.filter.map Expr.conjuncts).getD [],
              reads := u.filter.toList ++ u.sets.map (·.2), writes := true }
          let rows := hits.filterMap fun (rid, _) =>
            (t.row? rid).map fun r => [t.binding shown r.values (some r.rowid)]
          let ordered ← Write.lift
            (writeOrder n env t template req (t.updateChanges (u.sets.flatMap (·.1))) rows)
          pure (ordered.filterMap fun row => (row.headD default).rowid.map fun id => (id, []))
        else pure hits
      let counts ← hits.mapM fun (rid, more) => do
        updateRow n ctx t.name rid targets (more.map fun b => b) u.conflict u.returning
      pure counts.sum

/-- Runs a `DELETE`. -/
def runDelete : Nat → Context → Delete → Write Nat
  | 0, _, _ => Write.lift outOfFuel
  | n + 1, ctx, d => do
    if !ctx.quiet then Write.lift (checkDeleteStatement n (ctx.env (← get) []) ctx.active d)
    let ctx ← Write.lift (ctx.withCtes (← get) d.ctes)
    if (← get).refusesWrites then throw (.error .readOnly .statement)
    let target ← findTarget d.schema d.table TriggerEvent.isDelete
    match target with
    | .view v => do
      let r ← Write.lift (runQuery n (v.scope (← get)) v.query)
      let cols ← Write.lift (viewColumns v.name v.columns r.columns)
      let b : Binding := { name := d.aliasName.getD v.name, columns := cols, values := [] }
      for vals in r.rows do
        let keep ← match d.filter with
          | some f => do
            pure (← Write.lift (eval n (ctx.env (← get) [{ bindings := [{ b with values := vals }] }]) f)).holds
          | none => pure true
        if keep then
          let _ ← fireTriggers n (ctx.firing none) v.name .insteadOf TriggerEvent.isDelete
            (some { b with name := "old", values := vals }) none
      pure 0
    | .table t => do
      let shown := d.aliasName.getD t.name
      if let some shape := t.fullText then
        let (template, rows) := tableBindings (← get) t (some shown)
        let rows ← match d.filter with
          | some f => Write.lift (filterLevel n (ctx.env (← get) []) (fun row => { bindings := row })
              template f rows)
          | none => pure rows
        let counts ← (rows.filterMap fun row => (row.headD default).rowid).mapM fun id => do
          countWritten ctx (← deleteFullTextRow (← currentTable t.name) shape id)
        return counts.sum
      let hits ← (t.scanOrder (← get) t.rows).filterM fun r => do
        match d.filter with
        | some f => do
          let env := ctx.env (← get) [{ bindings := [t.binding shown r.values (some r.rowid)] }]
          pure (← Write.lift (eval n env f)).holds
        | none => pure true
      let counts ← hits.mapM fun r => deleteRow n ctx t.name r.rowid d.returning
      pure counts.sum

/-- Deletes one row by row id, with its triggers. -/
def deleteRow : Nat → Context → String → Int → Returning → Write Nat
  | 0, _, _, _, _ => Write.lift outOfFuel
  | n + 1, ctx, name, rowid, returning => do
    let t ← currentTable name
    match t.row? rowid with
    | none => pure 0
    | some first =>
      let oldB := t.binding "old" first.values (some rowid)
      let go ← fireTriggers n (ctx.firing none) t.name .before TriggerEvent.isDelete (some oldB) none
      if !go then pure 0
      else
        let t ← currentTable name
        match t.row? rowid with
        | none => pure 0
        | some old =>
          childChecks t first.values rowid (-1) (fun _ => true)
          parentChecks t first.values rowid 1 (fun _ => true)
          let _ ← returnRow n ctx t returning old.values rowid
          let t ← currentTable name
          modify fun db => db.putTable (t.deleteRow rowid)
          let _ ← countWritten ctx 1
          foreignActions n ctx t first.values rowid none (fun _ => true)
          let _ ← fireTriggers n (ctx.firing none) t.name .after TriggerEvent.isDelete
            (some oldB) none
          pure 1

/-- Removes a row that a `REPLACE` clears out of the way: no trigger fires, but the
row's foreign keys are checked and the actions of those naming it run. -/
def removeReplaced : Nat → Context → Table → Row → Write Unit
  | 0, _, _, _ => Write.lift outOfFuel
  | n + 1, ctx, t, r => do
    childChecks t r.values r.rowid (-1) (fun _ => true)
    parentChecks t r.values r.rowid 1 (fun _ => true)
    let t ← currentTable t.name
    modify fun db => db.putTable (t.deleteRow r.rowid)
    foreignActions n ctx t r.values r.rowid none (fun _ => true)

/-- Runs the actions of the foreign keys (those `pick` selects) that name a row of a
table just removed (`new = none`) or changed (`new` its values and row id). An action
runs like a trigger's statement with `OLD` (and `NEW`) the parent row, its conflicts
resolved by aborting; an `ON UPDATE` action only when the key changed. -/
def foreignActions : Nat → Context → Table → List SqlValue → Int →
    Option (List SqlValue × Int) → (ForeignKey → Bool) → Write Unit
  | 0, _, _, _, _, _, _ => Write.lift outOfFuel
  | n + 1, ctx, t, old, oldRowid, new, pick => do
    if (← get).foreignKeys then
      for (c, fk) in (← get).referencesTo t do
        let action := if new.isSome then fk.target.onUpdate else fk.target.onDelete
        if pick fk && action != .noAction then
          match parentKey (← get) t c fk with
          | none => pure ()
          | some key =>
            let oldB := { t.binding "old" old (some oldRowid) with qualifiedOnly := true }
            let bindings := match new with
              | some (vals, rid) => [{ t.binding "new" vals (some rid) with qualifiedOnly := true }, oldB]
              | none => [oldB]
            let frame : Frame := { bindings }
            let home := t.store.home
            let env : Env :=
              { db := ← get, frames := [frame], inTrigger := true, params := ctx.params, home }
            let fires ← if new.isSome then do
                pure (← Write.lift (eval n env (actionCondition t key))).holds
              else pure true
            if fires then
              if ctx.depth ≥ 1000 then Write.failWith "too many levels of trigger recursion"
              else
                let inner : Context :=
                  { active := ctx.active, frames := [frame], depth := ctx.depth + 1,
                    conflict := some .abort, topLevel := false, params := ctx.params, home,
                    journaled := ctx.journaled }
                let saved := (← get).changes
                let a := actionStatement t c key action new.isSome
                countStep a (← runAction n inner a)
                modify fun db => { db with changes := saved }

/-- Computes the `RETURNING` values of a written row (they are not kept). -/
def returnRow : Nat → Context → Table → Returning → List SqlValue → Int → Write Unit
  | 0, _, _, _, _, _ => Write.lift outOfFuel
  | n + 1, ctx, t, returning, values, rowid => do
    if returning.isEmpty then pure ()
    else
      let b := t.binding t.name values (some rowid)
      let env := ctx.env (← get) [{ bindings := [b] }]
      let items ← Write.lift (itemColumns n env [b] returning)
      let _ ← Write.lift (items.mapM fun (e, _, _) => eval n env e)
      pure ()

/-- Fires the triggers of a table for an event at a time, with `OLD` and `NEW`; answers
whether the row goes on (`RAISE(IGNORE)` stops it). -/
def fireTriggers : Nat → Context → String → TriggerTime → (TriggerEvent → Bool) →
    Option Binding → Option Binding → Write Bool
  | 0, _, _, _, _, _, _ => Write.lift outOfFuel
  | n + 1, ctx, table, time, event, old, new => do
    if ctx.quiet then return true
    -- a running trigger fires again only under `recursive_triggers`
    let again := (← get).setting "recursive_triggers"
    let trigs := ((← get).triggersOf table).filter fun tr =>
      tr.time.same time && event tr.event && (again || !ctx.active.any (sameName · tr.name))
    runTriggers n ctx trigs old new

def runTriggers : Nat → Context → List Trigger → Option Binding → Option Binding → Write Bool
  | 0, _, _, _, _ => Write.lift outOfFuel
  | _ + 1, _, [], _, _ => pure true
  | n + 1, ctx, tr :: rest, old, new => do
    let bindings := (new.map fun b => { b with name := "new", qualifiedOnly := true }).toList ++
      (old.map fun b => { b with name := "old", qualifiedOnly := true }).toList
    let frame : Frame := { bindings }
    let home := tr.store.home
    let env : Env := { db := ← get, frames := [frame], inTrigger := true, params := ctx.params, home }
    let fires ← match tr.condition with
      | some c => do pure (← Write.lift (eval n env c)).holds
      | none => pure true
    if !fires then runTriggers n ctx rest old new
    else if ctx.depth ≥ 1000 then Write.failWith "too many levels of trigger recursion"
    else
      let inner : Context :=
        { active := tr.name :: ctx.active, frames := [frame], depth := ctx.depth + 1,
          conflict := ctx.conflict, topLevel := false, params := ctx.params, home,
          journaled := ctx.journaled }
      let saved := (← get).changes
      let finished ← tryCatch (do
          for a in tr.body do
            countStep a (← runAction n inner a)
          pure true)
        fun s => match s with
          | .ignore => pure false
          | e => throw e
      modify fun db => { db with changes := saved }
      if finished then runTriggers n ctx rest old new else pure false

end

/-! ## Statement journals

Inside a transaction a statement keeps a journal to undo its own changes by only when it
may write more than one row and may stop with `ABORT`: through a constraint resolved as
`ABORT`, a foreign key, a function call or `RAISE(ABORT)`, its own or those of the trigger
programs it fires. A type error of a `STRICT` table undoes the statement by that journal
only; without one, the rows written before it stay. -/

mutual

/-- Whether an expression may stop a statement with `ABORT` itself: it calls a function
or raises `ABORT`, or holds a query that does. -/
def Expr.mayAbort : Nat → Expr → Bool
  | 0, _ => true
  | n + 1, e =>
    match e with
    | .call _ _ _ _ _ _ | .window _ _ | .raise .abort _ => true
    | .subquery q | .hasRows q => Query.mayAbort n q
    | .inQuery a q _ => Expr.mayAbort n a || Query.mayAbort n q
    | _ => e.children.attach.any fun ⟨c, _⟩ => Expr.mayAbort n c

/-- Whether a query may stop a statement with `ABORT`: an expression of it may. -/
def Query.mayAbort : Nat → Query → Bool
  | 0, _ => true
  | n + 1, .mk ctes _ body order limit offset =>
    ctes.attach.any (fun ⟨c, _⟩ => match c with
      | .mk _ _ q => Query.mayAbort n q) ||
    Compound.mayAbort n body || order.any (fun (e, _, _) => Expr.mayAbort n e) ||
    limit.any (Expr.mayAbort n) || offset.any (Expr.mayAbort n)

/-- Whether a compound query may stop a statement with `ABORT`. -/
def Compound.mayAbort : Nat → Compound → Bool
  | 0, _ => true
  | n + 1, .single c => Core.mayAbort n c
  | n + 1, .combine _ l r => Compound.mayAbort n l || Core.mayAbort n r

/-- Whether a simple query may stop a statement with `ABORT`. -/
def Core.mayAbort : Nat → Core → Bool
  | 0, _ => true
  | n + 1, .values rows => rows.any (·.any (Expr.mayAbort n))
  | n + 1, .select _ items source filter groupBy having =>
    items.any (fun
      | .expr e _ _ => Expr.mayAbort n e
      | _ => false) ||
    source.any (Source.mayAbort n) || filter.any (Expr.mayAbort n) ||
    groupBy.any (Expr.mayAbort n) || having.any (Expr.mayAbort n)

/-- Whether a source may stop a statement with `ABORT`. -/
def Source.mayAbort : Nat → Source → Bool
  | 0, _ => true
  | _ + 1, .table _ _ _ => false
  | n + 1, .query q _ => Query.mayAbort n q
  | n + 1, .call _ args _ => args.any (Expr.mayAbort n)
  | n + 1, .join _ _ l r on _ => Source.mayAbort n l || Source.mayAbort n r || on.any (Expr.mayAbort n)

end

/-- Whether writing rows to a table may stop with `ABORT` through the table itself, under the
statement's `OR` clause: a `NOT NULL`, `CHECK`, uniqueness or row id check resolved as `ABORT`
(`REPLACE` on `NOT NULL` ends as `ABORT` on its second pass), a foreign key, or a check, index
key, default or generated value calling a function. A check an upsert names resolves as the
upsert does. An update (`update` its columns) checks only what it writes; an insert computes
the defaults and checks the row id of what it gives (`given` its columns, all when none are
named). -/
def Database.tableMayAbort (db : Database) (t : Table) (stmt : Option Conflict)
    (update given : Option (List String)) (ups : List Upsert) : Bool :=
  let aborts (own : Conflict) : Bool := stmt.getD own == .abort
  let updated := update.map t.updatedColumns
  let touched (k : Nat) : Bool := updated.all (·.contains k)
  let reads (e : Expr) : Bool := updated.all fun ks => (t.columnsRead walkDepth e).any ks.contains
  let calls (e : Expr) : Bool := Expr.mayAbort walkDepth e
  let notNulls := t.columns.zipIdx.any fun (c, k) =>
    touched k && c.notNull.any fun own => aborts own || stmt.getD own == .replace
  let checkAborts := match stmt with
    | none | some .abort | some .replace => true
    | _ => false
  let checks := t.checks.any fun c => reads c.expr && (checkAborts || calls c.expr)
  let indexes := (db.indexesOf t.name).filter fun ix =>
    match update with
    | some names => t.updateChanges names ix
    | none => true
  let uniques := indexes.any fun ix =>
    ix.unique && aborts ix.conflict && (upsertFor t ups (some ix)).isNone
  let keys := indexes.any fun ix => ix.columns.any (calls ·.expr) || ix.filter.any calls
  let rowid := aborts t.rowidConflict && (upsertFor t ups none).isNone &&
    match update with
    | some names => names.any isRowidName || t.rowidColumn.any touched
    | none =>
      match given with
      | none => t.rowidColumn.isSome
      | some names => names.any fun n =>
        isRowidName n || t.rowidColumn.any fun k => sameName (t.columns.getD k default).name n
  let references := db.foreignKeys && (!t.foreignKeys.isEmpty || !(db.referencesTo t).isEmpty)
  let defaults := update.isNone && t.columns.any fun c =>
    !(given.all (·.any (sameName · c.name))) && c.default.any calls
  let generated := t.columns.any (·.generated.any calls)
  notNulls || checks || uniques || keys || rowid || references || defaults || generated

/-- Whether a statement may stop with `ABORT`, by itself, through the table it writes or
through the trigger programs it fires (read to `depth` levels of triggers), under the `OR`
clause `outer` of the statement that fired it, which overrides its own. -/
def Database.actionMayAbort (db : Database) : Nat → Option Conflict → Action → Bool
  | 0, _, _ => true
  | depth + 1, outer, a =>
    let fired (table : String) (stmt : Option Conflict) (event : TriggerEvent → Bool) : Bool :=
      (db.triggersOf table).any fun tr =>
        event tr.event && (tr.condition.any (Expr.mayAbort walkDepth) ||
          tr.body.attach.any fun ⟨b, _⟩ => db.actionMayAbort depth stmt b)
    let table (schema : Option String) (name : String) : Option Table :=
      match db.findIn? schema name with
      | some (.table t) => some t
      | _ => none
    let returns (items : Returning) : Bool := items.any fun
      | .expr e _ _ => Expr.mayAbort walkDepth e
      | _ => false
    let within (stmt : Option Conflict) : Option Conflict := match outer with
      | some c => some c
      | none => stmt
    match a with
    | .insert i =>
      (match i.source with
        | .query q => Query.mayAbort walkDepth q
        | .defaults => false) ||
      returns i.returning ||
      i.upserts.any (fun up => match up.action with
        | .update sets filter =>
          let changed := sets.flatMap (·.1)
          sets.any (Expr.mayAbort walkDepth ·.2) || filter.any (Expr.mayAbort walkDepth) ||
            (table i.schema i.table).any (db.tableMayAbort · (some .abort) (some changed) none []) ||
            fired i.table (some .abort) (TriggerEvent.watchesUpdate changed)
        | .nothing => false) ||
      (table i.schema i.table).any (fun t => db.tableMayAbort t (within i.conflict) none
        (match i.source with
          | .defaults => some []
          | .query _ => i.columns) i.upserts) ||
      fired i.table (within i.conflict) TriggerEvent.isInsert
    | .update u =>
      let changed := u.sets.flatMap (·.1)
      u.sets.any (Expr.mayAbort walkDepth ·.2) || u.filter.any (Expr.mayAbort walkDepth) ||
      u.source.any (Source.mayAbort walkDepth) || returns u.returning ||
      (table u.schema u.table).any (db.tableMayAbort · (within u.conflict) (some changed) none []) ||
      fired u.table (within u.conflict) (TriggerEvent.watchesUpdate changed)
    | .delete d =>
      d.filter.any (Expr.mayAbort walkDepth) || returns d.returning ||
      (table d.schema d.table).any (fun t =>
        db.foreignKeys && (!t.foreignKeys.isEmpty || !(db.referencesTo t).isEmpty)) ||
      fired d.table none TriggerEvent.isDelete
    | .select q => Query.mayAbort walkDepth q

/-- How many levels of trigger programs `Database.keepsJournal` reads. -/
def journalDepth : Nat := 8

/-- Whether a statement keeps a journal to undo its own changes by inside a transaction:
it may write more than one row (an insert of several rows or of a query's rows, one that
fires triggers or may replace rows, an update or a delete) and may stop with `ABORT`. -/
def Database.keepsJournal (db : Database) (a : Action) : Bool :=
  let several := match a with
    | .insert i =>
      (match i.source with
        | .query (.mk [] _ (.single (.values [_])) [] none none) | .defaults => false
        | _ => true) ||
      i.conflict == some .replace ||
      (db.triggersOf i.table).any (TriggerEvent.isInsert ·.event) ||
      (match db.findIn? i.schema i.table with
        | some (.table t) => (db.indexesOf t.name).any (fun ix => ix.unique && ix.conflict == .replace) ||
          t.columns.any (fun c => c.notNull == some .replace)
        | _ => false)
    | _ => true
  several && db.actionMayAbort journalDepth none a

end Relational

end CrateState
