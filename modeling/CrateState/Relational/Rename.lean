import CrateState.Relational.Schema

/-!
# Renaming tables and columns

`ALTER TABLE … RENAME TO` and `… RENAME COLUMN` change every place of the schema naming what
is renamed: the table's constraints, generated columns and indexes, the foreign keys naming
it, views' queries and triggers' programs.

A name is renamed where it stands for the renamed table or column, found as a query finds
it: a table in a `FROM` (not hidden by a common table expression of that name) when its name
is the table's; a qualified column, a column of the source of that name at the nearest level
having one; an unqualified column, the column of the first source at the nearest level
having it. In a trigger, `NEW` and `OLD` stand for rows of the trigger's table.

A column of a subquery or view keeps its name even when the column it reads is renamed: a
query reading the renamed column through it no longer reads.
-/

namespace CrateState

namespace Relational

/-- What a renaming changes: a table, given a new name, or one of its columns. -/
structure Renaming where
  /-- The table's name now. -/
  table : String
  /-- The database the table lives in. -/
  store : Store
  /-- The table's new name (its name again when a column is renamed). -/
  newTable : String
  /-- The renamed column's name now and its new name, when a column is renamed. -/
  column : Option (String × String)
  /-- The columns of every table and view, by name, before the renaming. -/
  known : List (String × List String)

/-- A source of a query level, as a renaming sees it. -/
structure Seen where
  /-- The name it answers to: its alias, or its table's name. -/
  name : String
  /-- Whether it is the renamed table. -/
  renamed : Bool := false
  /-- Whether it answers to its table's own name. -/
  byTableName : Bool := false
  /-- The names of its columns, as far as they are known. -/
  columns : List String := []

/-- The new name of a column of the renamed table. -/
def Renaming.columnName (r : Renaming) (name : String) : String :=
  match r.column with
  | some (old, new) => if sameName name old then new else name
  | none => name

/-- The source a column reference stands for: by its qualifier, or by the first source of
the nearest level that has a column of its name. -/
def Seen.find? (levels : List (List Seen)) (table : Option String) (name : String) :
    Option Seen :=
  match table with
  | some q => levels.findSome? fun level => level.find? (sameName ·.name q)
  | none => levels.findSome? fun level => level.find? fun s => s.columns.any (sameName · name)

/-- A column reference after the renaming: its qualifier and its name. -/
def Renaming.columnRef (r : Renaming) (levels : List (List Seen)) (table : Option String)
    (name : String) : Option String × String :=
  match Seen.find? levels table name with
  | some s =>
    if s.renamed then
      let table' := if s.byTableName && r.column.isNone then table.map fun _ => r.newTable else table
      (table', r.columnName name)
    else (table, name)
  | none => (table, name)

/-- Whether a table named in a statement is the renamed table. -/
def Renaming.names (r : Renaming) (shadow : List String) (schema : Option String)
    (name : String) : Bool :=
  let schemaOk := match schema with
    | none => !shadow.any (sameName · name)
    | some s => sameName s r.store.name
  schemaOk && sameName name r.table

/-- The name a table named in a statement has after the renaming. -/
def Renaming.tableName (r : Renaming) (shadow : List String) (schema : Option String)
    (name : String) : String :=
  if r.column.isNone && r.names shadow schema name then r.newTable else name

/-- The names of the result columns of a query, as far as its first part shows them. -/
def Query.outputNames : Query → List String
  | .mk _ _ body _ _ _ =>
    let rec first : Compound → Core
      | .single c => c
      | .combine _ left _ => first left
    match first body with
    | .select _ items _ _ _ _ =>
      items.filterMap fun
        | .expr (.column _ _ n) none _ => some n
        | .expr _ (some a) _ => some a
        | .expr _ none text => some text
        | _ => none
    | .values rows => (List.range ((rows.headD []).length)).map fun k => "column" ++ toString (k + 1)

/-- The source a renaming sees for a table or view named in a `FROM`. -/
def Renaming.seenTable (r : Renaming) (shadow : List String) (schema : Option String)
    (name : String) (aliasName : Option String) : Seen :=
  let renamed := r.names shadow schema name
  let columns := ((r.known.find? (sameName ·.1 name)).map (·.2)).getD []
  { name := aliasName.getD name, renamed, byTableName := aliasName.isNone, columns }

mutual

/-- An expression after the renaming, read at the given query levels (the innermost
first); `shadow` are the common table expressions in scope. -/
def renameExpr : Nat → Renaming → List String → List (List Seen) → Expr → Expr
  | 0, _, _, _, e => e
  | n + 1, r, shadow, levels, e =>
    let go := renameExpr n r shadow levels
    match e with
    | .column s t name =>
      let (t', name') := r.columnRef levels t name
      .column s t' name'
    | .quoted name => .quoted (r.columnRef levels none name).2
    | .lit _ | .param _ => e
    | .unary op a => .unary op (go a)
    | .binary op a b => .binary op (go a) (go b)
    | .collate a c => .collate (go a) c
    | .cast a ty => .cast (go a) ty
    | .nullTest a isNull => .nullTest (go a) isNull
    | .between a lo hi neg => .between (go a) (go lo) (go hi) neg
    | .inList a items neg => .inList (go a) (items.map go) neg
    | .inQuery a q neg => .inQuery (go a) (renameQuery n r shadow levels q) neg
    | .pattern op a p esc neg => .pattern op (go a) (go p) (esc.map go) neg
    | .case o arms d => .case (o.map go) (arms.map fun (x, y) => (go x, go y)) (d.map go)
    | .call name d args star filter order =>
      .call name d (args.map go) star (filter.map go) (order.map fun (x, o, nulls) => (go x, o, nulls))
    | .hasRows q => .hasRows (renameQuery n r shadow levels q)
    | .subquery q => .subquery (renameQuery n r shadow levels q)
    | .raise a m => .raise a (m.map go)
    | .row items => .row (items.map go)
    | .window f w =>
      .window (go f) (match w with
        | .mk base p o frame => .mk base (p.map go) (o.map fun (x, d, nulls) => (go x, d, nulls)) frame
        | .named b => .named b)

def renameQuery : Nat → Renaming → List String → List (List Seen) → Query → Query
  | 0, _, _, _, q => q
  | n + 1, r, shadow, levels, .mk ctes recursive body order limit offset =>
    let shadow := ctes.map (fun (.mk name _ _) => name) ++ shadow
    let ctes := ctes.map fun (.mk name cols q) => Cte.mk name cols (renameQuery n r shadow levels q)
    let (body, level) := renameCompound n r shadow levels body
    let order := order.map fun (e, d, nulls) => (renameExpr n r shadow (level :: levels) e, d, nulls)
    .mk ctes recursive body order (limit.map (renameExpr n r shadow levels))
      (offset.map (renameExpr n r shadow levels))

/-- A compound query after the renaming, with the sources of its last part. -/
def renameCompound : Nat → Renaming → List String → List (List Seen) → Compound →
    Compound × List Seen
  | 0, _, _, _, c => (c, [])
  | n + 1, r, shadow, levels, .single c =>
    let (c, level) := renameCore n r shadow levels c
    (.single c, level)
  | n + 1, r, shadow, levels, .combine op left right =>
    let (left, _) := renameCompound n r shadow levels left
    let (right, level) := renameCore n r shadow levels right
    (.combine op left right, level)

/-- A simple query after the renaming, with its sources. -/
def renameCore : Nat → Renaming → List String → List (List Seen) → Core → Core × List Seen
  | 0, _, _, _, c => (c, [])
  | n + 1, r, shadow, levels, .values rows =>
    (.values (rows.map (·.map (renameExpr n r shadow levels))), [])
  | n + 1, r, shadow, levels, .select d items source filter groupBy having =>
    let (source, level) := match source with
      | some s =>
        let (s, level) := renameSource n r shadow levels s
        (some s, level)
      | none => (none, [])
    let inner := level :: levels
    let go := renameExpr n r shadow inner
    let items := items.map fun
      | .expr e aliasName text =>
        let text := match e with
          | .column _ t name =>
            let (t', name') := r.columnRef inner t name
            if name' != name || t' != t then
              match t' with
              | some q => q ++ "." ++ name'
              | none => name'
            else text
          | _ => text
        .expr (go e) aliasName text
      | item => item
    (.select d items source (filter.map go) (groupBy.map go) (having.map go), level)

/-- A source after the renaming, with what it shows its query level. -/
def renameSource : Nat → Renaming → List String → List (List Seen) → Source →
    Source × List Seen
  | 0, _, _, _, s => (s, [])
  | _ + 1, r, shadow, _, .table schema name aliasName =>
    (.table schema (r.tableName shadow schema name) aliasName, [r.seenTable shadow schema name aliasName])
  | n + 1, r, shadow, levels, .query q aliasName =>
    (.query (renameQuery n r shadow levels q) aliasName,
      [{ name := aliasName.getD "", columns := q.outputNames }])
  | n + 1, r, shadow, levels, .call name args aliasName =>
    (.call name (args.map (renameExpr n r shadow levels)) aliasName,
      [{ name := aliasName.getD name }])
  | n + 1, r, shadow, levels, .join kind natural left right on usingColumns =>
    let (left, ls) := renameSource n r shadow levels left
    let (right, rs) := renameSource n r shadow levels right
    let level := ls ++ rs
    let usingColumns :=
      if level.any (·.renamed) then usingColumns.map r.columnName else usingColumns
    (.join kind natural left right (on.map (renameExpr n r shadow (level :: levels))) usingColumns,
      level)

end

/-- The depth the renaming walks to, as deep as evaluation goes. -/
def renameDepth : Nat := 10000

/-- The source a write statement's own table is, as a renaming sees it. -/
def Renaming.seenTarget (r : Renaming) (shadow : List String) (schema : Option String)
    (table : String) (aliasName : Option String) : Seen :=
  r.seenTable shadow schema table aliasName

/-- Result columns (of `RETURNING`) after the renaming. -/
def Renaming.items (r : Renaming) (shadow : List String) (levels : List (List Seen))
    (items : List Item) : List Item :=
  items.map fun
    | .expr e aliasName text => .expr (renameExpr renameDepth r shadow levels e) aliasName text
    | item => item

/-- Assignments of the renamed table's columns after the renaming, their values read at
the given levels. -/
def Renaming.assignments (r : Renaming) (target : Bool) (shadow : List String)
    (levels : List (List Seen)) (sets : List Assignment) : List Assignment :=
  sets.map fun (names, e) =>
    (if target then names.map r.columnName else names, renameExpr renameDepth r shadow levels e)

/-- A statement of a trigger's program after the renaming; `levels` holds `NEW` and `OLD`. -/
def Renaming.action (r : Renaming) (levels : List (List Seen)) : Action → Action
  | .insert i =>
    let shadow := i.ctes.map fun (.mk name _ _) => name
    let target := r.seenTarget shadow i.schema i.table i.aliasName
    let excluded : Seen := { target with name := "excluded", byTableName := false }
    let q := fun (q : Query) => renameQuery renameDepth r shadow levels q
    .insert { i with
      ctes := i.ctes.map fun (.mk name cols body) => Cte.mk name cols (q body),
      table := r.tableName shadow i.schema i.table,
      columns := i.columns.map fun cs => if target.renamed then cs.map r.columnName else cs,
      source := match i.source with
        | .query body => .query (q body)
        | .defaults => .defaults,
      upserts := i.upserts.map fun u =>
        { target := u.target.map fun (cols, filter) =>
            (cols.map fun c => { c with expr := renameExpr renameDepth r shadow ([target] :: levels) c.expr },
             filter.map (renameExpr renameDepth r shadow ([target] :: levels))),
          action := match u.action with
            | .nothing => .nothing
            | .update sets filter =>
              .update (r.assignments target.renamed shadow ([target, excluded] :: levels) sets)
                (filter.map (renameExpr renameDepth r shadow ([target, excluded] :: levels))) },
      returning := r.items shadow ([target] :: levels) i.returning }
  | .update u =>
    let shadow := u.ctes.map fun (.mk name _ _) => name
    let target := r.seenTarget shadow u.schema u.table u.aliasName
    let (source, more) := match u.source with
      | some s =>
        let (s, level) := renameSource renameDepth r shadow levels s
        (some s, level)
      | none => (none, [])
    let inner := (target :: more) :: levels
    .update { u with
      ctes := u.ctes.map fun (.mk name cols body) =>
        Cte.mk name cols (renameQuery renameDepth r shadow levels body),
      table := r.tableName shadow u.schema u.table,
      sets := r.assignments target.renamed shadow inner u.sets,
      source,
      filter := u.filter.map (renameExpr renameDepth r shadow inner),
      returning := r.items shadow ([target] :: levels) u.returning }
  | .delete d =>
    let shadow := d.ctes.map fun (.mk name _ _) => name
    let target := r.seenTarget shadow d.schema d.table d.aliasName
    .delete { d with
      ctes := d.ctes.map fun (.mk name cols body) =>
        Cte.mk name cols (renameQuery renameDepth r shadow levels body),
      table := r.tableName shadow d.schema d.table,
      filter := d.filter.map (renameExpr renameDepth r shadow ([target] :: levels)),
      returning := r.items shadow ([target] :: levels) d.returning }
  | .select q => .select (renameQuery renameDepth r [] levels q)

/-- A trigger after the renaming: its table, the columns it watches, its condition and
its program, where `NEW` and `OLD` are rows of its table. -/
def Renaming.trigger (r : Renaming) (tr : Trigger) : Trigger :=
  let onRenamed := tr.store == r.store && sameName tr.table r.table
  let columns := ((r.known.find? (sameName ·.1 tr.table)).map (·.2)).getD []
  let row (name : String) : Seen := { name, renamed := onRenamed, columns }
  let levels := [[row "new", row "old"]]
  { tr with
    table := if onRenamed && r.column.isNone then r.newTable else tr.table,
    event := match tr.event with
      | .update cols => .update (if onRenamed then cols.map r.columnName else cols)
      | ev => ev,
    condition := tr.condition.map (renameExpr renameDepth r [] levels),
    body := tr.body.map (r.action levels) }

def Renaming.view (r : Renaming) (v : View) : View :=
  { v with query := renameQuery renameDepth r [] [] v.query }

/-- An expression of the renamed table's own (a `CHECK`, a generated column, an index
column) after the renaming. -/
def Renaming.own (r : Renaming) (e : Expr) : Expr :=
  let columns := ((r.known.find? (sameName ·.1 r.table)).map (·.2)).getD []
  let self : Seen := { name := r.table, renamed := true, byTableName := true, columns }
  renameExpr renameDepth r [] [[self]] e

def Renaming.index (r : Renaming) (ix : Index) : Index :=
  if ix.store == r.store && sameName ix.table r.table then
    { ix with
      columns := ix.columns.map fun c => { c with expr := r.own c.expr },
      filter := ix.filter.map r.own }
  else ix

/-- A table after the renaming: the renamed table's columns, constraints, generated
columns and foreign keys, and in every table of its schema the foreign keys naming it. -/
def Renaming.inTable (r : Renaming) (t : Table) : Table :=
  let isRenamed := t.store == r.store && sameName t.name r.table
  let t := if isRenamed then
      { t with
        columns := t.columns.map fun c =>
          { c with name := r.columnName c.name, generated := c.generated.map r.own },
        checks := t.checks.map fun ck =>
          { ck with expr := r.own ck.expr, column := ck.column.map r.columnName },
        foreignKeys := t.foreignKeys.map fun fk => { fk with columns := fk.columns.map r.columnName } }
    else t
  if t.store == r.store then
    { t with foreignKeys := t.foreignKeys.map fun fk =>
        if sameName fk.target.parent r.table then
          { fk with target :=
            { fk.target with
              parent := if r.column.isNone then r.newTable else fk.target.parent,
              parentColumns := fk.target.parentColumns.map r.columnName } }
        else fk }
  else t

/-- A catalogue entry after the renaming. -/
def Renaming.entry (r : Renaming) : Entry → Entry
  | .table t => .table (r.inTable t)
  | .index ix => .index (r.index ix)
  | .view v => .view (r.view v)
  | .trigger tr => .trigger (r.trigger tr)

/-- The columns of every table and view of a database, by name. -/
def Database.knownColumns (db : Database) : List (String × List String) :=
  db.entries.filterMap fun
    | .table t => some (t.name, t.columns.map (·.name))
    | .view v => some (v.name, if v.columns.isEmpty then v.query.outputNames else v.columns)
    | _ => none

end Relational

end CrateState
