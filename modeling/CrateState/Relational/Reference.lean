import CrateState.Relational.Scope
import CrateState.Relational.Pragma

/-!
# Foreign keys

A foreign key says that some columns of a row (the child) name a row of a table (the
parent, possibly the same) by a key of it: its primary key, or columns a unique index
covers. A key with a `NULL` column names nothing and always holds.

## Finding the parent key

The parent is looked for in the child's schema. Its key is the row id when the foreign key
has one column naming the `INTEGER PRIMARY KEY` column, or naming no column of a parent
keyed by row id. Otherwise it is a unique index of the parent, without `WHERE`, over
exactly the named columns (in any order) under their columns' collations; with no column
named, the primary key's index. Without one the key is a mismatch, and a write that must
check it fails before it starts, as when the parent is missing.

## Looking up

A child row finds its parent by the key's values, read with the parent columns'
affinities and compared under their collations; for the row id a value must be, or read
exactly as, an integer. A parent row finds its children by comparing each key value to
the child's column as `parent = child` would.

## Counting instead of failing

A check does not fail on the spot: a row written without its parent counts one dangling
reference, and a change that mends one (a dangling child removed, a parent written that
dangling rows name) uncounts it. A statement may leave references dangling on its way if
none is left at its end; for a deferred key, at the end of the transaction.
-/

namespace CrateState

namespace Relational

def Table.schemaName (t : Table) : String := t.store.name

/-- The position of a column by name. -/
def Table.columnIndex (t : Table) (name : String) : Option Nat :=
  t.columns.findIdx? (sameName ·.name name)

/-- The parent table of a foreign key of a table, in the table's own schema. -/
def Database.parentOf (db : Database) (child : Table) (fk : ForeignKey) : Option Table :=
  match db.findIn? (some child.schemaName) fk.target.parent with
  | some (.table p) => some p
  | _ => none

/-- The foreign keys that refer to a table, each with its child table: the keys of the
tables of the same schema that name it as their parent, the newest first. -/
def Database.referencesTo (db : Database) (t : Table) : List (Table × ForeignKey) :=
  let tables := db.entries.reverse.filterMap fun
    | .table c => if c.store == t.store then some c else none
    | _ => none
  tables.flatMap fun c =>
    (c.foreignKeys.reverse.filter fun fk => sameName fk.target.parent t.name).map (c, ·)

/-- A parent key, as pairs of a parent column (`none` for the row id) and the child
column compared with it, in the order of the parent key. -/
abbrev KeyPairs := List (Option Nat × Nat)

/-- The column of a table an indexed expression is, if it is a plain column. -/
def Table.indexedColumn? (t : Table) (c : IndexedColumn) : Option Nat :=
  match c.expr with
  | .column none none name | .quoted name => t.columnIndex name
  | _ => none

/-- The parent key a foreign key of `child` refers to in `parent`: the row id, or the
first unique index that fits (see the module header); `none` for a mismatch. -/
def parentKey (db : Database) (parent child : Table) (fk : ForeignKey) : Option KeyPairs :=
  let childPos := fk.columns.map fun c => (child.columnIndex c).getD 0
  let rowidKey : Option KeyPairs :=
    match parent.rowidColumn, fk.target.parentColumns, childPos with
    | some _, [], [c] => some [(none, c)]
    | some k, [p], [c] =>
      if sameName (parent.columns.getD k default).name p then some [(none, c)] else none
    | _, _, _ => none
  match rowidKey with
  | some key => some key
  | none =>
    (db.indexesOf parent.name).findSome? fun ix =>
      if !ix.unique || ix.filter.isSome || ix.columns.length != childPos.length then none
      else if fk.target.parentColumns.isEmpty then
        if ix.origin != .primaryKey then none
        else
          (ix.columns.zip childPos).mapM fun (ic, c) => do
            let k ← parent.indexedColumn? ic
            pure (some k, c)
      else
        ix.columns.mapM fun ic => do
          let k ← parent.indexedColumn? ic
          let col := parent.columns.getD k default
          let coll := (ic.collation.bind Collation.ofName?).getD col.collation
          if coll != col.collation then none
          else
            let j ← fk.target.parentColumns.findIdx? (sameName · col.name)
            pure (some k, childPos.getD j 0)

/-- The values of a row's foreign key columns. -/
def ForeignKey.valuesIn (fk : ForeignKey) (t : Table) (values : List SqlValue) :
    List SqlValue :=
  fk.columns.map fun c => values.getD ((t.columnIndex c).getD 0) .null

/-- Whether the parent table holds a row with the key that a child row's values give. -/
def parentHolds (parent : Table) (key : KeyPairs) (values : List SqlValue) : Bool :=
  match key with
  | [(none, c)] =>
    match (values.getD c .null).asNumber true with
    | .int i => parent.rows.any (·.rowid == i)
    | _ => false
  | _ =>
    parent.rows.any fun r => key.all fun (p, c) =>
      match p with
      | some k =>
        let col := parent.columns.getD k default
        let v := (values.getD c .null).withAffinity col.affinity
        let pv := r.values.getD k .null
        !pv.isNull && SqlValue.compareWith col.collation v pv == .eq
      | none => false

/-- Whether a row being written names itself through a foreign key of its own table: its
key values equal its parent key values, compared exactly. -/
def refersToItself (key : KeyPairs) (values : List SqlValue) (rowid : Int) : Bool :=
  match key with
  | [(none, c)] =>
    match (values.getD c .null).asNumber true with
    | .int i => i == rowid
    | _ => false
  | _ =>
    key.all fun (p, c) =>
      match p with
      | some k =>
        let a := values.getD c .null
        let b := values.getD k .null
        !a.isNull && !b.isNull && SqlValue.compare a b == .eq
      | none => false

/-- The rows of a child table that name a parent row's key (`values` and `rowid` are the
parent row's); `skip` leaves out a row id (the parent row itself, when the table names
itself). -/
def referringRows (parent : Table) (key : KeyPairs) (values : List SqlValue) (rowid : Int)
    (child : Table) (skip : Option Int) : List Row :=
  child.rows.filter fun r =>
    some r.rowid != skip && key.all fun (p, c) =>
      let ccol := child.columns.getD c default
      let (pv, aff, coll) : SqlValue × Affinity × Collation := match p with
        | some k =>
          let col := parent.columns.getD k default
          (values.getD k .null, col.affinity, col.collation)
        | none => (.int rowid, .integer, ccol.collation)
      compareValues (comparisonAffinity (some aff) (some ccol.affinity)) coll pv
        (r.values.getD c .null) == some .eq

/-- Whether an update of the named columns writes a column (a name of the row id writes
the `INTEGER PRIMARY KEY` column). -/
def Table.assigns (t : Table) (changed : List String) (col : String) : Bool :=
  changed.any (sameName · col) ||
    match t.rowidColumn with
    | some k => sameName (t.columns.getD k default).name col && changed.any isRowidName
    | none => false

/-- Whether an update of the named columns writes a foreign key's own columns. -/
def ForeignKey.childChanged (fk : ForeignKey) (t : Table) (changed : List String) : Bool :=
  fk.columns.any (t.assigns changed)

/-- Whether an update of the named columns of the parent table writes a column of a
foreign key's parent key (a primary key column when the key names none). -/
def ForeignKey.parentChanged (fk : ForeignKey) (parent : Table) (changed : List String) :
    Bool :=
  match fk.target.parentColumns with
  | [] => parent.columns.any fun c => c.primaryKey && parent.assigns changed c.name
  | cols =>
    cols.any fun p => parent.columns.any fun c => sameName c.name p && parent.assigns changed c.name

/-- Whether a foreign key of a table names the table itself. -/
def ForeignKey.selfReferring (fk : ForeignKey) (t : Table) : Bool :=
  sameName fk.target.parent t.name

/-- Checks that a foreign key of a table can be looked up: its parent table exists in the
table's schema and has a fitting key. -/
def checkParentKey (db : Database) (child : Table) (fk : ForeignKey) : Eval Unit :=
  match db.parentOf child fk with
  | none => fail (.noTable (child.schemaName ++ "." ++ fk.target.parent))
  | some p =>
    if (parentKey db p child fk).isSome then pure ()
    else failWith ("foreign key mismatch - \"" ++ child.name ++ "\" referencing \"" ++
      fk.target.parent ++ "\"")

/-- Checks the foreign keys a write to a table has to look up: those of the table that
`childSide` picks, then those of other tables (or its own) naming it that `parentSide`
picks; nothing when foreign keys are off. -/
def checkForeignKeys (db : Database) (t : Table) (childSide : ForeignKey → Bool)
    (parentSide : ForeignKey → Bool) : Eval Unit := do
  if db.foreignKeys then
    for fk in t.foreignKeys.reverse do
      if childSide fk then checkParentKey db t fk
    for (c, fk) in db.referencesTo t do
      if parentSide fk then
        if (parentKey db t c fk).isNone then
          failWith ("foreign key mismatch - \"" ++ c.name ++ "\" referencing \"" ++
            fk.target.parent ++ "\"")

/-- The dangling references counted for a foreign key: the transaction's for a deferred
one, or for any while `defer_foreign_keys` is on; the statement's otherwise. -/
def Database.dangling (db : Database) (deferred : Bool) : Int :=
  if deferred || db.setting "defer_foreign_keys" then db.deferredReferences
  else db.pendingReferences

/-- Counts references made to dangle (a positive change) or mended (a negative one). -/
def Database.countDangling (db : Database) (deferred : Bool) (delta : Int) : Database :=
  if deferred || db.setting "defer_foreign_keys" then
    { db with deferredReferences := db.deferredReferences + delta }
  else { db with pendingReferences := db.pendingReferences + delta }

/-- The error of references left dangling. -/
def danglingError : SqlError := ⟨787, "FOREIGN KEY constraint failed"⟩

end Relational

end CrateState
