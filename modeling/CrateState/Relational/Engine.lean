import CrateState.Relational.Define
import CrateState.Relational.Analyze
import CrateState.Relational.Read.Statement

/-!
# Running statements

`Database.execute` runs one statement and answers the database after it, with a query's
rows. A statement happens whole or, failing, leaves the database as it found it, except
where a conflict resolution says otherwise: `FAIL` keeps the rows written before the
failure, `ROLLBACK` undoes the open transaction.

`changes` is the number of rows the last finished insert, update or delete changed; other
statements leave it, as does one failing before it runs (an unknown name). A write failing
while it runs sets it to zero, or, when `FAIL` keeps rows, to their number.

`BEGIN` opens a transaction (not inside another), `COMMIT` closes it and `ROLLBACK` restores
the database as at `BEGIN`. A `SAVEPOINT` outside a transaction opens one, which releasing it
commits; `ROLLBACK TO` restores the database as at the savepoint and keeps it open.

`Database.runScript` runs a text's statements one after another and answers the sum of
`changes` after each; the first error (reading or running) ends the script, and what ran
before stays done.
-/

namespace CrateState

namespace Relational

/-- The evaluation budget of one statement. -/
def statementFuel : Nat := 100000

/-- The message of a stop that reached the statement's end. -/
def Stop.message : Stop → Option SqlError
  | .error e _ => some e
  | .ignore => none

/-- Whether a statement ends with references dangling that must not: those it counted
itself, or, outside a transaction, those of deferred foreign keys. -/
def Database.dangles (db : Database) : Bool :=
  db.pendingReferences > 0 || (db.transaction.isNone && db.deferredReferences > 0)

/-- Runs an insert, update, delete or query as the statement at hand, with bound
parameters. A statement that leaves references dangling fails and is undone. -/
def Database.runWrite (db : Database) (a : Action) (params : List SqlValue) :
    Database × Except SqlError Nat :=
  let ctx : Context := { params, journaled := db.keepsJournal a }
  if !a.withinDepth then (db, .error depthError) else
  match checkAction statementFuel { db, params } [] a >>= fun _ =>
      checkAction statementFuel { db, params, collations := true } [] a with
  | .error (.error e _) => (db, .error e)
  | _ =>
  match ((runAction statementFuel ctx a).run).run { db with pendingReferences := 0, written := 0 } with
  | (.ok n, db') =>
    if db'.dangles then ({ db with changes := 0, totalChanges := db'.totalChanges }, .error danglingError)
    else ({ db' with changes := n, totalChanges := db'.totalChanges + n }, .ok n)
  | (.error .ignore, db') => ({ db' with changes := 0, pendingReferences := 0 }, .ok 0)
  | (.error (.error e undo), db') =>
    -- what trigger programs counted stays counted, whatever is undone
    let counted := db'.totalChanges
    match undo with
    | .keep =>
      if db'.dangles then ({ db with changes := 0, totalChanges := counted }, .error danglingError)
      else ({ db' with changes := db'.written, totalChanges := counted + db'.written },
        .error e)
    | .statement => ({ db with changes := 0, totalChanges := counted }, .error e)
    | .unjournaled =>
      match db.transaction with
      | some _ => ({ db' with changes := 0 }, .error e)
      | none => ({ db with changes := 0, totalChanges := counted }, .error e)
    | .transaction =>
      match db.transaction with
      | some tx =>
        ({ db.restore tx.start with changes := 0, transaction := none, totalChanges := counted },
          .error e)
      | none => ({ db with changes := 0, totalChanges := counted }, .error e)

/-- Runs a query with bound parameters. -/
def Database.query (db : Database) (q : Query) (params : List SqlValue) : Except SqlError Relation :=
  let env : Env := { db, params }
  if !q.withinDepth then .error depthError else
  match env.checkReads statementFuel q >>= (fun _ =>
      { env with collations := true }.checkReads statementFuel q) >>= fun _ =>
      runQuery statementFuel env q with
  | .ok r => .ok r
  | .error (.error e _) => .error e
  | .error .ignore => .ok { columns := [], rows := [] }

/-- The value of an expression that reads no table, with bound parameters. -/
def Database.constant (db : Database) (e : Expr) (params : List SqlValue) :
    Except SqlError SqlValue :=
  let env : Env := { db, params }
  match checkExpr statementFuel env [] false e >>= (fun _ =>
      checkExpr statementFuel { env with collations := true } [] false e) >>= fun _ =>
      eval statementFuel env e with
  | .ok v => .ok v
  | .error (.error err _) => .error err
  | .error .ignore => .ok .null

/-- The most databases a connection may have attached at once. -/
def maxAttached : Nat := 10

/-- Attaches a new, empty database under a name no database of the connection has. -/
def Database.attach (db : Database) (name : String) : Except SqlError Database :=
  if db.attached.length ≥ maxAttached then
    .error (.general ("too many attached databases - max " ++ toString maxAttached))
  else if (db.storeNamed? name).isSome then
    .error (.general ("database " ++ name ++ " is already in use"))
  else .ok { db with attached := db.attached ++ [name] }

/-- Detaches an attached database, dropping what it holds. The main database cannot be
detached, nor the temporary one once it holds anything. -/
def Database.detach (db : Database) (name : String) : Except SqlError Database :=
  match db.storeNamed? name with
  | some (.attached n) =>
    .ok { db with attached := db.attached.filter (· != n),
                  entries := db.entries.filter (·.store != .attached n) }
  | some .main => .error (.general ("cannot detach database " ++ name))
  | some .temp =>
    if db.entries.any (·.store.isTemp) then .error (.general ("cannot detach database " ++ name))
    else .error (.general ("no such database: " ++ name))
  | none => .error (.general ("no such database: " ++ name))

/-- Refuses a write to a database opened read-only. -/
def Database.writable (db : Database) : Except SqlError Unit :=
  if db.refusesWrites then .error .readOnly else .ok ()

def Database.define (db : Database) (change : Database → Except SqlError Database) :
    Database × Except SqlError (Option Relation) :=
  match db.writable >>= fun _ => change db with
  | .ok db' => (db', .ok none)
  | .error e => (db, .error e)

/-- Runs one statement with bound parameters, apart from what every statement does
around it (`Database.execute`). -/
def Database.perform (db : Database) (st : Statement) (params : List SqlValue) :
    Database × Except SqlError (Option Relation) :=
  let general (m : String) : Database × Except SqlError (Option Relation) := (db, .error (.general m))
  match st with
  | .select q =>
    match db.query q params with
    | .ok r => (db, .ok (some r))
    | .error e => (db, .error e)
  | .insert i =>
    let (db', r) := db.runWrite (.insert i) params
    (db', r.map fun _ => none)
  | .update u =>
    let (db', r) := db.runWrite (.update u) params
    (db', r.map fun _ => none)
  | .delete d =>
    let (db', r) := db.runWrite (.delete d) params
    (db', r.map fun _ => none)
  | .createTable c => db.define (createTable · c)
  | .createTableAs temp ifNotExists schema name q =>
    match db.writable with
    | .error e => (db, .error e)
    | .ok () =>
      match db.query q params with
      | .error e => (db, .error e)
      | .ok r => db.define fun db => do
        createTableAs db (← schemaOf db schema temp) ifNotExists name r
  | .createIndex c =>
    db.define fun db =>
      match createIndex db c with
      | .ok db' => .ok db'
      | .error s => .error ((s.message).getD (.general "index not created"))
  | .createView c => db.define (createView · c)
  | .createVirtual c => db.define (createVirtual · c)
  | .createTrigger c => db.define (createTrigger · c)
  | .drop kind ifExists schema name => db.define (dropObject · kind ifExists schema name)
  | .alter table a => db.define (alterTable · table a)
  | .begin =>
    if db.inTransaction then general "cannot start a transaction within a transaction"
    else ({ db with transaction := some { start := db.snapshot } }, .ok none)
  | .commit =>
    if db.inTransaction then
      if db.deferredReferences > 0 then (db, .error danglingError)
      else ({ db with transaction := none }, .ok none)
    else general "cannot commit - no transaction is active"
  | .rollback none =>
    match db.transaction with
    | some tx => ({ db.restore tx.start with transaction := none, deferredReferences := 0 }, .ok none)
    | none => general "cannot rollback - no transaction is active"
  | .rollback (some sp) =>
    match db.transaction with
    | some tx =>
      match tx.savepoints.findIdx? (fun (n, _) => sameName n sp) with
      | some k =>
        let kept := tx.savepoints.drop k
        match kept with
        | (_, snap) :: _ =>
          ({ db.restore snap with transaction := some { tx with savepoints := kept } }, .ok none)
        | [] => general ("no such savepoint: " ++ sp)
      | none => general ("no such savepoint: " ++ sp)
    | none => general ("no such savepoint: " ++ sp)
  | .savepoint sp =>
    match db.transaction with
    | some tx =>
      ({ db with transaction := some { tx with savepoints := (sp, db.snapshot) :: tx.savepoints } },
        .ok none)
    | none =>
      ({ db with
          transaction := some
            { start := db.snapshot, savepoints := [(sp, db.snapshot)], bySavepoint := true } },
        .ok none)
  | .release sp =>
    match db.transaction with
    | some tx =>
      match tx.savepoints.findIdx? (fun (n, _) => sameName n sp) with
      | some k =>
        let rest := tx.savepoints.drop (k + 1)
        if rest.isEmpty && tx.bySavepoint then
          if db.deferredReferences > 0 then (db, .error danglingError)
          else ({ db with transaction := none }, .ok none)
        else ({ db with transaction := some { tx with savepoints := rest } }, .ok none)
      | none => general ("no such savepoint: " ++ sp)
    | none => general ("no such savepoint: " ++ sp)
  | .pragma schema name value =>
    -- the schema is looked up first; the versions kept are those of the main database
    let main := match schema.map db.storeNamed? with
      | none | some (some .main) => true
      | _ => false
    if schema.any (db.storeNamed? · |>.isNone) then general ("unknown database " ++ schema.getD "")
    else
      match value with
      | some v =>
        match db.setPragma main name v with
        | .ok db' => (db', .ok none)
        | .error err => (db, .error err)
      | none => (db, .ok none)
  | .attach file name =>
    match db.constant file params >>= fun _ => db.constant name params with
    | .error e => (db, .error e)
    | .ok v =>
      match db.attach v.asText.textD with
      | .ok db' => (db', .ok none)
      | .error e => (db, .error e)
  | .detach name =>
    match db.constant name params with
    | .error e => (db, .error e)
    | .ok v =>
      match db.detach v.asText.textD with
      | .ok db' => (db', .ok none)
      | .error e => (db, .error e)
  | .vacuum schema into =>
    match schema.map db.storeNamed? with
    | some none => general ("unknown database " ++ schema.getD "")
    | some (some .temp) => (db, .ok none)
    | _ =>
      if db.inTransaction then general "cannot VACUUM from within a transaction"
      else
        match into.map (db.constant · params) with
        | some (.error e) => (db, .error e)
        | some (.ok (.text _)) | none => (db, .ok none)
        | some (.ok _) => general "non-text filename"
  | .analyze target =>
    match db.analyze target with
    | .ok db' => (db', .ok none)
    | .error err => (db, .error err)
  | .reindex target =>
    match db.reindex target with
    | .ok () => (db, .ok none)
    | .error err => (db, .error err)
  | .explain _ => (db, .ok none)

/-- The queries a statement reads, which name the tables it reads. -/
def Statement.queries : Statement → List Query
  | .select q | .createTableAs _ _ _ _ q => [q]
  | .insert i =>
    (match i.source with
      | .query q => [q]
      | .defaults => []) ++ i.ctes.map Cte.query
  | .update u => ((u.source.map Source.parts).getD ([], [])).2 ++ u.ctes.map Cte.query
  | .delete d => d.ctes.map Cte.query
  | _ => []

/-- The connection after a statement's first reading of pragmas as tables, each of which
the reading makes a module of virtual tables, under the name as first written. A name
the schema holds is a table, not a pragma. -/
def Database.notePragmaTables (db : Database) (st : Statement) : Database :=
  let names := (st.queries.flatMap (Query.sourceNames heightFuel)).filter fun n =>
    let lower := n.toLower
    lower.startsWith "pragma_" && (pragmaColumns (lower.drop 7).toString).isSome &&
      (db.find? n).isNone
  names.foldl (fun db n =>
    if db.pragmaModules.any (sameName · n) then db
    else { db with pragmaModules := db.pragmaModules ++ [n] }) db

/-- The schema table of the main database as text, to tell whether a statement changed
it. -/
def Database.mainSchemaText (db : Database) : List (List (Option String)) :=
  db.masterRows.map (·.map SqlValue.text?)

/-- The number of tables of the main database. -/
def Database.mainTableCount (db : Database) : Nat :=
  (db.entries.filter fun
    | .table t => t.store == .main
    | _ => false).length

/-- The schema version after a statement that succeeded: one more when a schema statement
changed the main database's schema table; for `CREATE VIRTUAL TABLE` one more for each
table it made there, the tables keeping its contents each made by a statement of their
own; and one more for `VACUUM` of the main database. -/
def Database.countSchemaChange (after before : Database) (st : Statement) : Database :=
  let bumped (k : Nat) : Database := { after with schemaVersion := before.schemaVersion + k }
  match st with
  | .createTable _ | .createTableAs .. | .createIndex _ | .createView _ | .createTrigger _
  | .drop .. | .alter .. | .analyze _ =>
    if after.mainSchemaText != before.mainSchemaText then bumped 1 else after
  | .createVirtual _ => bumped (after.mainTableCount - before.mainTableCount)
  | .vacuum schema none =>
    if schema.all (sameName · "main") then bumped 1 else after
  | _ => after

/-- Whether a statement runs in a transaction of its own when none is open, or ends
the one open: all but setting a pragma, beginning, a savepoint, attaching, detaching and
`EXPLAIN`. -/
def Statement.transacts : Statement → Bool
  | .pragma .. | .begin | .savepoint _ | .attach .. | .detach _ | .explain _ => false
  | _ => true

/-- The connection once a statement is over: when it ended a transaction, its own or the
one open, `defer_foreign_keys` is off again. -/
def Database.closing (db : Database) (st : Statement) : Database :=
  if st.transacts && db.transaction.isNone then
    { db with settings := db.settings.filter (·.1 != "defer_foreign_keys") }
  else db

/-- Runs one statement with bound parameters: the database after it, and the rows of a
query. -/
def Database.execute (db : Database) (st : Statement) (params : List SqlValue) :
    Database × Except SqlError (Option Relation) :=
  let db := db.notePragmaTables st
  match db.perform st params with
  | (after, .ok r) => ((after.countSchemaChange db st).closing st, .ok r)
  | (after, .error e) => (after.closing st, .error e)

/-- Runs the statements of a text one after another, within a budget of statements;
answers the database after them and the sum of `changes` after each. -/
def Database.runStatements (source : Array Char) : Nat → Database → List Token → Nat →
    Database × Except SqlError Nat
  | 0, db, _, total => (db, .ok total)
  | fuel + 1, db, tokens, total =>
    match Reader.nextStatement source tokens with
    | .error e => (db, .error e)
    | .ok none => (db, .ok total)
    | .ok (some (st, rest)) =>
      match db.execute st [] with
      | (db', .error e) => (db', .error e)
      | (db', .ok _) => Database.runStatements source fuel db' rest (total + db'.changes)

/-- Runs a script: its statements one after another, answering the sum of the change
counts after each. -/
def Database.runScript (db : Database) (text : String) : Database × Except SqlError Nat :=
  let tokens := Token.scan text.toList
  Database.runStatements text.toList.toArray (tokens.length + 1) db tokens 0

/-- Runs the first statement of a text with bound parameters: the rows of a query and the
change count after it. -/
def Database.runOne (db : Database) (text : String) (params : List SqlValue) :
    Database × Except SqlError (Relation × Nat) :=
  let tokens := Token.scan text.toList
  match Reader.nextStatement text.toList.toArray tokens with
  | .error e => (db, .error e)
  | .ok none => (db, .ok ({ columns := [], rows := [] }, db.changes))
  | .ok (some (st, _)) =>
    match db.execute st params with
    | (db', .error e) => (db', .error e)
    | (db', .ok r) => (db', .ok (r.getD { columns := [], rows := [] }, db'.changes))

end Relational

end CrateState
