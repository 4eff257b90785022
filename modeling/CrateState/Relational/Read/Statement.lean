import CrateState.Relational.Read.Query

/-!
# Reading statements

`nextStatement` reads a script's next statement, skipping empty ones (a lone `;`); a
statement ends at `;` or the end of the text. The grammar is the database's:

* queries; `INSERT`/`REPLACE` with `OR conflict`, columns, rows from a query or
  `DEFAULT VALUES`, `ON CONFLICT` clauses and `RETURNING`; `UPDATE` with `FROM`; `DELETE`;
* `CREATE TABLE` (columns and constraints, table constraints with optional commas,
  `WITHOUT ROWID`, `STRICT`, or `AS query`), `CREATE [UNIQUE] INDEX`, `CREATE VIEW`,
  `CREATE TRIGGER` with its body, `DROP`, `ALTER TABLE`;
* `BEGIN`, `COMMIT`/`END`, `ROLLBACK [TO]`, `SAVEPOINT`, `RELEASE`, `PRAGMA`, `VACUUM`,
  `ANALYZE`, `REINDEX` and `EXPLAIN`.

As in the database, table options other than `WITHOUT ROWID` and `STRICT` are refused while
reading, and a trigger's statements may not name a schema or use `RETURNING`. The texts the
schema keeps (`CREATE … name …` from the name on) are cut out here.
-/

namespace CrateState

namespace Relational

namespace Reader

/-- `IF NOT EXISTS`, if written. -/
def ifNotExists : Reader Bool := do
  if ← acceptKeyword "IF" then
    expectKeyword "NOT"
    expectKeyword "EXISTS"
    pure true
  else pure false

/-- `IF EXISTS`, if written. -/
def ifExists : Reader Bool := do
  if ← acceptKeyword "IF" then
    expectKeyword "EXISTS"
    pure true
  else pure false

/-- `[schema.]name`, with where the unqualified name starts. -/
def qualifiedName : Reader (Option String × String × Nat) := do
  let start ← nextStart
  let first ← name anyName
  if ← acceptSymbol "." then
    let start ← nextStart
    pure (some first, ← name anyName, start)
  else pure (none, first, start)

/-- An optional `AS alias` after a table written by a statement. -/
def targetAlias : Reader (Option String) := do
  if ← acceptKeyword "AS" then some <$> name anyName else pure none

/-- `INDEXED BY name` or `NOT INDEXED`, read and ignored. -/
def indexHint : Reader Unit := do
  if ← acceptKeyword "INDEXED" then
    expectKeyword "BY"
    let _ ← name anyName
  else if (← isKeyword "NOT") && (← second).keyword? == some "INDEXED" then
    let _ ← advance
    let _ ← advance

/-- The fuel a text of `n` tokens gives the reader. -/
def fuelFor (n : Nat) : Nat := 16 * (n + 4)

/-- An indexed column from an ordering term: a `COLLATE` on top is its collation. -/
def indexedColumn (t : OrderTerm) : IndexedColumn :=
  match t.1 with
  | .collate e c => { expr := e, collation := some c, desc := t.2.1 }
  | e => { expr := e, desc := t.2.1 }

/-- `SET` assignments, comma-separated. -/
def assignments (fuel : Nat) : Reader (List Assignment) := do
  let one : Reader Assignment := do
    let columns ← if ← isSymbol "(" then nameList anyName else pure [← name anyName]
    expectSymbol "="
    pure (columns, ← expr fuel 0)
  let first ← one
  let rec more : Nat → List Assignment → Reader (List Assignment)
    | 0, acc => pure acc.reverse
    | n + 1, acc => do
      if ← acceptSymbol "," then more n ((← one) :: acc) else pure acc.reverse
  more ((← get).rest.length) [first]

/-- `RETURNING` items, if written. -/
def returning (fuel : Nat) : Reader Returning := do
  if ← acceptKeyword "RETURNING" then itemList fuel else pure []

/-- `ON CONFLICT` clauses and a final `RETURNING`. -/
def upserts (fuel : Nat) : Reader (List Upsert × Returning) := do
  let rec go : Nat → List Upsert → Reader (List Upsert × Returning)
    | 0, acc => pure (acc.reverse, [])
    | n + 1, acc => do
      if ← isKeyword "RETURNING" then
        pure (acc.reverse, ← returning fuel)
      else if ← acceptKeyword "ON" then
        expectKeyword "CONFLICT"
        if ← acceptSymbol "(" then
          let terms ← orderTerms fuel
          expectSymbol ")"
          let filter ← if ← acceptKeyword "WHERE" then some <$> expr fuel 0 else pure none
          expectKeyword "DO"
          let action ← upsertAction fuel
          go n ({ target := some (terms.map indexedColumn, filter), action } :: acc)
        else
          expectKeyword "DO"
          let action ← upsertAction fuel
          pure (({ target := none, action } :: acc).reverse, ← returning fuel)
      else pure (acc.reverse, [])
  go ((← get).rest.length) []
where
  /-- `NOTHING` or `UPDATE SET … [WHERE …]`. -/
  upsertAction (fuel : Nat) : Reader UpsertAction := do
    if ← acceptKeyword "NOTHING" then pure .nothing
    else
      expectKeyword "UPDATE"
      expectKeyword "SET"
      let sets ← assignments fuel
      let filter ← if ← acceptKeyword "WHERE" then some <$> expr fuel 0 else pure none
      pure (.update sets filter)

/-- An insert after its first keyword: `INSERT [OR c]` or `REPLACE`. -/
def insertBody (fuel : Nat) (conflict : Option Conflict) (inTrigger : Bool) : Reader Insert := do
  expectKeyword "INTO"
  let (schema, table, _) ← qualifiedName
  if inTrigger && schema.isSome then
    throw (.general "qualified table names are not allowed on INSERT, UPDATE, and DELETE statements within triggers")
  let aliasName ← targetAlias
  let columns ← if ← isSymbol "(" then some <$> nameList anyName else pure none
  if ← acceptKeyword "DEFAULT" then
    expectKeyword "VALUES"
    let ret ← returning fuel
    pure { schema, conflict, table, aliasName, columns, source := .defaults, returning := ret }
  else
    let q ← query fuel
    let (ups, ret) ← upserts fuel
    pure { schema, conflict, table, aliasName, columns, source := .query q, upserts := ups, returning := ret }

/-- An insert: `INSERT [OR conflict] INTO …` or `REPLACE INTO …`. -/
def insertStatement (fuel : Nat) (inTrigger : Bool) : Reader Insert := do
  if ← acceptKeyword "REPLACE" then insertBody fuel (some .replace) inTrigger
  else
    expectKeyword "INSERT"
    let conflict ← if ← acceptKeyword "OR" then some <$> conflictWord else pure none
    insertBody fuel conflict inTrigger

/-- An update: `UPDATE [OR conflict] table SET … [FROM …] [WHERE …] [RETURNING …]`. -/
def updateStatement (fuel : Nat) (inTrigger : Bool) : Reader Update := do
  expectKeyword "UPDATE"
  let conflict ← if ← acceptKeyword "OR" then some <$> conflictWord else pure none
  let (schema, table, _) ← qualifiedName
  if inTrigger && schema.isSome then
    throw (.general "qualified table names are not allowed on INSERT, UPDATE, and DELETE statements within triggers")
  let aliasName ← targetAlias
  indexHint
  expectKeyword "SET"
  let sets ← assignments fuel
  let source ← if ← acceptKeyword "FROM" then some <$> fromClause fuel else pure none
  let filter ← if ← acceptKeyword "WHERE" then some <$> expr fuel 0 else pure none
  let ret ← if inTrigger then pure [] else returning fuel
  pure { schema, conflict, table, aliasName, sets, source, filter, returning := ret }

/-- A delete: `DELETE FROM table [WHERE …] [RETURNING …]`. -/
def deleteStatement (fuel : Nat) (inTrigger : Bool) : Reader Delete := do
  expectKeyword "DELETE"
  expectKeyword "FROM"
  let (schema, table, _) ← qualifiedName
  if inTrigger && schema.isSome then
    throw (.general "qualified table names are not allowed on INSERT, UPDATE, and DELETE statements within triggers")
  let aliasName ← targetAlias
  indexHint
  let filter ← if ← acceptKeyword "WHERE" then some <$> expr fuel 0 else pure none
  let ret ← if inTrigger then pure [] else returning fuel
  pure { schema, table, aliasName, filter, returning := ret }

/-- An `ON CONFLICT` clause of a constraint, if written. -/
def onConflict : Reader (Option Conflict) := do
  if (← isKeyword "ON") && (← second).keyword? == some "CONFLICT" then
    let _ ← advance
    let _ ← advance
    some <$> conflictWord
  else pure none

/-- The literal term of a `DEFAULT`: a number, string, blob, `NULL` or `CURRENT_…`. -/
def defaultTerm (fuel : Nat) : Reader Expr := do
  let t ← peek
  match t.lexeme with
  | .number _ _ | .string _ | .blob _ => primary fuel
  | _ =>
    match t.keyword? with
    | some "NULL" | some "CURRENT_TIME" | some "CURRENT_DATE" | some "CURRENT_TIMESTAMP" =>
      primary fuel
    | _ => stuck

/-- What a foreign key does: `SET NULL`, `SET DEFAULT`, `CASCADE`, `RESTRICT` or
`NO ACTION`. -/
def foreignAction : Reader ForeignAction := do
  if ← acceptKeyword "SET" then
    if ← acceptKeyword "NULL" then pure .setNull
    else
      expectKeyword "DEFAULT"
      pure .setDefault
  else if ← acceptKeyword "NO" then
    expectKeyword "ACTION"
    pure .noAction
  else if ← acceptKeyword "CASCADE" then pure .cascade
  else
    expectKeyword "RESTRICT"
    pure .restrict

/-- `REFERENCES table [(columns)]` and its clauses: `ON DELETE` and `ON UPDATE` actions
(the last of each counts), `ON INSERT` and `MATCH`, which change nothing, and a closing
`[NOT] DEFERRABLE [INITIALLY DEFERRED|IMMEDIATE]`. -/
def references : Reader References := do
  let table ← name anyName
  let columns ← if ← isSymbol "(" then nameList anyName else pure []
  let rec clauses : Nat → References → Reader References
    | 0, r => pure r
    | n + 1, r => do
      if ← acceptKeyword "ON" then
        if ← acceptKeyword "DELETE" then clauses n { r with onDelete := ← foreignAction }
        else if ← acceptKeyword "UPDATE" then clauses n { r with onUpdate := ← foreignAction }
        else
          expectKeyword "INSERT"
          let _ ← foreignAction
          clauses n r
      else if ← acceptKeyword "MATCH" then
        let _ ← name anyName
        clauses n r
      else pure r
  let r ← clauses ((← get).rest.length) { parent := table, parentColumns := columns }
  match ← deferrable with
  | some d => pure { r with deferred := d }
  | none => pure r
where
  /-- `[NOT] DEFERRABLE [INITIALLY DEFERRED|IMMEDIATE]`: whether it makes the key
  deferred, `none` when absent. -/
  deferrable : Reader (Option Bool) := do
    let notFirst := (← isKeyword "NOT") && (← second).keyword? == some "DEFERRABLE"
    if notFirst then let _ ← advance
    if ← acceptKeyword "DEFERRABLE" then
      let initially ← if ← acceptKeyword "INITIALLY" then
          if ← acceptKeyword "DEFERRED" then pure true
          else
            expectKeyword "IMMEDIATE"
            pure false
        else pure false
      pure (some (initially && !notFirst))
    else pure none

/-- Whether a character is a blank between the words of a type name. -/
def isTypeBlank (c : Char) : Bool :=
  c == ' ' || c == '\t' || c == '\n' || c == '\r' || c == '\x0c' || c == '\x0b'

/-- Whether reversed text starts with a reversed word, letters in either case. -/
def startsWithWord (rev : List Char) (word : String) : Bool :=
  let w := word.toList.reverse
  (rev.take w.length).map Char.toLower == w

/-- The type written before `AS` of a generated column: the words `GENERATED ALWAYS` are
read as words of the type name, so a type of at least 16 characters that ends in `always`
loses that word, then a trailing `generated`, with the blanks before each. -/
def trimGenerated (ty : String) : String :=
  let rev := ty.toList.reverse
  if ty.length ≥ 16 && startsWithWord rev "always" then
    let rest := (rev.drop 6).dropWhile isTypeBlank
    let rest := if rest.length ≥ 9 && startsWithWord rest "generated" then
      (rest.drop 9).dropWhile isTypeBlank else rest
    String.ofList rest.reverse
  else ty

/-- A type name of a column, with a trailing `GENERATED ALWAYS` taken off. -/
def columnType : Reader String := trimGenerated <$> typeName

/-- The constraints of a column definition. -/
def columnConstraints (fuel : Nat) : Reader (List (Option String × ColumnConstraint)) := do
  let rec go : Nat → Option String → List (Option String × ColumnConstraint) →
      Reader (List (Option String × ColumnConstraint))
    | 0, _, acc => pure acc.reverse
    | n + 1, label, acc => do
      let t ← peek
      let add (c : ColumnConstraint) := go n none ((label, c) :: acc)
      match t.keyword? with
      | some "CONSTRAINT" =>
        let _ ← advance
        go n (some (← name anyName)) acc
      | some "PRIMARY" =>
        let _ ← advance
        expectKeyword "KEY"
        let desc ← if ← acceptKeyword "DESC" then pure true else do
          let _ ← acceptKeyword "ASC"
          pure false
        let conflict ← onConflict
        let auto ← acceptKeyword "AUTOINCREMENT"
        add (.primaryKey desc conflict auto)
      | some "NOT" =>
        let _ ← advance
        if ← acceptKeyword "NULL" then add (.notNull (← onConflict))
        else if ← acceptKeyword "DEFERRABLE" then
          if ← acceptKeyword "INITIALLY" then
            if !(← acceptKeyword "DEFERRED") then expectKeyword "IMMEDIATE"
          go n none acc
        else stuck
      | some "NULL" =>
        let _ ← advance
        let _ ← onConflict
        add .nullable
      | some "UNIQUE" =>
        let _ ← advance
        add (.unique (← onConflict))
      | some "CHECK" =>
        let _ ← advance
        expectSymbol "("
        let start ← nextStart
        let e ← expr fuel 0
        let text ← slice start (← lastStop)
        expectSymbol ")"
        add (.check e text)
      | some "DEFAULT" =>
        let _ ← advance
        let start ← nextStart
        let bracketed ← isSymbol "("
        let e ← if ← acceptSymbol "(" then do
            let e ← expr fuel 0
            expectSymbol ")"
            pure e
          else if ← acceptSymbol "+" then defaultTerm fuel
          else if ← acceptSymbol "-" then negate <$> defaultTerm fuel
          else
            let u ← peek
            match u.lexeme with
            | .word w =>
              if (u.name? idName).isSome then
                let _ ← advance
                let up := w.toUpper
                pure (if up == "TRUE" then Expr.lit (.int 1)
                  else if up == "FALSE" then .lit (.int 0) else .lit (.text w))
              else defaultTerm fuel
            | .quotedName n _ =>
              let _ ← advance
              pure (.lit (.text n))
            | _ => defaultTerm fuel
        -- the text kept is the term as written, or what the brackets enclose, trimmed
        let text ← if bracketed then slice (start + 1) ((← lastStop) - 1)
          else slice start (← lastStop)
        add (.default e (text.trimAscii.toString))
      | some "COLLATE" =>
        let _ ← advance
        add (.collate (← name aliasName))
      | some "REFERENCES" =>
        let _ ← advance
        add (.references (← references))
      | some "DEFERRABLE" =>
        let _ ← advance
        if ← acceptKeyword "INITIALLY" then
          if !(← acceptKeyword "DEFERRED") then expectKeyword "IMMEDIATE"
        go n none acc
      | some "GENERATED" =>
        let _ ← advance
        expectKeyword "ALWAYS"
        expectKeyword "AS"
        add (← generated)
      | some "AS" =>
        let _ ← advance
        add (← generated)
      | _ =>
        match label with
        | some _ => stuck
        | none => pure acc.reverse
  go ((← get).rest.length) none []
where
  /-- `(expr) [kind]` of a generated column: the kind is any one identifier, a keyword
  that falls back to a name included. -/
  generated : Reader ColumnConstraint := do
    expectSymbol "("
    let e ← expr fuel 0
    expectSymbol ")"
    match (← peek).lexeme with
    | .word w =>
      if !keywordList.contains w.toUpper || fallbackList.contains w.toUpper then
        let _ ← advance
        pure (.generated e (some w))
      else pure (.generated e none)
    | .quotedName n _ =>
      let _ ← advance
      pure (.generated e (some ("\"" ++ n ++ "\"")))
    | _ => pure (.generated e none)

/-- A column definition: name, type and constraints. -/
def columnDef (fuel : Nat) : Reader ColumnDef := do
  let n ← name anyName
  let ty ← columnType
  let cs ← columnConstraints fuel
  pure { name := n, type := ty, constraints := cs }

/-- Whether a token starts a table constraint. -/
def startsTableConstraint (t : Token) : Bool :=
  ["CONSTRAINT", "PRIMARY", "UNIQUE", "CHECK", "FOREIGN"].any (t.keyword? == some ·)

/-- A table constraint, with its optional name. -/
def tableConstraint (fuel : Nat) : Reader (Option String × TableConstraint) := do
  let label ← if ← acceptKeyword "CONSTRAINT" then some <$> name anyName else pure none
  let t ← peek
  match t.keyword? with
  | some "PRIMARY" =>
    let _ ← advance
    expectKeyword "KEY"
    expectSymbol "("
    let terms ← orderTerms fuel
    let auto ← acceptKeyword "AUTOINCREMENT"
    expectSymbol ")"
    pure (label, .primaryKey (terms.map indexedColumn) (← onConflict) auto)
  | some "UNIQUE" =>
    let _ ← advance
    expectSymbol "("
    let terms ← orderTerms fuel
    expectSymbol ")"
    pure (label, .unique (terms.map indexedColumn) (← onConflict))
  | some "CHECK" =>
    let _ ← advance
    expectSymbol "("
    let start ← nextStart
    let e ← expr fuel 0
    let text ← slice start (← lastStop)
    expectSymbol ")"
    let _ ← onConflict
    pure (label, .check e text)
  | some "FOREIGN" =>
    let _ ← advance
    expectKeyword "KEY"
    let columns ← nameList anyName
    expectKeyword "REFERENCES"
    pure (label, .foreignKey columns (← references))
  | _ => stuck

/-- The table options after the closing bracket: `WITHOUT ROWID` and `STRICT`. -/
def tableOptions : Reader (Bool × Bool) := do
  let rec go : Nat → Bool → Bool → Reader (Bool × Bool)
    | 0, w, s => pure (w, s)
    | n + 1, w, s => do
      let t ← peek
      let (w, s) ← if t.keyword? == some "WITHOUT" then do
          let _ ← advance
          let o ← advance
          let text ← tokenText o
          if text.toLower == "rowid" then pure (true, s)
          else throw (.general ("unknown table option: " ++ text))
        else
          match t.name? idName with
          | some o =>
            let _ ← advance
            if o.toLower == "strict" then pure (w, true)
            else throw (.general ("unknown table option: " ++ (← tokenText t)))
          | none => stuck
      if ← acceptSymbol "," then go n w s else pure (w, s)
  if (← isKeyword "WITHOUT") || ((← peek).name? idName).isSome then
    go ((← get).rest.length) false false
  else pure (false, false)

/-- `CREATE [TEMP] TABLE …` after `TABLE`. -/
def createTable (fuel : Nat) (temp : Bool) : Reader Statement := do
  let ine ← ifNotExists
  let (schema, tname, nameStart) ← qualifiedName
  if ← acceptKeyword "AS" then
    let q ← query fuel
    return .createTableAs temp ine schema tname q
  expectSymbol "("
  let rec body : Nat → List ColumnDef → List (Option String × TableConstraint) → Bool →
      Reader (List ColumnDef × List (Option String × TableConstraint))
    | 0, cs, ts, _ => pure (cs.reverse, ts.reverse)
    | n + 1, cs, ts, inConstraints => do
      if inConstraints || startsTableConstraint (← peek) then
        if cs.isEmpty then stuck
        let c ← tableConstraint fuel
        if ← acceptSymbol ")" then pure (cs.reverse, (c :: ts).reverse)
        else
          let _ ← acceptSymbol ","
          body n cs (c :: ts) true
      else
        let c ← columnDef fuel
        if cs.length ≥ maxColumns then throw (.general ("too many columns on " ++ tname))
        if ← acceptSymbol "," then body n (c :: cs) ts false
        else
          expectSymbol ")"
          pure ((c :: cs).reverse, ts.reverse)
  let (columns, constraints) ← body ((← get).rest.length) [] [] false
  let (withoutRowid, strict) ← tableOptions
  let text ← slice nameStart (← lastStop)
  pure (.createTable
    { temp := temp, ifNotExists := ine, schema := schema, name := tname,
      columns := columns, constraints := constraints, withoutRowid := withoutRowid,
      strict := strict, text := "CREATE TABLE " ++ text })

/-- `CREATE [UNIQUE] INDEX …` after `INDEX`. -/
def createIndex (fuel : Nat) (unique : Bool) : Reader Statement := do
  let ine ← ifNotExists
  let (schema, iname, nameStart) ← qualifiedName
  expectKeyword "ON"
  let table ← name anyName
  expectSymbol "("
  let terms ← orderTerms fuel
  expectSymbol ")"
  let filter ← if ← acceptKeyword "WHERE" then some <$> expr fuel 0 else pure none
  let text ← slice nameStart (← lastStop)
  let head := if unique then "CREATE UNIQUE INDEX " else "CREATE INDEX "
  pure (.createIndex
    { unique := unique, ifNotExists := ine, schema := schema, name := iname, table := table,
      columns := terms.map indexedColumn, filter := filter, text := head ++ text })

/-- `CREATE [TEMP] VIEW …` after `VIEW`. -/
def createView (fuel : Nat) (temp : Bool) : Reader Statement := do
  let ine ← ifNotExists
  let (schema, vname, nameStart) ← qualifiedName
  let columns ← if ← isSymbol "(" then nameList anyName else pure []
  expectKeyword "AS"
  let q ← query fuel
  let text ← slice nameStart (← lastStop)
  pure (.createView
    { temp := temp, ifNotExists := ine, schema := schema, name := vname, columns := columns,
      query := q, text := "CREATE VIEW " ++ text })

def triggerAction (fuel : Nat) : Reader Action := do
  let t ← peek
  match t.keyword? with
  | some "UPDATE" => .update <$> updateStatement fuel true
  | some "INSERT" | some "REPLACE" => .insert <$> insertStatement fuel true
  | some "DELETE" => .delete <$> deleteStatement fuel true
  | _ => .select <$> query fuel

/-- `CREATE [TEMP] TRIGGER …` after `TRIGGER`. -/
def createTrigger (fuel : Nat) (temp : Bool) : Reader Statement := do
  let ine ← ifNotExists
  let (schema, tname, nameStart) ← qualifiedName
  let time ← if ← acceptKeyword "BEFORE" then pure TriggerTime.before
    else if ← acceptKeyword "AFTER" then pure .after
    else if ← acceptKeyword "INSTEAD" then do
      expectKeyword "OF"
      pure .insteadOf
    else pure .before
  let event ← if ← acceptKeyword "DELETE" then pure TriggerEvent.delete
    else if ← acceptKeyword "INSERT" then pure .insert
    else if ← acceptKeyword "UPDATE" then do
      if ← acceptKeyword "OF" then
        let first ← name anyName
        let rec more : Nat → List String → Reader (List String)
          | 0, acc => pure acc.reverse
          | n + 1, acc => do
            if ← acceptSymbol "," then more n ((← name anyName) :: acc) else pure acc.reverse
        pure (.update (← more ((← get).rest.length) [first]))
      else pure (.update [])
    else stuck
  expectKeyword "ON"
  let (_, table, _) ← qualifiedName
  if ← acceptKeyword "FOR" then
    expectKeyword "EACH"
    expectKeyword "ROW"
  let condition ← if ← acceptKeyword "WHEN" then some <$> expr fuel 0 else pure none
  expectKeyword "BEGIN"
  let rec actions : Nat → List Action → Reader (List Action)
    | 0, acc => pure acc.reverse
    | n + 1, acc => do
      let a ← triggerAction fuel
      expectSymbol ";"
      if ← acceptKeyword "END" then pure (a :: acc).reverse else actions n (a :: acc)
  let body ← actions ((← get).rest.length) []
  let text ← slice nameStart (← lastStop)
  pure (.createTrigger
    { temp := temp, ifNotExists := ine, schema := schema, name := tname, time := time,
      event := event, table := table, condition := condition, body := body,
      text := "CREATE TRIGGER " ++ text })

/-- The tokens of the arguments of a table module up to the bracket that closes them,
split at the commas outside inner brackets; `depth` counts the inner brackets open. -/
def moduleArgTokens : Nat → Nat → List Token → List (List Token) → Reader (List (List Token))
  | 0, _, _, _ => stuck
  | n + 1, depth, cur, acc => do
    let t ← peek
    match t.lexeme with
    | .finish => stuck
    | .symbol "(" =>
      let _ ← advance
      moduleArgTokens n (depth + 1) (t :: cur) acc
    | .symbol ")" =>
      let _ ← advance
      if depth == 0 then pure (cur.reverse :: acc).reverse
      else moduleArgTokens n (depth - 1) (t :: cur) acc
    | .symbol "," =>
      let _ ← advance
      if depth == 0 then moduleArgTokens n 0 [] (cur.reverse :: acc)
      else moduleArgTokens n depth (t :: cur) acc
    | _ =>
      let _ ← advance
      moduleArgTokens n depth (t :: cur) acc

/-- The name a token spells: a name's, else its text. -/
def spelledName (t : Token) : Reader String := do
  match t.name? anyName with
  | some n => pure n
  | none => tokenText t

/-- The arguments of a table module, in brackets after its name if any; an empty one is
left out. -/
def moduleArgs : Reader (List ModuleArg) := do
  if !(← acceptSymbol "(") then return []
  let groups ← moduleArgTokens ((← get).rest.length + 1) 0 [] []
  groups.filterMapM fun g => do
    match g, g.getLast? with
    | first :: rest, some last =>
      let text ← slice first.start last.stop
      if first.lexeme == .symbol "+" then
        let name ← match rest with
          | t :: _ => spelledName t
          | [] => pure ""
        pure (some { text, name, aux := true })
      else pure (some { text, name := ← spelledName first, aux := false })
    | _, _ => pure none

/-- `CREATE …`. -/
def createStatement (fuel : Nat) : Reader Statement := do
  expectKeyword "CREATE"
  let temp ← acceptKeyword "TEMP" <||> acceptKeyword "TEMPORARY"
  if ← acceptKeyword "TABLE" then createTable fuel temp
  else if ← acceptKeyword "VIEW" then createView fuel temp
  else if ← acceptKeyword "TRIGGER" then createTrigger fuel temp
  else if temp then stuck
  else if ← acceptKeyword "UNIQUE" then
    expectKeyword "INDEX"
    createIndex fuel true
  else if ← acceptKeyword "INDEX" then createIndex fuel false
  else if ← acceptKeyword "VIRTUAL" then
    expectKeyword "TABLE"
    let ine ← ifNotExists
    let (schema, tname, nameStart) ← qualifiedName
    expectKeyword "USING"
    let m ← name anyName
    let args ← moduleArgs
    let text ← slice nameStart (← lastStop)
    pure (.createVirtual
      { ifNotExists := ine, schema := schema, name := tname, moduleName := m, args := args,
        text := "CREATE VIRTUAL TABLE " ++ text })
  else stuck

/-- `DROP TABLE|INDEX|VIEW|TRIGGER [IF EXISTS] name`. -/
def dropStatement : Reader Statement := do
  expectKeyword "DROP"
  let kind ← if ← acceptKeyword "TABLE" then pure ObjectKind.table
    else if ← acceptKeyword "INDEX" then pure .index
    else if ← acceptKeyword "VIEW" then pure .view
    else if ← acceptKeyword "TRIGGER" then pure .trigger
    else stuck
  let ie ← ifExists
  let (schema, n, _) ← qualifiedName
  pure (.drop kind ie schema n)

/-- `ALTER TABLE name …`. -/
def alterStatement (fuel : Nat) : Reader Statement := do
  expectKeyword "ALTER"
  expectKeyword "TABLE"
  let (_, table, _) ← qualifiedName
  if ← acceptKeyword "RENAME" then
    if ← acceptKeyword "TO" then pure (.alter table (.rename (← name anyName)))
    else
      let _ ← acceptKeyword "COLUMN"
      let old ← name anyName
      expectKeyword "TO"
      pure (.alter table (.renameColumn old (← name anyName)))
  else if ← acceptKeyword "ADD" then
    let _ ← acceptKeyword "COLUMN"
    let start ← nextStart
    let c ← columnDef fuel
    let text ← slice start (← lastStop)
    pure (.alter table (.addColumn c text))
  else if ← acceptKeyword "DROP" then
    let _ ← acceptKeyword "COLUMN"
    pure (.alter table (.dropColumn (← name anyName)))
  else stuck

/-- The value of a `PRAGMA`: a name, a keyword, a signed number or a string. -/
def pragmaValue (fuel : Nat) : Reader SqlValue := do
  let t ← peek
  match t.lexeme with
  | .symbol "+" =>
    -- a plus sign is dropped
    let _ ← advance
    match (← peek).lexeme with
    | .number _ _ =>
      match ← unary fuel with
      | .lit v => pure v
      | _ => stuck
    | _ => stuck
  | .symbol "-" | .number _ _ =>
    match ← unary fuel with
    | .lit v => pure v
    | _ => stuck
  | .string s =>
    let _ ← advance
    pure (.text s)
  | _ =>
    if t.keyword? == some "ON" || t.keyword? == some "DELETE" || t.keyword? == some "DEFAULT" then
      let _ ← advance
      pure (.text (← tokenText t))
    else pure (.text (← name anyName))

/-- `BEGIN`, `COMMIT`, `ROLLBACK`, `SAVEPOINT` and `RELEASE`. -/
def transactionStatement : Reader Statement := do
  let t ← advance
  let transactionName : Reader Unit := do
    if ← acceptKeyword "TRANSACTION" then
      let _ ← acceptName anyName
  match t.keyword? with
  | some "BEGIN" =>
    if !(← acceptKeyword "DEFERRED") then
      if !(← acceptKeyword "IMMEDIATE") then
        let _ ← acceptKeyword "EXCLUSIVE"
    transactionName
    pure .begin
  | some "COMMIT" | some "END" =>
    transactionName
    pure .commit
  | some "ROLLBACK" =>
    transactionName
    if ← acceptKeyword "TO" then
      let _ ← acceptKeyword "SAVEPOINT"
      pure (.rollback (some (← name anyName)))
    else pure (.rollback none)
  | some "SAVEPOINT" => pure (.savepoint (← name anyName))
  | _ =>
    let _ ← acceptKeyword "SAVEPOINT"
    pure (.release (← name anyName))

/-- An operand of `ATTACH` or `DETACH`: a bare name stands for its text. -/
def nameAsText : Expr → Expr
  | .column none none n | .quoted n => .lit (.text n)
  | e => e

def statement : Nat → Reader Statement
  | 0 => stuck
  | fuel + 1 => do
    let t ← peek
    match t.keyword? with
    | some "EXPLAIN" =>
      let _ ← advance
      if ← acceptKeyword "QUERY" then expectKeyword "PLAN"
      pure (.explain (← statement fuel))
    | some "WITH" =>
      let _ ← advance
      let recursive ← acceptKeyword "RECURSIVE"
      let ctes ← cteList fuel
      match (← peek).keyword? with
      | some "INSERT" | some "REPLACE" =>
        let i ← insertStatement fuel false
        pure (.insert { i with ctes })
      | some "UPDATE" =>
        let u ← updateStatement fuel false
        pure (.update { u with ctes })
      | some "DELETE" =>
        let d ← deleteStatement fuel false
        pure (.delete { d with ctes })
      | _ =>
        let (body, order, limit, offset) ← compound fuel
        pure (.select (.mk ctes recursive body order limit offset))
    | some "SELECT" | some "VALUES" => .select <$> query fuel
    | some "INSERT" | some "REPLACE" => .insert <$> insertStatement fuel false
    | some "UPDATE" => .update <$> updateStatement fuel false
    | some "DELETE" => .delete <$> deleteStatement fuel false
    | some "CREATE" => createStatement fuel
    | some "DROP" => dropStatement
    | some "ALTER" => alterStatement fuel
    | some "BEGIN" | some "COMMIT" | some "END" | some "ROLLBACK" | some "SAVEPOINT"
    | some "RELEASE" => transactionStatement
    | some "PRAGMA" =>
      let _ ← advance
      let (schema, n, _) ← qualifiedName
      if ← acceptSymbol "=" then pure (.pragma schema n (some (← pragmaValue fuel)))
      else if ← acceptSymbol "(" then
        let v ← pragmaValue fuel
        expectSymbol ")"
        pure (.pragma schema n (some v))
      else pure (.pragma schema n none)
    | some "ATTACH" =>
      let _ ← advance
      let _ ← acceptKeyword "DATABASE"
      let file ← expr fuel 0
      expectKeyword "AS"
      pure (.attach (nameAsText file) (nameAsText (← expr fuel 0)))
    | some "DETACH" =>
      let _ ← advance
      let _ ← acceptKeyword "DATABASE"
      pure (.detach (nameAsText (← expr fuel 0)))
    | some "VACUUM" =>
      let _ ← advance
      let schema ← acceptName anyName
      let into ← if ← acceptKeyword "INTO" then some <$> expr fuel 0 else pure none
      pure (.vacuum schema into)
    | some "ANALYZE" | some "REINDEX" =>
      let t ← advance
      let target ← match ← acceptName anyName with
        | some first =>
          if ← acceptSymbol "." then pure (some (some first, ← name anyName))
          else pure (some (none, first))
        | none => pure none
      pure (if t.keyword? == some "ANALYZE" then .analyze target else .reindex target)
    | _ => stuck

/-- The statement at the front of `tokens` and the tokens after its `;`; `none` when only
empty statements are left. -/
def nextStatement (source : Array Char) (tokens : List Token) :
    Except SqlError (Option (Statement × List Token)) :=
  let tokens := tokens.dropWhile (·.lexeme == .symbol ";")
  match tokens with
  | [] => .ok none
  | t :: _ =>
    match t.lexeme with
    | .finish => .ok none
    | _ =>
      let read : Reader Statement := do
        let s ← statement (fuelFor tokens.length)
        if !(← acceptSymbol ";") then
          match (← peek).lexeme with
          | .finish => pure ()
          | _ => stuck
        pure s
      match (read.run source).run { rest := tokens } with
      | .ok (s, c) => .ok (some (s, c.rest))
      | .error e => .error e

end Reader

end Relational

end CrateState
