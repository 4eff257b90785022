import CrateState.Relational.FullText.Rows
import CrateState.Relational.FullText.Layout
import CrateState.Relational.Statistics

/-!
# Commands written to a full-text table

A row written with the column named after the table not `NULL` is a command: that column's
text names it (any case) and the `rank` column carries its argument.

* `delete-all` empties the index of a table keeping no text of its own;
* `rebuild` reads the index afresh from the text, which a table keeping none cannot do;
* `optimize`, `merge`, `flush` and `integrity-check` change nothing a query sees, except
  that a table whose text lives elsewhere, asked (by a non-zero argument) to compare its
  index with that text, fails when they disagree;
* any other name sets that setting: `pgsz`, `hashsize`, `automerge`, `usermerge`,
  `crisismerge`, `deletemerge` and `secure-delete` take integers in a range, `rank` the
  ranking function with literal arguments (`bm25(10.0, 5.0)`), which become the column
  weights. An unknown name or a value out of range is an error with no message.

(`delete`, removing a row from a text-less table's index, needs the row id: the writer's.)
-/

namespace CrateState

namespace Relational

namespace FullText

/-- A command to a full-text table. -/
inductive Command where
  /-- Empty the index. -/
  | deleteAll
  /-- Read the index afresh from the text. -/
  | rebuild
  /-- Merge the index's segments. -/
  | optimize
  /-- Merge some of the index's segments. -/
  | merge
  /-- Check the index. -/
  | integrityCheck
  /-- Write the pending index to storage. -/
  | flush
  /-- Set a setting. -/
  | setting (key : String)
  deriving Inhabited, BEq, Repr

/-- The command a name gives, without regard to case. -/
def Command.ofName (name : String) : Command :=
  match name.toLower with
  | "delete-all" => .deleteAll
  | "rebuild" => .rebuild
  | "optimize" => .optimize
  | "merge" => .merge
  | "integrity-check" => .integrityCheck
  | "flush" => .flush
  | _ => .setting name

/-- The integer a setting's value gives, when it reads as one: an integer, or a text that
spells one. -/
def settingInt (v : SqlValue) : Option Int :=
  match v.asNumber false with
  | .int i => some i
  | _ => none

/-- Reads a literal argument of a ranking function: `NULL`, a blob `x'…'` (an even number
of hexadecimal digits), a quoted text or a number (a sign, digits, and a fraction after a
point); the literal's value as the ranking reads it (a double) and what follows it. -/
def rankLiteral (cs : List Char) : Option (Float × List Char) :=
  match cs with
  | c :: rest =>
    if c == 'n' || c == 'N' then
      if (String.ofList (cs.take 4)).toLower == "null" then some (0, cs.drop 4) else none
    else if c == 'x' || c == 'X' then
      match rest with
      | '\'' :: more =>
        let digits := more.takeWhile Char.isHexDigit
        match more.drop digits.length with
        | '\'' :: after => if digits.length % 2 == 0 then some (0, after) else none
        | _ => none
      | _ => none
    else if c == '\'' then
      (skipLiteral cs).map fun (lit, after) =>
        ((SqlValue.text (dequote (String.ofList lit))).toFloat, after)
    else
      let signed := if c == '+' || c == '-' then rest else cs
      let whole := signed.takeWhile Char.isDigit
      let afterWhole := signed.drop whole.length
      let fraction := match afterWhole with
        | '.' :: d :: more => if d.isDigit then '.' :: d :: more.takeWhile Char.isDigit else []
        | _ => []
      let used := (cs.length - signed.length) + whole.length + fraction.length
      if used == 0 then none
      else some ((SqlValue.text (String.ofList (cs.take used))).toFloat, cs.drop used)
  | [] => none

/-- Drops the blanks a ranking's text may hold between its parts. -/
def skipBlanks (cs : List Char) : List Char := cs.dropWhile (· == ' ')

/-- Reads the arguments of a ranking function up to its closing bracket: literals
separated by commas. -/
def rankArguments : Nat → List Char → Option (List Float)
  | 0, _ => none
  | fuel + 1, cs =>
    match rankLiteral (skipBlanks cs) with
    | none => none
    | some (w, after) =>
      match skipBlanks after with
      | ')' :: _ => some [w]
      | ',' :: more => (rankArguments fuel more).map (w :: ·)
      | _ => none

/-- Reads the value of the `rank` setting: a function name, then its arguments in
brackets; the name and the weights the arguments give. -/
def readRanking (text : String) : Option (String × List Float) :=
  let cs := skipBlanks text.toList
  let name := cs.takeWhile isWordChar
  if name.isEmpty then none
  else
    match skipBlanks (cs.drop name.length) with
    | '(' :: more =>
      match skipBlanks more with
      | ')' :: _ => some (String.ofList name, [])
      | args => (rankArguments (args.length + 1) args).map fun ws => (String.ofList name, ws)
    | _ => none

end FullText

open FullText

/-- A full-text table's shape with a setting taken: `none` when the key is unknown or the
value is not one the key takes. -/
def FullTextShape.checkSetting (s : FullTextShape) (key : String) (v : SqlValue) :
    Option FullTextShape :=
  let within (lo : Int) (hi : Option Int) : Option FullTextShape :=
    match settingInt v with
    | some i => if lo ≤ i && hi.all (i ≤ ·) then some s else none
    | none => none
  match key.toLower with
  | "pgsz" => within 32 (some 65536)
  | "hashsize" => within 1 none
  | "automerge" => within 0 (some 64)
  | "usermerge" => within 2 (some 16)
  | "crisismerge" => within 0 none
  | "deletemerge" => (settingInt v).map fun _ => s
  | "secure-delete" => within 0 none
  | "rank" =>
    match v.text?.bind readRanking with
    | some (name, weights) => some (if name.toLower == "bm25" then { s with weights } else s)
    | none => none
  | _ => none

/-- A full-text table's shape with a setting written: `none` when the key is unknown or
the value is not one the key takes. Only `rank` changes what queries see, and only for
the `bm25` function, whose arguments weigh the columns. -/
def FullTextShape.configure (s : FullTextShape) (key : String) (v : SqlValue) :
    Option FullTextShape :=
  (s.checkSetting key v).map fun s =>
    { s with settings := s.settings.filter (·.1 != key) ++ [(key, v)] }

/-- The rows the text of a full-text table that lives in another table gives it, as row
id and values; the error of a missing table. -/
def Table.contentRows (db : Database) (t : Table) (src key : String) :
    Except SqlError (List Row) :=
  match db.findAt? t.store src with
  | some (.table s) => .ok ((externalRows s key t.columns).map fun (id, vals) => ⟨id, vals⟩)
  | _ => .error (.general ("no such table: " ++ t.store.name ++ "." ++ src))

/-- A full-text table after a command: its index emptied, read afresh, checked or left,
or its settings changed. -/
def Table.runCommand (db : Database) (t : Table) (s : FullTextShape) (name : String)
    (arg : SqlValue) : Except SqlError Table :=
  match FullText.Command.ofName name with
  | .deleteAll =>
    if s.content == .kept then
      .error (.general "'delete-all' may only be used with a contentless or external content fts5 table")
    else .ok { t with rows := [] }
  | .rebuild =>
    match s.content with
    | .dropped => .error (.general "'rebuild' may not be used with a contentless fts5 table")
    | .external src key => do
      let rows ← t.contentRows db src key
      pure { t with rows }
    | .kept => .ok t
  | .integrityCheck =>
    match s.content with
    | .external src key => do
      let rows ← t.contentRows db src key
      let indexed := t.rows.map fun r => (r.rowid, s.document r.values)
      let written := rows.map fun r => (r.rowid, s.document r.values)
      if arg.toInt != 0 && indexed != written then .error ⟨267, "database disk image is malformed"⟩
      else pure t
    | _ => .ok t
  | .optimize | .merge | .flush => .ok t
  | .setting key =>
    match s.configure key arg with
    | some s => .ok { t with fullText := some s }
    | none => .error (.general "SQL logic error")

/-- The database with a full-text table written back, and with the tables that keep its
index brought up to date with it: the text of each row (when the table keeps it), the
number of tokens of each column of each row (unless not recorded), and the settings by
key, after the version of the index's format. -/
def Database.putFullText (db : Database) (t : Table) : Database :=
  let db := db.putTable t
  match t.fullText with
  | none => db
  | some s =>
    let refresh (db : Database) (sfx : String) (rows : List Row) : Database :=
      match db.findAt? t.store (t.name ++ sfx) with
      | some (.table u) => db.putTable { u with rows }
      | _ => db
    let sizes (r : Row) : List UInt8 :=
      (s.document r.values).flatMap fun col => varintBytes col.length
    let db := if s.content == .kept then
        refresh db "_content" (t.rows.map fun r => ⟨r.rowid, .int r.rowid :: r.values⟩)
      else db
    let db := if s.sized then
        refresh db "_docsize" (t.rows.map fun r => ⟨r.rowid, [.int r.rowid, .blob (.ofList (sizes r))]⟩)
      else db
    let settings := (("version", SqlValue.int 4) :: s.settings).mergeSort fun a b => decide (a.1 ≤ b.1)
    refresh db "_config" (settings.zipIdx.map fun ((k, v), i) => ⟨i + 1, [.text k, v]⟩)

end Relational

end CrateState
