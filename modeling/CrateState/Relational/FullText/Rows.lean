import CrateState.Relational.Scope
import CrateState.Relational.FullText.Search

/-!
# Full-text tables read

What a full-text table answers for a query over it:

* the *document* of a row: the tokens of the text the index was given for it, column by
  column;
* the query of a level: the texts of the `MATCH` constraints on the table, each read as a
  query (confined to its column when the constraint names one), all of which must hold;
  a text starting with `*` asks for a figure of the index, and only `reads` and `id`
  are known;
* the rank of a matching row: its BM25 score with the table's column weights;
* the functions over a match, `bm25`, `highlight` and `snippet`, which read the row's
  shown text and the positions of the query's phrases in its document.
-/

namespace CrateState

namespace Relational

open FullText

/-- What reading queries of a full-text table needs: its tokenizer and column names. -/
def FullTextShape.reading (s : FullTextShape) (t : Table) : Reading :=
  { tokenizer := s.tokenizer, columns := t.columns.map (·.name),
    positions := s.detail == .full, columnsKept := s.detail != .rowsOnly }

/-- The document of a row of a full-text table, from the values the index was given. -/
def FullTextShape.document (s : FullTextShape) (values : List SqlValue) : Document :=
  indexDocument s.tokenizer s.indexed (values.map SqlValue.text?)

/-- The document of the row of a full-text table with a row id; empty when the index has
no such row. -/
def Table.documentOf (t : Table) (s : FullTextShape) (rowid : Int) : Document :=
  match t.rows.find? (·.rowid == rowid) with
  | some r => s.document r.values
  | none => t.columns.map fun _ => []

/-- The documents of every row of a full-text table. -/
def Table.documents (t : Table) (s : FullTextShape) : List Document :=
  t.rows.map fun r => s.document r.values

/-- The error of a query text starting with `*` that asks for an unknown figure. -/
def specialQueryError (text : String) : Option SqlError :=
  let rest := (text.toList.drop 1).dropWhile (· == ' ')
  let word := String.ofList (rest.takeWhile (· != ' '))
  if word.toLower == "reads" || word.toLower == "id" then none
  else some (.general ("unknown special query: " ++ word))

/-- The query of the `MATCH` constraints on a full-text table: each text read as a query,
confined to its column when the constraint names one, all joined by `AND`. `none` for a
request for a figure of the index, which matches no row here. -/
def Table.matchQuery (t : Table) (s : FullTextShape) (constraints : List (Option Nat × String)) :
    Except SqlError (Option FullText.Query) := do
  let mut acc : Option FullText.Query := none
  let mut special := false
  for (col, text) in constraints do
    if text.startsWith "*" then
      match specialQueryError text with
      | some e => throw e
      | none => special := true
    else
      let q ← match parseQuery (s.reading t) text with
        | .ok q => pure q
        | .error m => throw (.general m)
      let q ← match col with
        | some k =>
          if s.detail == .rowsOnly then throw (.general "fts5: column queries are not supported (detail=none)")
          else pure (q.confine [k])
        | none => pure q
      acc := some (match acc with
        | none => q
        | some p => .and p q)
  pure (if special then none else acc)

/-- The rank of a row of a full-text table for a query: its BM25 score with the table's
column weights. -/
def Table.rankOf (t : Table) (s : FullTextShape) (q : FullText.Query) (rowid : Int) : Float :=
  bm25 (t.documents s) (t.documentOf s rowid) q s.weights

/-- The value of `bm25` for a row: the score with the weights given, `-0.0` when no query
was matched. -/
def Table.bm25Value (t : Table) (s : FullTextShape) (q : Option FullText.Query) (rowid : Int)
    (weights : List Float) : SqlValue :=
  match q with
  | some q => .real (bm25 (t.documents s) (t.documentOf s rowid) q weights)
  | none => .real (-0.0)

/-- The value of `highlight` for a row: the shown text of column `iCol` with the query's
phrases marked; the empty text for a column that does not exist, `NULL` for a `NULL`. -/
def Table.highlightValue (t : Table) (s : FullTextShape) (q : Option FullText.Query) (rowid : Int)
    (shown : List SqlValue) (iCol : Int) (opening closing : Option String) : SqlValue :=
  if iCol < 0 || iCol ≥ t.columns.length then .text ""
  else
    match (shown.getD iCol.toNat .null).text? with
    | none => .null
    | some text =>
      let runs := match q with
        | some q => coalescedRuns q.phraseSizes (q.appearances (t.documentOf s rowid)) iCol.toNat
        | none => []
      .text (highlight s.tokenizer text runs opening closing)

/-- The value of `snippet` for a row. -/
def Table.snippetValue (t : Table) (s : FullTextShape) (q : Option FullText.Query) (rowid : Int)
    (shown : List SqlValue) (iCol : Int) (opening closing ellipsis : String) (nToken : Int) :
    SqlValue :=
  let doc := t.documentOf s rowid
  let (sizes, apps) := match q with
    | some q => (q.phraseSizes, q.appearances doc)
    | none => ([], [])
  let texts := (shown.take t.columns.length).map SqlValue.text?
  match snippet s.tokenizer doc texts sizes apps iCol opening closing ellipsis nToken with
  | some r => .text r
  | none => .null

end Relational

end CrateState
