import CrateState.Relational.Schema

/-!
# R*Tree tables

`CREATE VIRTUAL TABLE name USING rtree(id, lo1, hi1, …)` makes a table of boxes: a 64-bit id,
also the row id, then one to five dimensions of a least and a greatest bound, then auxiliary
columns (`+name`), at most 100 columns. `rtree_i32` has integer bounds.

A bound is kept as a 32-bit value. A float bound is narrowed outward so the box kept holds
the box written: the least bound to the greatest 32-bit float not above it, the greatest to
the least not below. An integer bound is the value's integer cut to 32 bits. A box whose
least bound exceeds its greatest is refused, as is an id another row has, whatever the
conflict clause; `REPLACE` only clears the row of the same id.

Rows are read in the tree's order (`BoxTree`). Three tables of the same name suffixed
`_rowid`, `_node` and `_parent` hold the tree.
-/

namespace CrateState

namespace Relational

/-- One step toward zero in the last place of a 32-bit float, as a factor. -/
def towardZero : Float := 1.0 - 1.0 / 8388608.0

/-- One step away from zero in the last place of a 32-bit float, as a factor. -/
def awayFromZero : Float := 1.0 + 1.0 / 8388608.0

/-- A 32-bit float no greater than a double: the nearest one, or, when that lies above,
the nearest one to the double moved a step down. -/
def narrowDown (d : Float) : Float :=
  let f := toSingle d
  if f > d then toSingle (d * (if d < 0 then awayFromZero else towardZero)) else f

/-- A 32-bit float no less than a double: the nearest one, or, when that lies below, the
nearest one to the double moved a step up. -/
def narrowUp (d : Float) : Float :=
  let f := toSingle d
  if f < d then toSingle (d * (if d < 0 then towardZero else awayFromZero)) else f

/-- A value's integer cut to its low 32 bits, read as signed. -/
def int32Of (v : SqlValue) : Int :=
  let m := v.toInt % 4294967296
  if m ≥ 2147483648 then m - 4294967296 else m

def RtreeShape.nodeSize (s : RtreeShape) : Nat := BoxTree.nodeSize s.bounds

/-- The first name written twice, without regard to case. -/
def firstRepeated : List String → Option String
  | [] => none
  | n :: rest => if rest.any (sameName · n) then some n else firstRepeated rest

/-- The columns and shape of an R*Tree table from its module arguments: the id, the bounds
(until the first auxiliary column) and the auxiliary columns, which must come last. -/
def rtreeLayout (integral : Bool) (args : List ModuleArg) : Except SqlError (List Column × RtreeShape) :=
  let tooFew : SqlError := .general "Too few columns for an rtree table"
  let tooMany : SqlError := .general "Too many columns for an rtree table"
  if args.length < 3 then .error tooFew
  else if args.length > 100 then .error tooMany
  else
    let rest := args.drop 1
    let bounds := rest.takeWhile (!·.aux)
    let aux := rest.drop bounds.length
    if aux.any (!·.aux) then .error (.general "Auxiliary rtree columns must be last")
    else
      let names := args.map (·.name)
      match firstRepeated names with
      | some n => .error (.general ("duplicate column name: " ++ n))
      | none =>
        if bounds.length / 2 < 1 then .error tooFew
        else if bounds.length > 10 then .error tooMany
        else if bounds.length % 2 == 1 then .error (.general "Wrong number of columns for an rtree table")
        else
          let id : Column := { name := (args.headD default).name, declared := "INT", affinity := .integer }
          let boundColumns := bounds.map fun a =>
            if integral then ({ name := a.name, declared := "INT", affinity := .integer } : Column)
            else { name := a.name, declared := "REAL", affinity := .real }
          let auxColumns := aux.map fun a => ({ name := a.name } : Column)
          .ok (id :: boundColumns ++ auxColumns, ⟨integral, bounds.length, aux.length, { integral }⟩)

/-- The bounds a row writes, from the values after its id: each pair narrowed outward. -/
def RtreeShape.narrow (s : RtreeShape) (values : List SqlValue) : List SqlValue :=
  (List.range s.bounds).map fun k =>
    let v := values.getD k .null
    if s.integral then .int (int32Of v)
    else .real (if k % 2 == 0 then narrowDown v.toFloat else narrowUp v.toFloat)

/-- Whether a least bound lies above its greatest. -/
def boundsInverted : SqlValue → SqlValue → Bool
  | .real a, .real b => a > b
  | .int a, .int b => a > b
  | _, _ => false

/-- The position among the bounds of the first pair whose least bound lies above its
greatest. -/
def RtreeShape.inverted (s : RtreeShape) (bounds : List SqlValue) : Option Nat :=
  ((List.range (s.bounds / 2)).find? fun k =>
    boundsInverted (bounds.getD (2 * k) .null) (bounds.getD (2 * k + 1) .null)).map (2 * ·)

/-- The error of a box whose bounds at positions `k + 1` and `k + 2` of the table's
columns are inverted. -/
def rtreeInvertedError (t : Table) (k : Nat) : SqlError :=
  ⟨19, "rtree constraint failed: " ++ t.name ++ ".(" ++ (t.columns.getD (k + 1) default).name ++
    "<=" ++ (t.columns.getD (k + 2) default).name ++ ")"⟩

/-- The error of an id another row has. -/
def rtreeTakenError (t : Table) : SqlError :=
  ⟨19, "UNIQUE constraint failed: " ++ t.name ++ "." ++ (t.columns.headD default).name⟩

/-- The id a row written without one gets: one past the largest, 1 in an empty table. -/
def Table.freshId (t : Table) : Int :=
  match t.rows.map (·.rowid) with
  | [] => 1
  | r :: rs => rs.foldl max r + 1

/-- A name written as a quoted identifier. -/
def quoteIdent (name : String) : String := "\"" ++ name.replace "\"" "\"\"" ++ "\""

/-- The tables that hold the tree of an R*Tree table, in the order they are made, without
their pages: the node of each id (with the auxiliary columns), the nodes (the root, empty)
and the parent of each node. -/
def rtreeShadows (t : Table) (s : RtreeShape) : List Table :=
  let key (n : String) : Column := { name := n, declared := "INTEGER", affinity := .integer, primaryKey := true }
  let auxNames := (List.range s.aux).map fun k => "a" ++ toString k
  [{ name := t.name ++ "_rowid", store := t.store, rootPage := 0, rowidColumn := some 0,
     columns := [key "rowid", { name := "nodeno" }] ++ auxNames.map fun n => { name := n },
     sql := "CREATE TABLE " ++ quoteIdent (t.name ++ "_rowid") ++ "(rowid INTEGER PRIMARY KEY,nodeno" ++
       String.join (auxNames.map ("," ++ ·)) ++ ")" },
   { name := t.name ++ "_node", store := t.store, rootPage := 0, rowidColumn := some 0,
     columns := [key "nodeno", { name := "data" }],
     sql := "CREATE TABLE " ++ quoteIdent (t.name ++ "_node") ++ "(nodeno INTEGER PRIMARY KEY,data)",
     rows := [⟨1, [.int 1, .blob (Blob.ofList (List.replicate s.nodeSize 0))]⟩] },
   { name := t.name ++ "_parent", store := t.store, rootPage := 0, rowidColumn := some 0,
     columns := [key "nodeno", { name := "parentnode" }],
     sql := "CREATE TABLE " ++ quoteIdent (t.name ++ "_parent") ++ "(nodeno INTEGER PRIMARY KEY,parentnode)" }]

/-- The suffixes of the names of the tables that hold an R*Tree table's tree. -/
def rtreeShadowSuffixes : List String := ["_node", "_rowid", "_parent"]

end Relational

end CrateState
