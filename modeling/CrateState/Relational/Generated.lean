import CrateState.Relational.Eval
import CrateState.Relational.Reference

/-!
# Generated columns

A generated column's value is its expression computed on the row's other columns. A row
keeps computed values beside written ones, so they are computed again whenever it is
written, after the written values took their affinities and the row id is known, each
taking its column's affinity in turn.

Generated columns may read each other, so they are computed in rounds over the columns in
order: a round computes each column whose expression reads no generated column left to
compute (counting those computed earlier in the round), and rounds go on while one computes
something. A column left when a round computes nothing is in a loop: a write to its table is
refused before it starts, naming the last column that round could not compute.
-/

namespace CrateState

namespace Relational

/-- The columns of a table an expression of its own reads, by position: names unqualified
or qualified by the table's name. -/
def Table.columnsRead (t : Table) : Nat → Expr → List Nat
  | 0, _ => []
  | n + 1, e =>
    let own (table : Option String) (name : String) : List Nat :=
      if (table.map (sameName · t.name)).getD true then (t.columnIndex name).toList else []
    match e with
    | .column _ table name => own table name
    | .quoted name => own none name
    | .lit _ | .param _ | .subquery _ | .hasRows _ => []
    | .unary _ a | .collate a _ | .cast a _ | .nullTest a _ | .inQuery a _ _ => t.columnsRead n a
    | .binary _ a b => t.columnsRead n a ++ t.columnsRead n b
    | .between a b c _ => t.columnsRead n a ++ t.columnsRead n b ++ t.columnsRead n c
    | .inList a items _ => t.columnsRead n a ++ items.attach.flatMap fun ⟨x, _⟩ => t.columnsRead n x
    | .pattern _ a b c _ =>
      t.columnsRead n a ++ t.columnsRead n b ++ (match c with
        | some c => t.columnsRead n c
        | none => [])
    | .case o arms d =>
      (match o with
        | some o => t.columnsRead n o
        | none => []) ++
      arms.attach.flatMap (fun ⟨(x, y), _⟩ => t.columnsRead n x ++ t.columnsRead n y) ++
      (match d with
        | some d => t.columnsRead n d
        | none => [])
    | .call _ _ args _ _ order =>
      args.attach.flatMap (fun ⟨x, _⟩ => t.columnsRead n x) ++
        order.attach.flatMap fun ⟨(x, _), _⟩ => t.columnsRead n x
    | .raise _ m =>
      match m with
      | some m => t.columnsRead n m
      | none => []
    | .row items => items.attach.flatMap fun ⟨x, _⟩ => t.columnsRead n x
    | .window f _ => t.columnsRead n f

/-- Whether a column of a table is generated. -/
def Table.isGenerated (t : Table) (k : Nat) : Bool :=
  ((t.columns[k]?).bind (·.generated)).isSome

/-- The positions of a table's generated columns, in order. -/
def Table.generatedColumns (t : Table) : List Nat :=
  (List.range t.columns.length).filter t.isGenerated

/-- One round of computing: the columns of `left` in order, each computed when it reads no
generated column outside `done` (which grows through the round). Answers the columns
computed, in the order computed, the columns left, and the last column left. -/
def Table.generatedRound (t : Table) (done left : List Nat) :
    List Nat × List Nat × Option Nat :=
  left.foldl (fun (done, rest, blocked) k =>
    let reads := t.columnsRead walkDepth (((t.columns.getD k default).generated).getD (.lit .null))
    if reads.any (fun j => t.isGenerated j && !done.contains j) then (done, rest ++ [k], some k)
    else (done ++ [k], rest, blocked)) (done, [], none)

/-- The order a table's generated columns are computed in (see the module header), or the
name of the column a loop stops at. -/
def Table.generatedOrder (t : Table) : Except String (List Nat) :=
  let rec rounds : Nat → List Nat → List Nat → Except String (List Nat)
    | 0, done, _ => .ok done
    | fuel + 1, done, left =>
      if left.isEmpty then .ok done
      else
        let (done', left', blocked) := t.generatedRound done left
        match blocked with
        | some k =>
          if done'.length == done.length then .error (t.columns.getD k default).name
          else rounds fuel done' left'
        | none => .ok done'
  let gens := t.generatedColumns
  rounds (gens.length + 1) [] gens

/-- The row with its generated columns computed, in the order `generatedOrder` gives (a
table with a loop is never written, so its columns are left as they are). -/
def Table.withGenerated (t : Table) (db : Database) (values : List SqlValue)
    (rowid : Option Int) : Eval (List SqlValue) :=
  match t.generatedOrder with
  | .error _ => pure values
  | .ok order =>
    order.foldlM (fun vals k => do
      let col := t.columns.getD k default
      let env : Env := { db, frames := [{ bindings := [t.binding t.name vals rowid] }] }
      let v ← eval walkDepth env (col.generated.getD (.lit .null))
      pure (vals.set k (v.withAffinity col.affinity))) values

end Relational

end CrateState
