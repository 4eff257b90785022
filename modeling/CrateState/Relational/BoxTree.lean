/-!
# The tree of boxes behind an R*Tree table

An R*Tree table keeps its boxes in a tree of nodes of at most 51 cells. A leaf cell is a row,
its id and box; a cell above stands for the node below it, with a box holding every box under
it. Node 1 is the root, and all leaves lie `depth` levels below it. Rows are read by walking
the tree, each node's cells in order, so their order is the tree's, shaped by every write.

* A box goes to the leaf reached by picking, at each level, the cell of least volume among
  those whose box holds it, else the one whose volume grows least (the smaller, then the
  first, on a tie). It is added at the end of the leaf; the boxes above grow to hold it.
* A full node splits. Its cells and the new one are sorted along each dimension by least,
  then greatest bound; every cut leaving at least 17 cells a side is scored by the overlap,
  then the volume, of the halves, and the sums of their extents score the dimension. The
  best cut of the dimension of least sum wins: the first half stays, the second goes to a
  new node numbered one past the largest, whose cell joins the parent (which may split in
  turn). A split root sends both halves to new nodes, the second half's numbered first,
  and the tree grows a level.
* A row taken out leaves its leaf; a node left with fewer than 17 cells leaves its parent
  likewise, and the cells of every node taken out go back in at their own level, the last
  node's first. Otherwise the boxes above shrink to what they hold. A root left with one
  cell takes its child's cells, and the tree shrinks a level.

Bounds are doubles holding 32-bit values. Volumes multiply the extents from the last
dimension to the first, each extent of float bounds rounded to a 32-bit float; the least and
greatest of two bounds keep the second on a tie.
-/

namespace CrateState

namespace Relational

/-- A double rounded to the nearest 32-bit float. -/
def toSingle (d : Float) : Float := d.toFloat32.toFloat

/-- The lesser of two doubles, the second when neither is less. -/
def lesser (x y : Float) : Float := if x < y then x else y

/-- The greater of two doubles, the second when neither is greater. -/
def greater (x y : Float) : Float := if x > y then x else y

/-- A cell of the tree: the id it stands for (a row id in a leaf, a node number above)
and its box, the least and the greatest bound of each dimension in turn. -/
structure BoxCell where
  /-- The row id or node number. -/
  id : Int
  /-- The bounds. -/
  box : List Float
  deriving Inhabited, BEq, Repr

namespace BoxCell

/-- The number of dimensions. -/
def dims (c : BoxCell) : Nat := c.box.length / 2

/-- The least bound along a dimension. -/
def lo (c : BoxCell) (d : Nat) : Float := c.box.getD (2 * d) 0

/-- The greatest bound along a dimension. -/
def hi (c : BoxCell) (d : Nat) : Float := c.box.getD (2 * d + 1) 0

/-- The volume of the box: the extents multiplied from the last dimension, each rounded
to a 32-bit float unless the bounds are integers. -/
def volume (integral : Bool) (c : BoxCell) : Float :=
  (List.range c.dims).reverse.foldl (fun v d =>
    let e := c.hi d - c.lo d
    v * (if integral then e else toSingle e)) 1

/-- The sum of the extents, from the last dimension. -/
def margin (c : BoxCell) : Float :=
  (List.range c.dims).reverse.foldl (fun m d => m + (c.hi d - c.lo d)) 0

/-- The smallest box holding both, under the first's id. -/
def union (a b : BoxCell) : BoxCell :=
  { a with box := (List.range a.dims).flatMap fun d => [lesser (a.lo d) (b.lo d), greater (a.hi d) (b.hi d)] }

/-- Whether the first box holds the second. -/
def holds (a b : BoxCell) : Bool :=
  (List.range a.dims).all fun d => !(b.lo d < a.lo d || b.hi d > a.hi d)

/-- The volume the two boxes share, from the first dimension; 0 once a dimension keeps
them apart. -/
def overlap (a b : BoxCell) : Float :=
  ((List.range a.dims).foldl (fun o d =>
    o.bind fun o =>
      let x1 := greater (a.lo d) (b.lo d)
      let x2 := lesser (a.hi d) (b.hi d)
      if x2 < x1 then none else some (o * (x2 - x1))) (some 1)).getD 0

/-- The smallest box holding a node's cells, from the first, under the first's id. -/
def cover : List BoxCell → BoxCell
  | [] => default
  | c :: rest => rest.foldl union c

end BoxCell

def nodeCapacity : Nat := 51

/-- The fewest cells a node other than the root keeps, and the fewest either half of a
split takes. -/
def nodeMinimum : Nat := 17

/-- Merges two runs of cell positions, taking from the first only while its head comes
strictly before the second's. -/
def mergeRuns (before : Nat → Nat → Bool) : List Nat → List Nat → List Nat
  | [], ys => ys
  | xs, [] => xs
  | x :: xs, y :: ys =>
    if before x y then x :: mergeRuns before xs (y :: ys)
    else y :: mergeRuns before (x :: xs) ys
termination_by xs ys => xs.length + ys.length

/-- Sorts cell positions by halving: the first half is the shorter, each half is sorted,
and the halves merge with ties going to the second. -/
def sortRuns (before : Nat → Nat → Bool) : Nat → List Nat → List Nat
  | 0, xs => xs
  | fuel + 1, xs =>
    if xs.length ≤ 1 then xs
    else
      let half := xs.length / 2
      mergeRuns before (sortRuns before fuel (xs.take half)) (sortRuns before fuel (xs.drop half))

/-- How a split cuts a full node's cells (in order, the new one last): those that stay
and those that go to the new node. -/
def splitCells (integral : Bool) (cells : List BoxCell) : List BoxCell × List BoxCell :=
  let arr := cells.toArray
  let n := cells.length
  let dims := (cells.headD default).dims
  let sorted (d : Nat) : Array Nat :=
    (sortRuns (fun i j =>
      let a := arr.getD i default
      let b := arr.getD j default
      a.lo d < b.lo d || (a.lo d == b.lo d && a.hi d < b.hi d)) n (List.range n)).toArray
  -- each dimension: the sum of the margins over all cuts, and its best cut
  let score (d : Nat) : Float × Nat :=
    let s := sorted d
    let cellAt (k : Nat) : BoxCell := arr.getD (s.getD k 0) default
    let cuts := List.range' nodeMinimum (n + 1 - 2 * nodeMinimum)
    let (margin, best, _) := cuts.foldl (fun (acc : Float × Nat × Float × Float) cut =>
      let (margin, best, bestOverlap, bestVolume) := acc
      let left := (List.range' 1 (cut - 1)).foldl (fun b k => b.union (cellAt k)) (cellAt 0)
      let right := (List.range' cut (n - 1 - cut)).foldl (fun b k => b.union (cellAt k)) (cellAt (n - 1))
      let margin := margin + left.margin + right.margin
      let o := left.overlap right
      let v := left.volume integral + right.volume integral
      if cut == nodeMinimum || o < bestOverlap || (o == bestOverlap && v < bestVolume) then
        (margin, cut, o, v)
      else (margin, best, bestOverlap, bestVolume)) (0, 0, 0, 0)
    (margin, best)
  let (dim, cut, _) := (List.range dims).foldl (fun (acc : Nat × Nat × Float) d =>
    let (m, c) := score d
    if d == 0 || m < acc.2.2 then (d, c, m) else acc) (0, 0, 0)
  let order := (sorted dim).toList.map (arr.getD · default)
  (order.take cut, order.drop cut)

/-- The tree of an R*Tree table. -/
structure BoxTree where
  /-- The nodes by number, each with its cells in order; node 1 is the root. -/
  nodes : List (Nat × List BoxCell) := [(1, [])]
  /-- The number of levels below the root. -/
  depth : Nat := 0
  /-- Whether the bounds are integers. -/
  integral : Bool := false
  deriving Inhabited, BEq, Repr

namespace BoxTree

/-- The cells of a node. -/
def cells (t : BoxTree) (n : Nat) : List BoxCell :=
  ((t.nodes.find? (·.1 == n)).map (·.2)).getD []

/-- The tree with a node's cells replaced, or with a new node. -/
def setCells (t : BoxTree) (n : Nat) (cs : List BoxCell) : BoxTree :=
  if t.nodes.any (·.1 == n) then
    { t with nodes := t.nodes.map fun (m, c) => if m == n then (m, cs) else (m, c) }
  else { t with nodes := t.nodes ++ [(n, cs)] }

def dropNode (t : BoxTree) (n : Nat) : BoxTree :=
  { t with nodes := t.nodes.filter (·.1 != n) }

/-- The number a new node gets: one past the largest. -/
def freshNode (t : BoxTree) : Nat := t.nodes.foldl (fun m (n, _) => max m n) 0 + 1

/-- The node above node `n`: the first node, walking the tree from the root, among whose
cells above the leaves one names `n`. -/
def parentOf (t : BoxTree) (n : Nat) : Option Nat :=
  go t.depth 1
where
  /-- Searches below node `m`, which lies `k` levels above the leaves. -/
  go : Nat → Nat → Option Nat
    | 0, _ => none
    | k + 1, m =>
      let cs := t.cells m
      if cs.any (·.id == (n : Int)) then some m else cs.findSome? fun c => go k c.id.toNat

/-- The leaf holding a row id, the first one walking the tree. -/
def leafOf (t : BoxTree) (id : Int) : Option Nat :=
  go t.depth 1
where
  /-- Searches below node `m`, which lies `k` levels above the leaves. -/
  go : Nat → Nat → Option Nat
    | 0, m => if (t.cells m).any (·.id == id) then some m else none
    | k + 1, m => (t.cells m).findSome? fun c => go k c.id.toNat

/-- The node `levels` levels below node `n` where a box goes: at each level the cell of
least volume among those holding it, or else the one that grows least to hold it, the
smaller on a tie. -/
def chooseNode (t : BoxTree) (cell : BoxCell) : Nat → Nat → Nat
  | 0, n => n
  | levels + 1, n =>
    let cs := t.cells n
    let vol := BoxCell.volume t.integral
    let best : Int := match cs.filter (·.holds cell) with
      | c :: rest =>
        (rest.foldl (fun (b : Int × Float) c => if vol c < b.2 then (c.id, vol c) else b) (c.id, vol c)).1
      | [] =>
        match cs with
        | [] => n
        | c :: rest =>
          let grow (c : BoxCell) : Float := vol (c.union cell) - vol c
          (rest.foldl (fun (b : Int × Float × Float) c =>
            let g := grow c
            let v := vol c
            if g < b.2.1 || (g == b.2.1 && v < b.2.2) then (c.id, g, v) else b)
            (c.id, grow c, vol c)).1
    chooseNode t cell levels best.toNat

/-- The tree with the boxes above node `n` grown to hold a box, up to the root. -/
def growAbove (t : BoxTree) (cell : BoxCell) : Nat → Nat → BoxTree
  | 0, _ => t
  | fuel + 1, p =>
    match t.parentOf p with
    | none => t
    | some par =>
      let t := t.setCells par ((t.cells par).map fun c =>
        if c.id == (p : Int) && !c.holds cell then c.union cell else c)
      growAbove t cell fuel par

/-- The tree with the box of node `n` in its parent made the cover of its cells, and so
on up to the root. -/
def fitAbove (t : BoxTree) : Nat → Nat → BoxTree
  | 0, _ => t
  | fuel + 1, n =>
    match t.parentOf n with
    | none => t
    | some par =>
      let box := { BoxCell.cover (t.cells n) with id := n }
      let t := t.setCells par ((t.cells par).map fun c => if c.id == (n : Int) then box else c)
      fitAbove t fuel par

/-- The tree with a cell added at the end of node `n`, splitting the node when full. -/
def addCell : Nat → BoxTree → Nat → BoxCell → BoxTree
  | 0, t, _, _ => t
  | fuel + 1, t, n, cell =>
    let cs := t.cells n
    if cs.length < nodeCapacity then
      (t.setCells n (cs ++ [cell])).growAbove cell (t.depth + 1) n
    else
      let (stay, go) := splitCells t.integral (cs ++ [cell])
      let right := t.freshNode
      if n == 1 then
        let left := right + 1
        let t := { (((t.setCells right go).setCells left stay).setCells 1 []) with depth := t.depth + 1 }
        let t := addCell fuel t 1 { BoxCell.cover stay with id := left }
        addCell fuel t 1 { BoxCell.cover go with id := right }
      else
        let par := (t.parentOf n).getD 1
        let leftBox := { BoxCell.cover stay with id := n }
        let t := (t.setCells n stay).setCells right go
        let t := t.setCells par ((t.cells par).map fun c => if c.id == (n : Int) then leftBox else c)
        let t := t.growAbove leftBox (t.depth + 1) par
        addCell fuel t par { BoxCell.cover go with id := right }

def insert (t : BoxTree) (id : Int) (box : List Float) : BoxTree :=
  let cell : BoxCell := ⟨id, box⟩
  t.addCell (t.depth + 2) (t.chooseNode cell t.depth 1) cell

/-- The tree with the cell at position `i` of node `n` taken out, `h` levels above the
leaves, and the nodes taken out with it, the last first, each with its cells and level. -/
def takeCell : Nat → BoxTree × List (List BoxCell × Nat) → Nat → Nat → Nat →
    BoxTree × List (List BoxCell × Nat)
  | 0, st, _, _, _ => st
  | fuel + 1, (t, out), n, i, h =>
    let cs := (t.cells n).eraseIdx i
    let t := t.setCells n cs
    if n == 1 then (t, out)
    else if cs.length < nodeMinimum then
      match t.parentOf n with
      | none => (t, out)
      | some par =>
        let k := ((t.cells par).findIdx? (·.id == (n : Int))).getD 0
        let (t, out) := takeCell fuel (t, out) par k (h + 1)
        (t.dropNode n, (cs, h) :: out)
    else (t.fitAbove (t.depth + 1) n, out)

/-- The tree with the cells of nodes taken out put back, each at its level. -/
def putBack (t : BoxTree) (out : List (List BoxCell × Nat)) : BoxTree :=
  out.foldl (fun t (cs, h) =>
    cs.foldl (fun t c => t.addCell (t.depth + 2) (t.chooseNode c (t.depth - h) 1) c) t) t

def remove (t : BoxTree) (id : Int) : BoxTree :=
  match t.leafOf id with
  | none => t
  | some leaf =>
    let i := ((t.cells leaf).findIdx? (·.id == id)).getD 0
    let (t, out) := takeCell (t.depth + 1) (t, []) leaf i 0
    match t.depth, t.cells 1 with
    | d + 1, [only] =>
      let child := only.id.toNat
      let cs := t.cells child
      let t := { ((t.setCells 1 []).dropNode child) with depth := d }
      t.putBack ((cs, d) :: out)
    | _, _ => t.putBack out

/-! ## The tables that hold the tree -/

/-- The tree's rows, each with its leaf, in the order the tree is walked. -/
def leafPairs (t : BoxTree) : List (Int × Nat) :=
  go t.depth 1
where
  /-- The rows below node `m`, which lies `k` levels above the leaves. -/
  go : Nat → Nat → List (Int × Nat)
    | 0, m => (t.cells m).map fun c => (c.id, m)
    | k + 1, m => (t.cells m).flatMap fun c => go k c.id.toNat

/-- Every node but the root with the node above it, in the order the tree is walked. -/
def parentPairs (t : BoxTree) : List (Nat × Nat) :=
  go t.depth 1
where
  /-- The nodes below node `m`, which lies `k` levels above the leaves. -/
  go : Nat → Nat → List (Nat × Nat)
    | 0, _ => []
    | k + 1, m => (t.cells m).flatMap fun c => (c.id.toNat, m) :: go k c.id.toNat

/-- The big-endian bytes of the low `count` bytes of an integer in two's complement. -/
def bigEndianOf (count : Nat) (v : Int) : List UInt8 :=
  let m := (v % (Nat.pow 256 count : Int)).toNat
  (List.range count).reverse.map fun k => (m / Nat.pow 256 k % 256).toUInt8

/-- The integer a double holding a whole number stands for. -/
def wholeOf (x : Float) : Int :=
  if x < 0 then -((-x).toUInt64.toNat : Int) else (x.toUInt64.toNat : Int)

/-- The size of a node with `bounds` bounds a cell, in bytes: the cells and four bytes of
header, within a page of 4096 bytes less 64. -/
def nodeSize (bounds : Nat) : Nat := min (4096 - 64) (4 + (8 + 4 * bounds) * nodeCapacity)

/-- The bytes of a node as the table of nodes keeps them: the depth of the tree (in the
root only) and the number of cells, two bytes each; each cell's id in eight bytes and its
bounds in four each, a 32-bit float or integer; then zeros up to the node's size. -/
def nodeData (t : BoxTree) (bounds : Nat) (n : Nat) : List UInt8 :=
  let cs := t.cells n
  let bound (x : Float) : List UInt8 :=
    if t.integral then bigEndianOf 4 (wholeOf x) else bigEndianOf 4 x.toFloat32.toBits.toNat
  let body := bigEndianOf 2 (if n == 1 then t.depth else 0) ++ bigEndianOf 2 cs.length ++
    cs.flatMap fun c => bigEndianOf 8 c.id ++ c.box.flatMap bound
  body ++ List.replicate (nodeSize bounds - body.length) 0

end BoxTree

end Relational

end CrateState
