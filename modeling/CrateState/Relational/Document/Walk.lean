import CrateState.Relational.Document.Path

/-!
# Walking a document

`json_each(doc, root)` lists the children of the element `root` names (one row for the
element when it is no container); `json_tree(doc, root)` that element and everything below
it, depth first. A row tells:

* `id`: where its entry starts in the document's binary form (a member's label);
* `parent`: the `id` of its container's row (`json_tree` only);
* `fullkey`: the entry's path, its container's plus `[N]` for an element or `.label` for a
  member, written `."label"` when the label is empty, starts with no letter or holds a byte
  other than a letter or digit (the label as written, escapes and all);
* `path`: its container's `fullkey`;
* `key`: an element's index, or a member's label text.

The row of the element `root` names has the root path as `fullkey`. Under `json_each` it
has no `key`, and `path` is the root path too. Under `json_tree` both come from cutting the
root path at its last `.` or `[` ending a path to an element whose first child is the
row's entry; failing that the path is `$` and the key the rest of the root path after its
first step's `.` or `[` (a number for `[`, unquoted for `."label"`).
-/

namespace CrateState

namespace Relational

namespace Document

/-- A row of `json_each` or `json_tree`. -/
structure Row where
  /-- The index or label text of the entry. -/
  key : SqlValue
  /-- The element of the entry. -/
  element : Element
  /-- Where the entry starts in the binary form. -/
  id : Nat
  /-- The `id` of its container's row. -/
  parent : Option Nat
  /-- Its path. -/
  fullkey : List UInt8
  /-- Its container's path. -/
  path : List UInt8

/-- What a member's label adds to a path. -/
def memberStep (l : Label) : List UInt8 :=
  let plain := match l.text with
    | b :: _ => isAlpha b && l.text.all isAlnum
    | [] => false
  if plain then [46] ++ l.text else [46, 34] ++ l.text ++ [34]

/-- What an array index adds to a path. -/
def indexStep (k : Nat) : List UInt8 := [91] ++ decimalBytes k ++ [93]

/-- The key of a member: the text its label stands for. -/
def labelKey (l : Label) : SqlValue := .text (utf8Text (stringBytes l.spelling l.text))

mutual

/-- The rows of an entry and everything below it. -/
def treeRows : Nat → Element → Nat → Nat → Option Nat → SqlValue → List UInt8 → List UInt8 →
    List Row
  | 0, _, _, _, _, _, _, _ => []
  | fuel + 1, e, id, at_, parent, key, fullkey, path =>
    ⟨key, e, id, parent, fullkey, path⟩ ::
      match e with
      | .array items => itemRows fuel items (at_ + e.headerSize) 0 id fullkey
      | .object members => memberRows fuel members (at_ + e.headerSize) id fullkey
      | _ => []

/-- The rows of the elements of an array and below, from offset `o` and index `k`. -/
def itemRows : Nat → List Element → Nat → Nat → Nat → List UInt8 → List Row
  | 0, _, _, _, _, _ => []
  | _ + 1, [], _, _, _, _ => []
  | fuel + 1, e :: es, o, k, id, fullkey =>
    treeRows fuel e o o (some id) (.int k) (fullkey ++ indexStep k) fullkey ++
      itemRows fuel es (o + e.length) (k + 1) id fullkey

/-- The rows of the members of an object and below, from offset `o`. -/
def memberRows : Nat → List (Label × Element) → Nat → Nat → List UInt8 → List Row
  | 0, _, _, _, _ => []
  | _ + 1, [], _, _, _ => []
  | fuel + 1, (l, v) :: ms, o, id, fullkey =>
    treeRows fuel v o (o + l.length) (some id) (labelKey l) (fullkey ++ memberStep l) fullkey ++
      memberRows fuel ms (o + l.length + v.length) id fullkey

end

/-- The rows of the children of a container, without their parent. -/
def childRows (e : Element) (at_ : Nat) (root : List UInt8) : List Row :=
  match e with
  | .array items =>
    let (rows, _) := items.zipIdx.foldl (fun (acc : List Row × Nat) (item, k) =>
      (acc.1 ++ [⟨.int k, item, acc.2, none, root ++ indexStep k, root⟩], acc.2 + item.length))
      ([], at_ + e.headerSize)
    rows
  | .object members =>
    let (rows, _) := members.foldl (fun (acc : List Row × Nat) (l, v) =>
      (acc.1 ++ [⟨labelKey l, v, acc.2, none, root ++ memberStep l, root⟩],
        acc.2 + l.length + v.length))
      ([], at_ + e.headerSize)
    rows
  | _ => []

/-- Where the `json_tree` row of the element a root path names cuts that path: the last
`.` or `[` that ends a path naming an element whose first child starts at `id`, else 1. -/
def rootCut (doc : Element) (root : List UInt8) (id : Nat) : Nat :=
  let cuts := ((List.range root.length).reverse.filter (· ≥ 1)).filter fun n =>
    root.getD n 0 == 46 || root.getD n 0 == 91
  let hit := cuts.find? fun n =>
    match doc.lookup ((root.take n).drop 1) with
    | .ok s => s.offset + s.element.headerSize == id
    | .error _ => false
  hit.getD 1

/-- The key the `json_tree` row of the element a root path names shows: the part of the
path after the cut. -/
def rootKey (root : List UInt8) (cut : Nat) : SqlValue :=
  let n := root.length - cut
  if root.length == 1 || n == 0 then .null
  else if root.getD cut 0 == 91 then .int (prefixInteger (utf8Text ((root.drop (cut + 1)).take (n - 1))))
  else if root.getD (cut + 1) 0 == 34 then .text (utf8Text ((root.drop (cut + 2)).take (n - 3)))
  else .text (utf8Text ((root.drop (cut + 1)).take (n - 1)))

/-- The rows `json_each` (or `json_tree`, when `recursive`) lists for a document and a
root path starting with `$`; a root path that names nothing lists none. -/
def walk (recursive : Bool) (doc : Element) (root : List UInt8) : Except Miss (List Row) :=
  let spot : Except Miss Spot :=
    if root.length ≤ 1 then .ok ⟨doc, 0, none⟩ else doc.lookup (root.drop 1)
  match spot with
  | .error .notFound => .ok []
  | .error .badPath => .error .badPath
  | .ok s =>
    let id := s.label.getD s.offset
    if recursive then
      let cut := if root.length ≥ 2 then rootCut doc root id else root.length
      let first : Row := ⟨rootKey root cut, s.element, id, none, root, root.take cut⟩
      match treeRows (2 * s.element.length + 2) s.element id s.offset none .null root root with
      | _ :: below => .ok (first :: below)
      | [] => .ok [first]
    else if s.element.isContainer then .ok (childRows s.element s.offset root)
    else .ok [⟨.null, s.element, id, none, root, root⟩]

end Document

end Relational

end CrateState
