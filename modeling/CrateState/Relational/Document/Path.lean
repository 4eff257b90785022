import CrateState.Relational.Document.Scalar

/-!
# Paths

A path is `$` followed by steps, read one at a time as the document is walked:

* `.key` names an object member by a key running to the next `.` or `[` (not empty), and
  `."key"` by the bytes up to the next `"` (no escapes; the quote must close). The key is
  read before the element is looked at, so an unreadable step is a bad path on any value.
* `[N]` names the `N`th array element (`N` modulo 2^32), `[#]` the place past the end and
  `[#-N]` the place `N` before it. The element is checked to be an array before the index
  is read; `[#-N]` past the start finds nothing before the closing bracket is checked.
* Any other byte where a step starts is a bad path.

A path that finds nothing stops, and the rest is never read: `$.a.` finds nothing in `{}`.

## Edits

`json_remove`, `json_replace`, `json_insert` and `json_set` walk a path the same way. At
the element it names, removing drops it (with its label), replacing and setting put the new
value there, inserting leaves it. Where the path leaves the document, inserting and setting
add what is missing at the last step the document has: a member (its label as written,
escapes and all) after the last one, or an element at the array's end. The rest of the path
is built the same way inside an empty object (when it goes on with `.`) or array; if that
finds nothing or is a bad path, nothing is added.
-/

namespace CrateState

namespace Relational

namespace Document

/-- Why a path names no element. -/
inductive Miss where
  /-- The document has no element there. -/
  | notFound
  /-- The path is not well formed. -/
  | badPath
  deriving DecidableEq, Repr

/-- The value of decimal digits, counted modulo 2^32. -/
def indexValue (digits : List UInt8) : Nat :=
  digits.foldl (fun acc b => (acc * 10 + (b.toNat - 48)) % Nat.pow 2 32) 0

/-- Reads the key of a `.` step (the bytes after the point): whether it has no backslash,
the key, and the rest of the path. -/
def readKey (rest : List UInt8) : Except Miss (Bool × List UInt8 × List UInt8) :=
  match rest with
  | 34 :: more =>
    let key := more.takeWhile (· != 34)
    match more.drop key.length with
    | [] => .error .badPath
    | _ :: after => .ok (!key.contains 92, key, after)
  | _ =>
    let key := rest.takeWhile fun b => b != 46 && b != 91
    if key.isEmpty then .error .badPath else .ok (true, key, rest.drop key.length)

/-- Reads the index of a `[` step (the bytes after the bracket) on an array of `count`
elements: the index it names and the rest of the path. -/
def readIndex (count : Nat) (rest : List UInt8) : Except Miss (Nat × List UInt8) :=
  let digits := rest.takeWhile isDigit
  let after := rest.drop digits.length
  if !digits.isEmpty && after.head? == some 93 then .ok (indexValue digits, after.drop 1)
  else
    match rest with
    | 35 :: 45 :: d :: more =>
      if isDigit d then
        let back := (d :: more).takeWhile isDigit
        let after := (d :: more).drop back.length
        let n := indexValue back
        if n > count then .error .notFound
        else if after.head? == some 93 then .ok (count - n, after.drop 1)
        else .error .badPath
      else .error .badPath
    | 35 :: 93 :: after => .ok (count, after)
    | _ => .error .badPath

/-- The position, offset and entry of the first member whose label matches a key, the
members starting at offset `o`. -/
def findMember (literal : Bool) (key : List UInt8) :
    List (Label × Element) → Nat → Nat → Option (Nat × Nat × Label × Element)
  | [], _, _ => none
  | (l, v) :: ms, o, idx =>
    if labelsMatch literal key l.spelling.isLiteral l.text then some (idx, o, l, v)
    else findMember literal key ms (o + l.length + v.length) (idx + 1)

/-- The element at a position of an array and its offset, the elements starting at
offset `o`. -/
def itemAt : List Element → Nat → Nat → Option (Element × Nat)
  | [], _, _ => none
  | e :: _, 0, o => some (e, o)
  | e :: es, k + 1, o => itemAt es k (o + e.length)

/-- An element a path names: the element, its offset in the binary form, and the offset
of its label when it is an object member. -/
structure Spot where
  element : Element
  /-- Where its binary form starts. -/
  offset : Nat
  /-- Where its label starts, for an object member. -/
  label : Option Nat

/-- Follows the steps of a path from an element at an offset. -/
def Element.find : Nat → Element → Nat → Option Nat → List UInt8 → Except Miss Spot
  | 0, _, _, _, _ => .error .notFound
  | _, e, at_, label, [] => .ok ⟨e, at_, label⟩
  | fuel + 1, e, at_, _, 46 :: rest => do
    let (literal, key, after) ← readKey rest
    match e with
    | .object members =>
      match findMember literal key members (at_ + e.headerSize) 0 with
      | some (_, o, l, v) => Element.find fuel v (o + l.length) (some o) after
      | none => .error .notFound
    | _ => .error .notFound
  | fuel + 1, e, at_, _, 91 :: rest =>
    match e with
    | .array items => do
      let (k, after) ← readIndex items.length rest
      match itemAt items k (at_ + e.headerSize) with
      | some (v, o) => Element.find fuel v o none after
      | none => .error .notFound
    | _ => .error .notFound
  | _ + 1, _, _, _, _ :: _ => .error .badPath

/-- The bytes of a path up to its first NUL. -/
def pathBytes (p : List UInt8) : List UInt8 := p.takeWhile (· != 0)

/-- Looks up the steps of a path (what follows its `$`) in a document. -/
def Element.lookup (doc : Element) (steps : List UInt8) : Except Miss Spot :=
  doc.find (steps.length + 1) 0 none steps

/-- An edit of the element a path names. -/
inductive Edit where
  /-- `json_remove` -/
  | remove
  /-- `json_replace` -/
  | replace
  /-- `json_insert` -/
  | insert
  /-- `json_set` -/
  | set
  deriving DecidableEq, Repr

/-- Whether an edit adds what a path names but the document lacks. -/
def Edit.grows : Edit → Bool
  | .insert | .set => true
  | _ => false

/-- The empty container what remains of a path is built in. -/
def emptyFor (rest : List UInt8) : Element :=
  if rest.head? == some 46 then .object [] else .array []

/-- Edits the element the steps of a path name with a value; `none` when it is removed. -/
def Element.edit (op : Edit) (v : Element) : Nat → Element → List UInt8 → Except Miss (Option Element)
  | 0, _, _ => .error .notFound
  | _, e, [] =>
    match op with
    | .remove => .ok none
    | .insert => .ok (some e)
    | .replace | .set => .ok (some v)
  | fuel + 1, e, 46 :: rest => do
    let (literal, key, after) ← readKey rest
    match e with
    | .object members =>
      match findMember literal key members 0 0 with
      | some (idx, _, l, old) =>
        match ← Element.edit op v fuel old after with
        | some new => .ok (some (.object (members.set idx (l, new))))
        | none => .ok (some (.object (members.eraseIdx idx)))
      | none =>
        if op.grows then
          let added ← if after.isEmpty then .ok v
            else (Element.edit op v fuel (emptyFor after) after).map (·.getD (emptyFor after))
          let label : Label := ⟨if literal then .raw else .extended, key⟩
          .ok (some (.object (members ++ [(label, added)])))
        else .error .notFound
    | _ => .error .notFound
  | fuel + 1, e, 91 :: rest =>
    match e with
    | .array items => do
      let (k, after) ← readIndex items.length rest
      if k < items.length then
        match ← Element.edit op v fuel (items.getD k .null) after with
        | some new => .ok (some (.array (items.set k new)))
        | none => .ok (some (.array (items.eraseIdx k)))
      else if k == items.length && op.grows then
        let added ← if after.isEmpty then .ok v
          else (Element.edit op v fuel (emptyFor after) after).map (·.getD (emptyFor after))
        .ok (some (.array (items ++ [added])))
      else .error .notFound
    | _ => .error .notFound
  | _ + 1, _, _ :: _ => .error .badPath

/-- Edits a document at the steps of a path (what follows its `$`). -/
def Element.editAt (doc : Element) (op : Edit) (v : Element) (steps : List UInt8) :
    Except Miss (Option Element) :=
  Element.edit op v (steps.length + 1) doc steps

end Document

end Relational

end CrateState
