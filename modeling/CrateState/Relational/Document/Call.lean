import CrateState.Relational.Document.Read
import CrateState.Relational.Document.Merge
import CrateState.Relational.Document.Walk
import CrateState.Relational.Document.Check
import CrateState.Relational.Printf
import CrateState.Relational.Error

/-!
# The JSON functions

The `json_…` functions take their document as text (or a blob: binary form when it looks
like one element in binary form, text otherwise), give `NULL` for `NULL` and fail with
`malformed JSON` on text that is no document. The `jsonb_…` functions give the binary form.

A text a JSON function made carries a mark telling other JSON functions it is JSON already:
`json_array(json('[1]'))` is `[[1]]`, `json_array('[1]')` is `["[1]"]`. The mark goes from
one call straight into another (and through `COLLATE`, `CASE`, `coalesce`, `ifnull`,
`iif`), not through stored rows. A `Marked` value is a value with its mark.

An SQL value becomes JSON (`json_array`, `json_object`, `json_quote`, the group aggregates)
as: `null` for `NULL`, an integer's digits, a double's fifteen significant digits
(`9.0e+999` for infinity), a marked text as is, other text as a string, a binary-form blob
as its text; any other blob fails with `JSON cannot hold BLOB values`. `json_set` and its
kin take a double as its stored text (`9e999` for infinity).
-/

namespace CrateState

namespace Relational

namespace Document

/-- A value, and whether it carries the JSON mark. -/
abbrev Marked := SqlValue × Bool

/-- A value without the mark. -/
def plain (v : SqlValue) : Marked := (v, false)

/-- The error of text that is no JSON document. -/
def malformed : SqlError := .general "malformed JSON"

/-- The error of a blob where JSON needs a value. -/
def blobInJson : SqlError := .general "JSON cannot hold BLOB values"

/-- The error of a path that is not well formed. -/
def badPath (path : List UInt8) : SqlError :=
  .general ("bad JSON path: " ++ quoteText (utf8Text path))

/-- The document bytes hold as JSON text; empty text is no document. -/
def documentOfText (bs : List UInt8) : Except SqlError Element :=
  if bs.isEmpty then .error malformed
  else
    match readText bs with
    | .ok e _ => .ok e
    | .fault _ => .error malformed

/-- The element of a blob in binary form. -/
def documentOfBinary (bs : List UInt8) : Except SqlError Element :=
  match Element.ofBinary bs with
  | some e => .ok e
  | none => .error malformed

/-- The document a value holds; `none` for `NULL`. -/
def documentOf (v : SqlValue) : Except SqlError (Option Element) :=
  match v with
  | .null => .ok none
  | .blob b =>
    let bs := b.toList
    (if looksBinary bs then documentOfBinary bs else documentOfText bs).map some
  | v => (documentOfText v.bytes).map some

/-- The bytes of a path argument up to a NUL; `none` for `NULL`. -/
def pathOf (v : SqlValue) : Option (List UInt8) :=
  match v with
  | .null => none
  | v => some (pathBytes v.bytes)

/-- The element a value becomes as the new value of an edit. -/
def elementOfValue : Marked → Except SqlError Element
  | (.null, _) => .ok .null
  | (.blob b, _) => if looksBinary b.toList then documentOfBinary b.toList else .error blobInJson
  | (.text s, true) => documentOfText (utf8Bytes s)
  | (.text s, false) => .ok (.string .raw (utf8Bytes s))
  | (.real f, _) =>
    if f.isInf then .ok (.real (ascii (if f > 0 then "9e999" else "-9e999")) false)
    else .ok (.real (ascii (realText f)) false)
  | (.int i, _) => .ok (.integer (ascii (toString i)) false)

/-- The JSON text of an SQL value (see the module header). -/
def jsonText : Marked → Except SqlError (List UInt8)
  | (.null, _) => .ok (ascii "null")
  | (.real f, _) => .ok (ascii (Printf.format "%!0.15g" [.real f]))
  | (.int i, _) => .ok (ascii (toString i))
  | (.text s, true) => .ok (utf8Bytes s)
  | (.text s, false) => .ok (quoteRaw (utf8Bytes s))
  | (.blob b, _) =>
    let bs := b.toList
    if looksBinary bs then (documentOfBinary bs).map Element.render else .error blobInJson

/-- The result of a function that builds JSON text: marked text, or for the binary
variant the binary form of the document the text spells. -/
def textResult (binary : Bool) (bs : List UInt8) : Marked :=
  if binary then
    match readText bs with
    | .ok e _ => plain (.blob (Blob.ofList e.encode))
    | .fault _ => plain (.blob (Blob.ofList []))
  else (.text (utf8Text bs), true)

/-- The result of a function that gives a document. -/
def documentResult (binary : Bool) (e : Element) : Marked :=
  if binary then plain (.blob (Blob.ofList e.encode)) else (.text (utf8Text e.render), true)

/-- The SQL value of an element (`->>`, `json_extract`, the `value` column). -/
def Element.toSql (e : Element) : Except SqlError SqlValue :=
  match e.sqlValue with
  | some v => .ok v
  | none => .error malformed

/-- The JSON functions and the numbers of arguments each takes; `none` for another name. -/
def jsonArity (name : String) (n : Nat) : Option Bool :=
  match name with
  | "json" | "jsonb" | "json_quote" | "json_error_position" => some (n = 1)
  | "json_array" | "jsonb_array" | "json_object" | "jsonb_object" | "json_extract"
  | "jsonb_extract" | "json_insert" | "jsonb_insert" | "json_replace" | "jsonb_replace"
  | "json_set" | "jsonb_set" | "json_remove" | "jsonb_remove" => some true
  | "json_array_length" | "json_type" | "json_valid" | "json_pretty" => some (n = 1 || n = 2)
  | "json_patch" | "jsonb_patch" => some (n = 2)
  | "json_group_array" | "jsonb_group_array" => some (n = 1)
  | "json_group_object" | "jsonb_group_object" => some (n = 2)
  | _ => none

/-- Whether a name is one of the JSON functions. -/
def isJsonFunction (name : String) : Bool := (jsonArity name 1).isSome

/-- Whether a name is one of the JSON group aggregates. -/
def isJsonAggregate (name : String) : Bool :=
  name == "json_group_array" || name == "jsonb_group_array" || name == "json_group_object" ||
    name == "jsonb_group_object"

/-- Removes the elements paths name, one path after another. A `NULL` path or the path
`$` makes the result `NULL`; a path that finds nothing is skipped. -/
def removeAll (doc : Element) : List SqlValue → Except SqlError (Option Element)
  | [] => .ok (some doc)
  | p :: rest =>
    match pathOf p with
    | none => .ok none
    | some path =>
      match path with
      | 36 :: steps =>
        if steps.isEmpty then .ok none
        else
          match doc.editAt .remove .null steps with
          | .ok (some d) => removeAll d rest
          | .ok none => .ok none
          | .error .notFound => removeAll doc rest
          | .error .badPath => .error (badPath path)
      | _ => .error (badPath path)

/-- Applies edits of (path, value) pairs one after another. A `NULL` path is skipped, as
is a path that finds nothing; at `$` replacing and setting replace the whole document. -/
def editAll (op : Edit) (doc : Element) : List Marked → Except SqlError Element
  | p :: v :: rest =>
    match pathOf p.1 with
    | none => editAll op doc rest
    | some path =>
      match path with
      | 36 :: steps => do
        let new ← elementOfValue v
        if steps.isEmpty then
          editAll op (if op == .insert then doc else new) rest
        else
          match doc.editAt op new steps with
          | .ok (some d) => editAll op d rest
          | .ok none => editAll op doc rest
          | .error .notFound => editAll op doc rest
          | .error .badPath => .error (badPath path)
      | _ => .error (badPath path)
  | _ => .ok doc

/-- The path the arrow operators look up for their right operand: a path starting with
`$` as it is; otherwise an integer `N` is `[N]` (so a negative one is a bad path), a word
of letters, digits and `_` is `.word`, `[…]` stays, and anything else is a quoted key. -/
def arrowSteps (right : SqlValue) (p : List UInt8) : List UInt8 :=
  match p with
  | 36 :: steps => steps
  | _ =>
    match right with
    | .int _ => [91] ++ p ++ [93]
    | _ =>
      if p.all (fun b => isAlnum b || b == 95) then [46] ++ p
      else if p.head? == some 91 && p.length ≥ 3 && p.getLast? == some 93 then p
      else [46, 34] ++ p ++ [34]

/-- `left -> right` (`asJson`) or `left ->> right`. -/
def jsonArrow (asJson : Bool) (left right : SqlValue) : Except SqlError Marked := do
  match ← documentOf left with
  | none => .ok (plain .null)
  | some doc =>
    match pathOf right with
    | none => .ok (plain .null)
    | some p =>
      match doc.lookup (arrowSteps right p) with
      | .ok s =>
        if asJson then .ok (.text (utf8Text s.element.render), true)
        else .ok (plain (← s.element.toSql))
      | .error .notFound => .ok (plain .null)
      | .error .badPath => .error (badPath p)

/-- The element a full path names in a document: `none` when it finds nothing. -/
def lookupFull (doc : Element) (path : List UInt8) : Except SqlError (Option Element) :=
  match path with
  | 36 :: steps =>
    match doc.lookup steps with
    | .ok s => .ok (some s.element)
    | .error .notFound => .ok none
    | .error .badPath => .error (badPath path)
  | _ => .error (badPath path)

/-- The JSON texts of the elements paths name (`null` for those that find nothing), one
path after another; `none` as soon as a path is `NULL`. -/
def extractParts (doc : Element) : List SqlValue → Except SqlError (Option (List (List UInt8)))
  | [] => .ok (some [])
  | p :: ps =>
    match pathOf p with
    | none => .ok none
    | some path => do
      let part := match ← lookupFull doc path with
        | some e => e.render
        | none => ascii "null"
      match ← extractParts doc ps with
      | some more => .ok (some (part :: more))
      | none => .ok none

/-- `json_extract` (or `jsonb_extract`, when `binary`) of a document at paths. -/
def extract (binary : Bool) (doc : Element) (paths : List SqlValue) : Except SqlError Marked :=
  match paths with
  | [p] =>
    match pathOf p with
    | none => .ok (plain .null)
    | some path => do
      match ← lookupFull doc path with
      | none => .ok (plain .null)
      | some e =>
        if e.isContainer then .ok (documentResult binary e)
        else .ok (plain (← e.toSql))
  | ps => do
    match ← extractParts doc ps with
    | some parts => .ok (textResult binary ([91] ++ [44].intercalate parts ++ [93]))
    | none => .ok (plain .null)

/-- The members of `json_object`: labels must be texts; a value that cannot be JSON fails
the call unless a later label fails it first. -/
def objectMembers : List Marked → Option SqlError → Except SqlError (List (List UInt8))
  | (k, _) :: v :: rest, pending =>
    match k with
    | .text label =>
      match jsonText v with
      | .ok t => do
        let more ← objectMembers rest pending
        pure ((quoteRaw (utf8Bytes label) ++ [58] ++ t) :: more)
      | .error e => objectMembers rest (pending.getD e)
    | _ => .error (.general "json_object() labels must be TEXT")
  | _, some e => .error e
  | _, none => .ok []

/-- The number of an argument as an integer. -/
def flagsOf (v : SqlValue) : Int := v.toInt

/-- `json_valid(x, flags)`. -/
def validity (x : SqlValue) (flags : Nat) : SqlValue :=
  let textCheck (bs : List UInt8) : SqlValue :=
    if flags % 4 == 0 || bs.isEmpty then .int 0
    else
      match readText bs with
      | .ok _ extended => .int (if flags / 2 % 2 == 1 || !extended then 1 else 0)
      | .fault _ => .int 0
  match x with
  | .null => .null
  | .blob b =>
    let bs := b.toList
    if looksBinary bs then
      if flags / 4 % 2 == 1 then .int 1
      else if flags / 8 % 2 == 1 then .int (if checkBinary bs == 0 then 1 else 0)
      else .int 0
    else textCheck bs
  | v => textCheck v.bytes

/-- `json_error_position(x)`. -/
def errorPosition (x : SqlValue) : SqlValue :=
  let textPosition (bs : List UInt8) : SqlValue :=
    if bs.isEmpty then .int 1
    else
      match readText bs with
      | .ok _ _ => .int 0
      | .fault at_ => .int (faultPosition bs at_)
  match x with
  | .null => .null
  | .blob b =>
    let bs := b.toList
    if looksBinary bs then .int (checkBinary bs) else textPosition bs
  | v => textPosition v.bytes

/-- Calls a JSON function (its name lowercased) on marked arguments. -/
def applyJson (name : String) (args : List Marked) : Except SqlError Marked := do
  let a := (args.headD (plain .null)).1
  let rest := args.drop 1
  let binary := name.startsWith "jsonb"
  let withDocument (k : Element → Except SqlError Marked) : Except SqlError Marked := do
    match ← documentOf a with
    | none => .ok (plain .null)
    | some doc => k doc
  match name with
  | "json" | "jsonb" => withDocument fun doc => .ok (documentResult binary doc)
  | "json_remove" | "jsonb_remove" =>
    if args.isEmpty then .ok (plain .null)
    else withDocument fun doc => do
      match ← removeAll doc (rest.map (·.1)) with
      | some d => .ok (documentResult binary d)
      | none => .ok (plain .null)
  | "json_set" | "jsonb_set" | "json_insert" | "jsonb_insert" | "json_replace"
  | "jsonb_replace" =>
    let (op, word) : Edit × String :=
      if name.endsWith "set" then (.set, "set")
      else if name.endsWith "insert" then (.insert, "insert")
      else (.replace, "replace")
    if args.isEmpty then .ok (plain .null)
    else if args.length % 2 == 0 then
      .error (.general ("json_" ++ word ++ "() needs an odd number of arguments"))
    else withDocument fun doc => do
      .ok (documentResult binary (← editAll op doc rest))
  | "json_extract" | "jsonb_extract" =>
    if args.length < 2 then .ok (plain .null)
    else withDocument fun doc => extract binary doc (rest.map (·.1))
  | "json_type" =>
    withDocument fun doc => do
      match rest with
      | [p] =>
        match pathOf p.1 with
        | none => .ok (plain .null)
        | some path =>
          match ← lookupFull doc path with
          | some e => .ok (plain (.text e.typeName))
          | none => .ok (plain .null)
      | _ => .ok (plain (.text doc.typeName))
  | "json_array_length" =>
    withDocument fun doc => do
      let target ← match rest with
        | [p] =>
          match pathOf p.1 with
          | none => .ok none
          | some path =>
            let steps := match path with
              | 36 :: steps => steps
              | _ => [64]
            match doc.lookup steps with
            | .ok s => .ok (some (some s.element))
            | .error .notFound => .ok none
            | .error .badPath => .error (badPath path)
        | _ => .ok (some (some doc))
      match target with
      | some (some (.array items)) => .ok (plain (.int items.length))
      | some (some _) => .ok (plain (.int 0))
      | _ => .ok (plain .null)
  | "json_valid" =>
    let flags := match rest with
      | [f] => flagsOf f.1
      | _ => 1
    if flags < 1 || flags > 15 then
      .error (.general "FLAGS parameter to json_valid() must be between 1 and 15")
    else .ok (plain (validity a flags.toNat))
  | "json_error_position" => .ok (plain (errorPosition a))
  | "json_quote" => do
    let t ← jsonText (args.headD (plain .null))
    .ok (.text (utf8Text t), true)
  | "json_array" | "jsonb_array" => do
    let parts ← args.mapM jsonText
    .ok (textResult binary ([91] ++ [44].intercalate parts ++ [93]))
  | "json_object" | "jsonb_object" =>
    if args.length % 2 == 1 then
      .error (.general "json_object() requires an even number of arguments")
    else do
      let members ← objectMembers args none
      .ok (textResult binary ([123] ++ [44].intercalate members ++ [125]))
  | "json_patch" | "jsonb_patch" =>
    withDocument fun doc => do
      match ← documentOf (rest.headD (plain .null)).1 with
      | none => .ok (plain .null)
      | some p => .ok (documentResult binary (doc.patch p))
  | "json_pretty" =>
    withDocument fun doc =>
      let indent := match rest with
        | [(.null, _)] | [] => ascii "    "
        | p :: _ => Bytes.beforeNul p.1.bytes
      .ok (plain (.text (utf8Text (doc.pretty indent 0))))
  | _ => .error (.general ("no such function: " ++ name))

/-- A JSON group aggregate (its name lowercased) over the argument lists of a group's
rows: `json_group_array(x)` or `json_group_object(label, value)`, which writes a `NULL`
label as nothing at all (not even quotes). With no rows they give `[]` and `{}` as text,
even the binary variants. -/
def jsonGroup (name : String) (rows : List (List Marked)) : Except SqlError Marked := do
  let binary := name.startsWith "jsonb"
  let isObject := name.endsWith "object"
  if rows.isEmpty then .ok (.text (if isObject then "\x7b\x7d" else "[]"), true)
  else if isObject then
    let parts ← rows.mapM fun r => do
      let t ← jsonText ((r.drop 1).headD (plain .null))
      match r.headD (plain .null) with
      | (.null, _) => pure ([58] ++ t)
      | (k, _) => pure (quoteRaw (Bytes.beforeNul k.bytes) ++ [58] ++ t)
    .ok (textResult binary ([123] ++ [44].intercalate parts ++ [125]))
  else
    let parts ← rows.mapM fun r => jsonText (r.headD (plain .null))
    .ok (textResult binary ([91] ++ [44].intercalate parts ++ [93]))

/-! ## `json_each` and `json_tree` -/

/-- The columns of `json_each` and `json_tree`; the last two are hidden. -/
def walkColumns : List String :=
  ["key", "value", "type", "atom", "id", "parent", "fullkey", "path", "json", "root"]

/-- The rows of `json_each(args)` (or `json_tree`, when `recursive`), each a list of
the columns' marked values. -/
def walkTable (recursive : Bool) (args : List SqlValue) : Except SqlError (List (List Marked)) := do
  match args with
  | [] => .ok []
  | x :: more =>
    let source : Option (Element × SqlValue) ← match x with
      | .null => pure none
      | .blob b =>
        let bs := b.toList
        if looksBinary bs then do pure (some (← documentOfBinary bs, .blob b))
        else do pure (some (← documentOfText bs, .text (utf8Text (Bytes.beforeNul bs))))
      | v => do pure (some (← documentOfText v.bytes, .text (utf8Text (Bytes.beforeNul v.bytes))))
    match source with
    | none => .ok []
    | some (doc, whole) =>
      let root : Option (List UInt8) := match more with
        | r :: _ => pathOf r
        | [] => some [36]
      match root with
      | none => .ok []
      | some root =>
        if root.head? != some 36 then .error (badPath root)
        else
          match walk recursive doc root with
          | .error _ => .error (badPath root)
          | .ok rows =>
            rows.mapM fun r => do
              let value ← r.element.toSql
              let atom := if r.element.isContainer then .null else value
              pure [plain r.key, (value, r.element.isContainer), plain (.text r.element.typeName),
                plain atom, plain (.int r.id),
                plain (match r.parent with
                  | some p => .int p
                  | none => .null),
                plain (.text (utf8Text r.fullkey)), plain (.text (utf8Text r.path)),
                plain whole, plain (.text (utf8Text root))]

end Document

end Relational

end CrateState
