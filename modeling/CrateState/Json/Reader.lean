import CrateState.Json.Cursor

/-!
# Reading a JSON value

`Json.parse` reads one complete JSON text into a `Json` value, refusing anything after it
but whitespace. Arrays and objects may nest 127 deep. A comma directly before a closing
bracket is a trailing comma; inside an object a member name must be a string and must be
followed by a colon.
-/

namespace CrateState

namespace Json

/-- How deep arrays and objects may nest, counting the outermost as 1, plus one. -/
def depthLimit : Nat := 128

mutual

/-- Reads one value after optional whitespace. `depth` counts the nesting still allowed;
`fuel` bounds the work by the length of the text. -/
def readValue (fuel depth : Nat) (cur : Cursor) : Except Error (Json × Cursor) :=
  match fuel with
  | 0 => cur.failPeek .recursionLimit
  | fuel + 1 =>
    let cur := cur.skipWs
    match cur.peek with
    | none => cur.failPeek .eofValue
    | some 'n' => (readIdent cur.eat "ull".toList).map fun c => (.null, c)
    | some 't' => (readIdent cur.eat "rue".toList).map fun c => (.bool true, c)
    | some 'f' => (readIdent cur.eat "alse".toList).map fun c => (.bool false, c)
    | some '-' => (readNumber cur.eat false).map fun (n, c) => (.num n, c)
    | some '"' => (readString cur.eat).map fun (s, c) => (.str s, c)
    | some '[' =>
      if depth ≤ 1 then cur.failPeek .recursionLimit
      else
        let cur := cur.eat.skipWs
        match cur.peek with
        | some ']' => .ok (.arr [], cur.eat)
        | none => cur.failPeek .eofList
        | some _ => (readItems fuel (depth - 1) cur []).map fun (xs, c) => (.arr xs, c)
    | some '{' =>
      if depth ≤ 1 then cur.failPeek .recursionLimit
      else
        let cur := cur.eat.skipWs
        match cur.peek with
        | some '}' => .ok (.obj [], cur.eat)
        | none => cur.failPeek .eofObject
        | some '"' => (readMembers fuel (depth - 1) cur []).map fun (ms, c) => (.obj ms, c)
        | some _ => cur.failPeek .keyMustBeString
    | some c =>
      if isDigit c then (readNumber cur true).map fun (n, c) => (.num n, c)
      else cur.failPeek .expectedValue

/-- Reads the items of an array from the first one, through the closing bracket. -/
def readItems (fuel depth : Nat) (cur : Cursor) (acc : List Json) :
    Except Error (List Json × Cursor) :=
  match fuel with
  | 0 => cur.failPeek .recursionLimit
  | fuel + 1 =>
    match readValue fuel depth cur with
    | .error e => .error e
    | .ok (v, cur) =>
      let cur := cur.skipWs
      match cur.peek with
      | some ',' =>
        let cur := cur.eat.skipWs
        match cur.peek with
        | some ']' => cur.failPeek .trailingComma
        | none => cur.failPeek .eofValue
        | some _ => readItems fuel depth cur (v :: acc)
      | some ']' => .ok ((v :: acc).reverse, cur.eat)
      | some _ => cur.failPeek .expectedListCommaOrEnd
      | none => cur.failPeek .eofList

/-- Reads the members of an object from the first name, through the closing brace. -/
def readMembers (fuel depth : Nat) (cur : Cursor) (acc : List (String × Json)) :
    Except Error (List (String × Json) × Cursor) :=
  match fuel with
  | 0 => cur.failPeek .recursionLimit
  | fuel + 1 =>
    match readString cur.eat with
    | .error e => .error e
    | .ok (k, cur) =>
      let cur := cur.skipWs
      match cur.peek with
      | none => cur.failPeek .eofObject
      | some ':' =>
        match readValue fuel depth cur.eat with
        | .error e => .error e
        | .ok (v, cur) =>
          let cur := cur.skipWs
          match cur.peek with
          | some ',' =>
            let cur := cur.eat.skipWs
            match cur.peek with
            | some '"' => readMembers fuel depth cur ((k, v) :: acc)
            | some '}' => cur.failPeek .trailingComma
            | some _ => cur.failPeek .keyMustBeString
            | none => cur.failPeek .eofValue
          | some '}' => .ok (((k, v) :: acc).reverse, cur.eat)
          | some _ => cur.failPeek .expectedObjectCommaOrEnd
          | none => cur.failPeek .eofObject
      | some _ => cur.failPeek .expectedColon

end

/-- Fails unless only whitespace is left. -/
def expectEnd (cur : Cursor) : Except Error Unit :=
  let cur := cur.skipWs
  match cur.peek with
  | none => .ok ()
  | some _ => cur.failPeek .trailingCharacters

def parse (s : String) : Except Error Json := do
  let cur := Cursor.start s
  let (v, cur) ← readValue (cur.rest.length + 2) depthLimit cur
  expectEnd cur
  return v

end Json

end CrateState
