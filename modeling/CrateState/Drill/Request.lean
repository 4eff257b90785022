import CrateState.Json.Value
import CrateState.Player
import CrateState.Storage.Error
import CrateState.Sync.Error

/-!
# Drill requests and answers

A drill is a scripted run of the library: a JSON request names what to build and which steps
to take, and the answer holds one result per step. This module reads a request's fields and
writes the shapes every answer shares:

* a result is `{"ok": value}` or `{"error": kind, "message": text}`;
* a step whose fields cannot be read is answered `bad_request` and never reaches the library;
* store errors are of kind `Storage.<Kind>`, sync errors `Sync.<Kind>`.

A required field absent reads `missing field "x"`, one of the wrong type
`field "x" must be a ...`. An optional text or flag may be absent or `null`, an optional
number only absent. A value that is no object has no fields.
-/

namespace CrateState

namespace Drill

/-- A reading of request fields: a value, or the message of a bad request. -/
abbrev Read := Except String

/-- `{"ok": value}`. -/
def okJson (j : Json) : Json := .obj [("ok", j)]

/-- `{"error": kind, "message": text}`. -/
def errorJson (kind message : String) : Json := .obj [("error", .str kind), ("message", .str message)]

/-- The answer to a request that could not be read. -/
def badRequest (message : String) : Json := errorJson "bad_request" message

/-- The error object of a store error. -/
def storeErrorJson (e : StoreError) : Json := errorJson ("Storage." ++ e.kind) e.message

/-- The error object of a sync error. -/
def syncErrorJson (e : SyncError) : Json := errorJson ("Sync." ++ e.kind) e.message

def resultJson {α : Type} (f : α → Json) : Except StoreError α → Json
  | .ok a => okJson (f a)
  | .error e => storeErrorJson e

/-- `field "name" must be a kind`. -/
def mustBe (name kind : String) : String := "field " ++ "\"" ++ name ++ "\" must be " ++ kind

/-- `missing field "name"`. -/
def missingField (name : String) : String := "missing field " ++ "\"" ++ name ++ "\""

/-- A required field, present with any value. -/
def need (j : Json) (name : String) : Read Json :=
  match j.field? name with
  | some v => .ok v
  | none => .error (missingField name)

def text (j : Json) (name : String) : Read String := do
  match ← need j name with
  | .str s => pure s
  | _ => throw (mustBe name "a string")

/-- A string field that may be missing or `null`. -/
def optText (j : Json) (name : String) : Read (Option String) :=
  match j.field? name with
  | some (.str s) => .ok (some s)
  | some .null | none => .ok none
  | _ => .error (mustBe name "a string")

def flag (j : Json) (name : String) : Read Bool := do
  match ← need j name with
  | .bool b => pure b
  | _ => throw (mustBe name "a bool")

def optFlag (j : Json) (name : String) : Read (Option Bool) :=
  match j.field? name with
  | some (.bool b) => .ok (some b)
  | some .null | none => .ok none
  | _ => .error (mustBe name "a bool")

/-- An unsigned 64-bit number, read from a field value. -/
def u64Of (name : String) : Json → Read Nat
  | .num (.nat n) => if n < Nat.pow 2 64 then .ok n else .error (mustBe name "a u64")
  | _ => .error (mustBe name "a u64")

/-- An unsigned 64-bit field. -/
def u64 (j : Json) (name : String) : Read Nat := do
  u64Of name (← need j name)

/-- An optional unsigned 64-bit field: absent, or a number. -/
def optU64 (j : Json) (name : String) : Read (Option Nat) :=
  match j.field? name with
  | none => .ok none
  | some v => some <$> u64Of name v

/-- An unsigned 32-bit field. -/
def u32 (j : Json) (name : String) : Read Nat := do
  let n ← u64 j name
  if n < Nat.pow 2 32 then pure n else throw (mustBe name "a u32")

/-- An optional unsigned 32-bit field: absent, or a number. -/
def optU32 (j : Json) (name : String) : Read (Option Nat) := do
  match ← optU64 j name with
  | some n => if n < Nat.pow 2 32 then pure (some n) else throw (mustBe name "a u32")
  | none => pure none

/-- A signed 64-bit number, read from a field value. -/
def i64Of (name : String) : Json → Read Int
  | .num (.nat n) => if n < Nat.pow 2 63 then .ok n else .error (mustBe name "an i64")
  | .num (.neg n) => .ok n
  | _ => .error (mustBe name "an i64")

/-- A signed 64-bit field. -/
def i64 (j : Json) (name : String) : Read Int := do
  i64Of name (← need j name)

/-- An optional signed 64-bit field: absent, or a number. -/
def optI64 (j : Json) (name : String) : Read (Option Int) :=
  match j.field? name with
  | none => .ok none
  | some v => some <$> i64Of name v

/-- A player field: a UUID in any accepted form. -/
def player (j : Json) (name : String) : Read PlayerId := do
  let s ← text j name
  match PlayerId.parse s with
  | .ok p => pure p
  | .error e => throw ("field " ++ "\"" ++ name ++ "\" is not a uuid: " ++ e.message)

/-- The items of a list that a request must give: `name must be an array` otherwise. -/
def listOf (name : String) : Json → Read (List Json)
  | .arr xs => .ok xs
  | _ => .error (name ++ " must be an array")

/-- A list field that must be present. -/
def items (j : Json) (name : String) : Read (List Json) := do
  listOf name (← need j name)

/-- A list field that may be absent (then empty). -/
def optItems (j : Json) (name : String) : Read (List Json) :=
  match j.field? name with
  | some v => listOf name v
  | none => .ok []

/-- The members of an object field that may be absent (then empty):
`name must be an object` otherwise. -/
def optMembers (j : Json) (name : String) : Read (List (String × Json)) :=
  match j.field? name with
  | some (.obj ms) => .ok ms
  | some _ => .error (name ++ " must be an object")
  | none => .ok []

end Drill

end CrateState
