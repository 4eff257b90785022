/-!
# Errors of the database

An error the database reports: its numeric result code (an extended code for constraint
failures) and its message. `SqlError.render` is the text a client library shows for it.
-/

namespace CrateState

namespace Relational

/-- An error reported by the database. -/
structure SqlError where
  /-- The result code. -/
  code : Nat
  message : String
  deriving DecidableEq, Repr, Inhabited

/-- The text a client shows for a database error. -/
def SqlError.render (e : SqlError) : String :=
  "error returned from database: (code: " ++ toString e.code ++ ") " ++ e.message

/-- A generic error (code 1) with the given message. -/
def SqlError.general (message : String) : SqlError := ⟨1, message⟩

/-- `no such table: name`. -/
def SqlError.noTable (name : String) : SqlError := .general ("no such table: " ++ name)

/-- `no such column: name`. -/
def SqlError.noColumn (name : String) : SqlError := .general ("no such column: " ++ name)

/-- `near "token": syntax error`. -/
def SqlError.near (token : String) : SqlError := .general ("near \"" ++ token ++ "\": syntax error")

/-- `unrecognized token: "text"`. -/
def SqlError.unrecognized (text : String) : SqlError :=
  .general ("unrecognized token: \"" ++ text ++ "\"")

/-- `no such collation sequence: name`, with its extended code (257): a `COLLATE` that
names no collation, met where the collation is looked up. -/
def SqlError.noCollation (name : String) : SqlError := ⟨257, "no such collation sequence: " ++ name⟩

/-- A constraint failure with its extended code. -/
def SqlError.constraint (code : Nat) (message : String) : SqlError := ⟨code, message⟩

/-- `datatype mismatch` (code 20). -/
def SqlError.mismatch : SqlError := ⟨20, "datatype mismatch"⟩

/-- `attempt to write a readonly database` (code 8). -/
def SqlError.readOnly : SqlError := ⟨8, "attempt to write a readonly database"⟩

/-- `string or blob too big` (code 18): a value longer than the database allows. -/
def SqlError.tooBig : SqlError := ⟨18, "string or blob too big"⟩

/-- `database or disk is full` (code 13). -/
def SqlError.full : SqlError := ⟨13, "database or disk is full"⟩

end Relational

end CrateState
