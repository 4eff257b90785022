import CrateState.Relational.Engine
import CrateState.Relational.Function
import CrateState.Text.Quoted

/-!
# Pooled clients of the database

A `Pool` is what a store holds: a database reached through at most `size` connections,
some possibly held by a caller, and which may be closed. Every use checks a connection out
and fails, leaving the database alone, when

* the pool is closed (`poolClosed`);
* every connection is held, or the server never answers (`poolTimedOut`);
* opening a connection fails: an option the client does not know, or a database that
  refuses it (an unopenable file).

Waiting is not modelled: a wait that cannot succeed fails at once with its error.

A `Session` is work on the checked-out connection: statements, as text with the values of
their `?` parameters, and the decoding of their rows, failing with a `DriverError`
(`DriverError.render` gives the client's text).

## Addresses

A file address is `sqlite:` (or `sqlite://`), a file name and, after `?`, options joined
by `&`: `mode` is `ro`, `rw` (the default: the file must exist), `rwc` (create it) or
`memory`; `cache` is `private` or `shared`; `immutable` is `true`, `1`, `false` or `0`;
`vfs` names the file layer. Any other option or value is a configuration error.

The host holds no database files yet: a file database opens only when its address asks to
create it in a directory that exists (the working directory and `/tmp`). `:memory:` and
the empty name need no file.
-/

namespace CrateState

namespace Relational

/-- Why a use of the database failed, as the client reports it. -/
inductive DriverError where
  /-- The database refused a statement or a connection. -/
  | database (e : SqlError)
  /-- A returned value could not be read as the type asked for. -/
  | decode (column : String) (reason : String)
  /-- A returned row has no column of the name asked for. -/
  | missingColumn (name : String)
  /-- No connection became free in time. -/
  | poolTimedOut
  /-- The pool was closed. -/
  | poolClosed
  /-- The address names no known kind of database, or has options the client does not
  know. -/
  | configuration (reason : String)
  deriving DecidableEq, Repr

/-- The client's text for an error. -/
def DriverError.render : DriverError → String
  | .database e => e.render
  | .decode column reason =>
    "error occurred while decoding column " ++ Quoted.debug column ++ ": " ++ reason
  | .missingColumn name => "no column found for name: " ++ name
  | .poolTimedOut => "pool timed out while waiting for an open connection"
  | .poolClosed => "attempted to acquire a connection on a closed pool"
  | .configuration reason => reason

/-- How connection attempts to an address end. -/
inductive Reach where
  /-- Connections open. -/
  | opens
  /-- Every attempt fails with this error. -/
  | refused (e : DriverError)
  /-- Attempts never complete. -/
  | silent
  deriving DecidableEq, Repr

/-- The error of a file database that cannot be opened. -/
def cannotOpen : SqlError := ⟨14, "unable to open database file"⟩

/-- The bytes of a form-encoded text: `+` is a space and `%hh` a byte; anything else is
itself. -/
def formBytes : List Char → List UInt8
  | [] => []
  | '+' :: rest => 32 :: formBytes rest
  | '%' :: a :: b :: rest =>
    match hexDigitValue a.toNat, hexDigitValue b.toNat with
    | some x, some y => (x * 16 + y).toUInt8 :: formBytes rest
    | _, _ => '%'.toNat.toUInt8 :: formBytes (a :: b :: rest)
  | c :: rest => (String.singleton c).toUTF8.toList ++ formBytes rest

/-- A form-encoded text, decoded. -/
def formDecode (s : String) : String :=
  (String.fromUTF8? (formBytes s.toList).toByteArray).getD s

/-- The options of an address query: `key=value` pairs separated by `&`, empty pieces
skipped, each side form-decoded. -/
def queryPairs (query : String) : List (String × String) :=
  (query.splitOn "&").filterMap fun piece =>
    if piece.isEmpty then none
    else
      match piece.splitOn "=" with
      | [key] => some (formDecode key, "")
      | key :: rest => some (formDecode key, formDecode ("=".intercalate rest))
      | [] => none

/-- How a file database is opened. -/
structure OpenFlags where
  /-- No writes. -/
  readOnly : Bool := false
  /-- A missing file is created. -/
  create : Bool := false
  /-- A database in memory, with no file. -/
  memory : Bool := false
  /-- The file is taken never to change: no writes. -/
  immutable : Bool := false
  /-- A file layer other than the default. -/
  vfs : Option String := none

/-- Applies one address option to the flags, or answers why it is refused. -/
def OpenFlags.apply (f : OpenFlags) : String × String → Except DriverError OpenFlags
  | ("mode", "ro") => .ok { f with readOnly := true }
  | ("mode", "rw") => .ok f
  | ("mode", "rwc") => .ok { f with create := true }
  | ("mode", "memory") => .ok { f with memory := true }
  | ("mode", v) => .error (.configuration ("unknown value " ++ Quoted.debug v ++ " for `mode`"))
  | ("cache", "private") | ("cache", "shared") => .ok f
  | ("cache", v) => .error (.configuration ("unknown value " ++ Quoted.debug v ++ " for `cache`"))
  | ("immutable", "true") | ("immutable", "1") => .ok { f with immutable := true }
  | ("immutable", "false") | ("immutable", "0") => .ok { f with immutable := false }
  | ("immutable", v) =>
    .error (.configuration ("unknown value " ++ Quoted.debug v ++ " for `immutable`"))
  | ("vfs", v) => .ok { f with vfs := some v }
  | (k, _) =>
    .error (.configuration ("unknown query parameter `" ++ k ++ "` while parsing connection URL"))

def knownFileLayers : List String := ["unix", "unix-dotfile", "unix-excl", "unix-none", "memdb"]

/-- Whether a file may be created at a path: its directory exists and the path names a
file rather than a directory. -/
def creatable (path : String) : Bool :=
  match (path.splitOn "/").reverse with
  | [name] => !name.isEmpty
  | name :: dirs =>
    let dir := "/".intercalate dirs.reverse
    !name.isEmpty && (dir == "/tmp" || dir == ".")
  | [] => false

/-- A file database address: how it opens, and whether the database refuses writes. -/
def fileAddress (url : String) : Reach × Bool :=
  let body := if url.startsWith "sqlite://" then (url.drop 9).toString else (url.drop 7).toString
  let (name, query) :=
    match body.splitOn "?" with
    | name :: rest => (name, some ("?".intercalate rest))
    | [] => (body, none)
  let flags := ((query.map queryPairs).getD []).foldlM OpenFlags.apply {}
  match flags with
  | .error e => (.refused e, false)
  | .ok f =>
    let frozen := f.readOnly || f.immutable
    match f.vfs.filter (!knownFileLayers.contains ·) with
    | some v => (.refused (.database ⟨1, "no such vfs: " ++ v⟩), false)
    | none =>
      if name == ":memory:" || name.isEmpty || f.memory then (.opens, f.readOnly)
      else if f.create && creatable (formDecode name) then (.opens, frozen)
      else (.refused (.database cannotOpen), false)

/-- How connecting to a database address ends (after its scheme was accepted), and
whether the database refuses writes. -/
def Reach.ofAddress (url : String) : Reach × Bool :=
  if url.startsWith "sqlite:" then fileAddress url else (.silent, false)

/-- Whether a character may follow the first one of an address scheme. -/
def schemeChar (c : Char) : Bool :=
  (c.isAlphanum && c.toNat < 128) || c = '+' || c = '-' || c = '.'

/-- The scheme of an address, lowercased, when it has a well-formed one. -/
def addressScheme (url : String) : Option String :=
  match url.splitOn ":" with
  | scheme :: _ :: _ =>
    match scheme.toList with
    | c :: rest =>
      if c.isAlpha && c.toNat < 128 && rest.all schemeChar then some scheme.toLower else none
    | [] => none
  | _ => none

/-- Checks that the client has a driver for an address: file databases and the MySQL
family. -/
def checkDriver (url : String) : Except DriverError Unit :=
  match addressScheme url with
  | none => .error (.configuration "relative URL without a base")
  | some s =>
    if ["sqlite", "mysql", "mariadb"].contains s then .ok ()
    else .error (.configuration ("no driver found for URL scheme " ++ Quoted.debug s))

/-- A pool of connections to one database file. The connections share the main database
(`db`); each keeps the rest of its state to itself (`Link`). A connection given back
rejoins the resting ones only once the next checkout is under way, so two calls in a row
run on different connections whenever the pool may open a second one. -/
structure Pool where
  /-- How connection attempts end. -/
  reach : Reach
  /-- The most connections open at once. -/
  size : Nat
  /-- Connections checked out and kept by a caller. -/
  kept : List Link := []
  /-- Whether the pool was closed. -/
  closed : Bool := false
  /-- The main database the connections share, with the state of the connection used
  last. -/
  db : Database := {}
  /-- The connections resting in the pool, the next to be checked out first. -/
  idle : List Link := []
  /-- The connections given back and not yet resting again. -/
  returning : List Link := []
  /-- How many connections are open. -/
  opened : Nat := 0

namespace Pool

/-- A pool of `size` connections to an address, none of them open yet. -/
def ofAddress (url : String) (size : Nat) : Pool :=
  let (reach, readOnly) := Reach.ofAddress url
  { reach, size, db := { readOnly } }

/-- How many connections a caller keeps checked out. -/
def held (p : Pool) : Nat := p.kept.length

/-- The connection a checkout gets and the pool after it: the first resting one, else a
new one while fewer than `size` are open, else the first one on its way back (waited
for). Connections on their way back rest again once the checkout is under way. -/
def checkout (p : Pool) : Option (Link × Pool) :=
  match p.idle with
  | l :: rest => some (l, { p with idle := rest ++ p.returning, returning := [] })
  | [] =>
    if p.opened < p.size then
      some ({}, { p with idle := p.returning, returning := [], opened := p.opened + 1 })
    else
      match p.returning with
      | l :: rest => some (l, { p with idle := rest, returning := [] })
      | [] => none

/-- Why a connection cannot be checked out now, if it cannot. -/
def blocked (p : Pool) : Option DriverError :=
  if p.closed then some .poolClosed
  else if p.checkout.isNone then some .poolTimedOut
  else match p.reach with
    | .opens => none
    | .refused e => some e
    | .silent => some .poolTimedOut

/-- The pool with its first connection opened and resting, as connecting leaves it. -/
def start (p : Pool) : Pool :=
  { p with idle := p.idle ++ [{}], opened := p.opened + 1 }

/-- Checks a connection out and keeps it: the pool with one more held. -/
def hold (p : Pool) : Except DriverError Pool :=
  match p.blocked, p.checkout with
  | some e, _ => .error e
  | none, none => .error .poolTimedOut
  | none, some (l, p) => .ok { p with kept := p.kept ++ [l] }

/-- Gives every kept connection back. -/
def release (p : Pool) : Pool :=
  { p with returning := p.returning ++ p.kept, kept := [] }

end Pool

/-- A statement to run: its text and the values of its parameters. -/
structure Command where
  /-- The statement text. -/
  sql : String
  /-- The values bound to `?1`, `?2`, … in order. -/
  params : List SqlValue

/-- Work on a checked-out connection. -/
abbrev Session := ExceptT DriverError (StateM Database)

namespace Session

/-- A value from outside the database as the database holds it (see `Bytes.held`). -/
def heldValue : SqlValue → SqlValue
  | .text s => .text (Bytes.held s)
  | v => v

/-- Runs a statement, answering its rows and the number of rows it changed. -/
def run (c : Command) : Session (Relation × Nat) := fun db =>
  match db.runOne (Bytes.held c.sql) (c.params.map heldValue) with
  | (db', .ok r) => (.ok r, db')
  | (db', .error e) => (.error (.database e), db')

def query (c : Command) : Session Relation := do
  let (r, _) ← run c
  pure r

/-- Runs a statement for the number of rows it changed. -/
def exec (c : Command) : Session Nat := do
  let (_, n) ← run c
  pure n

/-- Runs a statement that takes no parameters. -/
def plain (sql : String) : Session Nat := exec ⟨sql, []⟩

/-- How the work of a transaction ends when it does not fail. -/
inductive Ending (α : Type) where
  /-- Keep what the work did. -/
  | commit (a : α)
  /-- Undo what the work did. -/
  | rollback (a : α)

/-- Gives up an open transaction: a `ROLLBACK` is sent, its own failure ignored, and the
error that ended the transaction is the answer. -/
def abandon {α : Type} (e : DriverError) : Session α := do
  let _ ← tryCatch (plain "ROLLBACK") fun _ => pure 0
  throw e

/-- Runs work between `BEGIN` and `COMMIT` (or `ROLLBACK`, when the work asks for it). A
transaction still open when anything after `BEGIN` fails (the work, the `COMMIT`, the
`ROLLBACK` it asked for) is given up, so no connection goes back to the pool inside one. -/
def transaction {α : Type} (body : Session (Ending α)) : Session α := do
  let _ ← plain "BEGIN"
  let ending ← tryCatch body abandon
  match ending with
  | .commit a =>
    let _ ← tryCatch (plain "COMMIT") abandon
    pure a
  | .rollback a =>
    let _ ← tryCatch (plain "ROLLBACK") abandon
    pure a

/-- Runs work as one transaction that commits when the work succeeds. -/
def atomically {α : Type} (body : Session α) : Session α :=
  transaction (Ending.commit <$> body)

end Session

/-- Uses a pool: checks a connection out, does the work on the database as that
connection sees it, and gives the connection back. -/
def Pool.use {α : Type} (p : Pool) (work : Session α) : Except DriverError α × Pool :=
  match p.blocked, p.checkout with
  | some e, _ => (.error e, p)
  | none, none => (.error .poolTimedOut, p)
  | none, some (l, p) =>
    let (r, db) := (ExceptT.run work).run (p.db.withLink l)
    (r, { p with db, returning := p.returning ++ [db.link] })

/-- The value of a named column in a row: the last column of that name. -/
def Relation.get (r : Relation) (row : List SqlValue) (name : String) :
    Except DriverError SqlValue :=
  let found := (r.columns.zip row).foldl
    (fun (acc : Option SqlValue) (c, v) => if c.name == name then some v else acc) none
  match found with
  | some v => .ok v
  | none => .error (.missingColumn name)

/-- The value of a column in a row, as an integer. -/
def readInt (r : Relation) (row : List SqlValue) (column : String) : Except DriverError Int := do
  match ← r.get row column with
  | .int i => pure i
  | .null => throw (.decode column "unexpected null; try decoding as an `Option`")
  | v =>
    throw (.decode column ("mismatched types; Rust type `i64` is not compatible with SQL type `" ++
      v.typeName ++ "`"))

/-- The second byte a UTF-8 sequence may have after a lead byte, as an inclusive range,
with the length of the sequence; `none` for a byte that leads none. -/
def utf8Lead (b : UInt8) : Option (Nat × UInt8 × UInt8) :=
  if 0xC2 ≤ b && b ≤ 0xDF then some (2, 0x80, 0xBF)
  else if b == 0xE0 then some (3, 0xA0, 0xBF)
  else if 0xE1 ≤ b && b ≤ 0xEC then some (3, 0x80, 0xBF)
  else if b == 0xED then some (3, 0x80, 0x9F)
  else if 0xEE ≤ b && b ≤ 0xEF then some (3, 0x80, 0xBF)
  else if b == 0xF0 then some (4, 0x90, 0xBF)
  else if 0xF1 ≤ b && b ≤ 0xF3 then some (4, 0x80, 0xBF)
  else if b == 0xF4 then some (4, 0x80, 0x8F)
  else none

/-- Whether a byte continues a UTF-8 sequence. -/
def isContinuation (b : UInt8) : Bool := 0x80 ≤ b && b ≤ 0xBF

/-- The first fault of a byte string read strictly as UTF-8 (no surrogates, no overlong
forms, nothing above `U+10FFFF`), from offset `i`: where the well-formed prefix ends and
how many bytes the bad sequence has, `none` when the string ends inside a sequence. -/
def utf8Fault : List UInt8 → Nat → Option (Nat × Option Nat)
  | [], _ => none
  | b :: rest, i =>
    if b < 0x80 then utf8Fault rest (i + 1)
    else
      match utf8Lead b, rest with
      | none, _ => some (i, some 1)
      | some _, [] => some (i, none)
      | some (width, lo, hi), c :: rest2 =>
        if !(lo ≤ c && c ≤ hi) then some (i, some 1)
        else if width == 2 then utf8Fault rest2 (i + 2)
        else
          match rest2 with
          | [] => some (i, none)
          | d :: rest3 =>
            if !isContinuation d then some (i, some 2)
            else if width == 3 then utf8Fault rest3 (i + 3)
            else
              match rest3 with
              | [] => some (i, none)
              | e :: rest4 =>
                if !isContinuation e then some (i, some 3) else utf8Fault rest4 (i + 4)

/-- The client's text for the first fault of a byte string read as UTF-8. -/
def utf8FaultText : Nat × Option Nat → String
  | (i, some n) => "invalid utf-8 sequence of " ++ toString n ++ " bytes from index " ++ toString i
  | (i, none) => "incomplete utf-8 byte sequence from index " ++ toString i

/-- The value of a column in a row as a text, `none` for `NULL`; a value of another
class is refused with the name of the type `asked` for, and a text that is not UTF-8 is
refused with its first fault. -/
def textValue (r : Relation) (row : List SqlValue) (column asked : String) :
    Except DriverError (Option String) := do
  match ← r.get row column with
  | .text s =>
    let bytes := Bytes.ofText s
    match utf8Fault bytes 0 with
    | some fault => throw (.decode column (utf8FaultText fault))
    | none => pure (some ((String.fromUTF8? (ByteArray.mk bytes.toArray)).getD s))
  | .null => pure none
  | v =>
    throw (.decode column ("mismatched types; Rust type `" ++ asked ++ "` is not " ++
      "compatible with SQL type `" ++ v.typeName ++ "`"))

/-- The value of a column in a row, as a text, `none` for `NULL`. -/
def readOptText (r : Relation) (row : List SqlValue) (column : String) :
    Except DriverError (Option String) :=
  textValue r row column "core::option::Option<alloc::string::String>"

/-- The value of a column in a row, as a text. -/
def readText (r : Relation) (row : List SqlValue) (column : String) : Except DriverError String :=
  match textValue r row column "alloc::string::String" with
  | .ok (some s) => .ok s
  | .ok none => .error (.decode column "unexpected null; try decoding as an `Option`")
  | .error e => .error e

/-- Runs the statements of a text one after another, answering the sum of the change
counts after each (a statement that changes nothing reports the count left by the last
one that did). -/
def runScript (text : String) : Session Nat := fun db =>
  match db.runScript (Bytes.held text) with
  | (db', .ok n) => (.ok n, db')
  | (db', .error e) => (.error (.database e), db')

end Relational

end CrateState
