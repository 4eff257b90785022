import CrateState.Relational.Schema
import CrateState.Relational.FullText.Query

/-!
# Making a full-text table

`CREATE VIRTUAL TABLE name USING fts5(…)` takes its column names, each optionally followed
by `UNINDEXED` (kept, not searched), and options `key = value`:

* `tokenize`: `unicode61` (the default, with `remove_diacritics`, `tokenchars`,
  `separators`, `categories`), `ascii` (`tokenchars`, `separators`), `porter` (stemming the
  tokens of the tokenizer named after it, else `unicode61`) and `trigram`
  (`case_sensitive`, `remove_diacritics`);
* `content` names the table holding the text (`''` for none: only the index is kept), and
  `content_rowid` that table's row-id column;
* `columnsize`, `detail`, `prefix`, `contentless_delete` and `tokendata` tune the index.

An option name may be cut to any prefix. A column may not be named `rank` or `rowid`, twice,
or like the table: a table whose columns cannot be declared is not made.

The index lives in five tables named after the table: `_data` and `_idx` (the index),
`_content` (the text, unless elsewhere), `_docsize` (row sizes, unless `columnsize=0`) and
`_config`. Making them writes the index's empty header, a change of one row.
-/

namespace CrateState

namespace Relational

namespace FullText

/-- Whether a character opens a quoted word of an argument. -/
def isOpenQuote (c : Char) : Bool := c == '\'' || c == '"' || c == '`' || c == '['

/-- Reads a quoted word after its opening quote `q`: the text, a doubled closing quote
standing for one, and what follows the closing quote (nothing when there is none). -/
def readQuoted (close : Char) : List Char → List Char → String × List Char
  | [], acc => (String.ofList acc.reverse, [])
  | c :: rest, acc =>
    if c == close then
      match rest with
      | d :: more => if d == close then readQuoted close more (c :: acc) else (String.ofList acc.reverse, d :: more)
      | [] => (String.ofList acc.reverse, [])
    else readQuoted close rest (c :: acc)

/-- Reads a word of an argument: a quoted word (answering that it was quoted) or a run of
word characters; `none` when neither starts the text. -/
def gobbleWord (cs : List Char) : Option (String × Bool × List Char) :=
  match cs with
  | q :: rest =>
    if isOpenQuote q then
      let (w, after) := readQuoted (if q == '[' then ']' else q) rest []
      some (w, true, after)
    else
      let w := cs.takeWhile isWordChar
      if w.isEmpty then none else some (String.ofList w, false, cs.drop w.length)
  | [] => none

def skipSpace (cs : List Char) : List Char := cs.dropWhile Char.isWhitespace

/-- An argument read: its first word, whether that was quoted, whether an `=` follows
it, and the word after, if any. -/
structure ArgWords where
  /-- The first word. -/
  first : String
  /-- Whether the first word was quoted. -/
  quoted : Bool
  /-- Whether the argument is an option. -/
  isOption : Bool
  /-- The second word. -/
  second : Option String

/-- Reads an argument into its words; `none` when it does not read as one or two words
(or an option whose name is quoted). -/
def readArg (text : String) : Option ArgWords := do
  let (first, quoted, rest) ← gobbleWord text.toList
  let rest := skipSpace rest
  let (isOption, rest) ← match rest with
    | '=' :: more => if quoted then none else some (true, skipSpace more)
    | _ => some (false, rest)
  match rest with
  | [] => some { first, quoted, isOption, second := none }
  | _ =>
    let (second, _, after) ← gobbleWord rest
    if after.isEmpty then some { first, quoted, isOption, second := some second } else none

/-- Skips an SQL literal at the start of a tokenizer argument: a quoted string (a doubled
quote standing for one); `none` when it is not closed. -/
def skipLiteral : List Char → Option (List Char × List Char)
  | '\'' :: rest =>
    let rec go : List Char → List Char → Option (List Char × List Char)
      | [], _ => none
      | '\'' :: '\'' :: more, acc => go more ('\'' :: '\'' :: acc)
      | '\'' :: more, acc => some (acc.reverse, more)
      | c :: more, acc => go more (c :: acc)
    (go rest []).map fun (body, after) => ('\'' :: body ++ ['\''], after)
  | _ => none

/-- Splits the value of `tokenize` into words: quoted literals (unquoted) and runs of word
characters, separated by white space; `none` when something else stands in it. -/
def tokenizeWords : Nat → List Char → Option (List String)
  | 0, _ => some []
  | fuel + 1, cs =>
    match skipSpace cs with
    | [] => some []
    | c :: rest =>
      if c == '\'' then do
        let (lit, after) ← skipLiteral (c :: rest)
        let more ← tokenizeWords fuel after
        some (dequote (String.ofList lit) :: more)
      else
        let w := (c :: rest).takeWhile isWordChar
        if w.isEmpty then none
        else do
          let more ← tokenizeWords fuel ((c :: rest).drop w.length)
          some (String.ofList w :: more)

/-- Reads the `tokenchars` and `separators` options of `unicode61` into its ASCII token
characters and exceptions, in the order given. -/
def unicodeClasses (opts : List (String × String)) : List Nat × List Nat :=
  opts.foldl (fun (acc : List Nat × List Nat) (key, value) =>
    let (ascii, exc) := acc
    let isTok := key.toLower == "tokenchars"
    if key.toLower != "tokenchars" && key.toLower != "separators" then acc
    else
      value.toList.foldl (fun (acc : List Nat × List Nat) ch =>
        let (ascii, exc) := acc
        let c := ch.toNat
        if c < 128 then
          (if isTok then (if ascii.contains c then ascii else ascii ++ [c]) else ascii.filter (· != c), exc)
        else if isAlnumCode c != isTok && !isDiacritic c then (ascii, exc ++ [c])
        else (ascii, exc)) (ascii, exc)) (asciiAlnum, [])

/-- The option pairs of a tokenizer's arguments; `none` when they do not pair up. -/
def optionPairs : List String → Option (List (String × String))
  | [] => some []
  | [_] => none
  | k :: v :: rest => (optionPairs rest).map ((k, v) :: ·)

/-- Builds a tokenizer from its name and arguments: `none` for a name that is no
tokenizer, `some none` for arguments it refuses. -/
def buildTokenizer : Nat → String → List String → Option (Option Tokenizer)
  | 0, _, _ => some none
  | fuel + 1, name, args =>
    match name.toLower with
    | "unicode61" =>
      some do
        let opts ← optionPairs args
        if !opts.all fun (k, _) =>
            ["remove_diacritics", "tokenchars", "separators", "categories"].contains k.toLower then none
        let rd ← opts.foldlM (fun (rd : Nat) (k, v) =>
          if k.toLower == "remove_diacritics" then
            if v == "0" then some 0 else if v == "1" then some 1 else if v == "2" then some 2 else none
          else some rd) 1
        let (ascii, exc) := unicodeClasses opts
        pure (.unicode61 ascii exc rd)
    | "ascii" =>
      some do
        let opts ← optionPairs args
        if !opts.all fun (k, _) => ["tokenchars", "separators"].contains k.toLower then none
        let ascii := opts.foldl (fun (ascii : List Nat) (k, v) =>
          let isTok := k.toLower == "tokenchars"
          v.toList.foldl (fun (ascii : List Nat) ch =>
            let c := ch.toNat
            if c ≥ 128 then ascii
            else if isTok then (if ascii.contains c then ascii else ascii ++ [c])
            else ascii.filter (· != c)) ascii) asciiAlnum
        pure (.ascii ascii)
    | "porter" =>
      let (base, rest) := match args with
        | b :: more => (b, more)
        | [] => ("unicode61", [])
      match buildTokenizer fuel base rest with
      | some (some inner) => some (some (.porter inner))
      | _ => some none
    | "trigram" =>
      some do
        let opts ← optionPairs args
        let (fold, strip) ← opts.foldlM (fun (acc : Bool × Bool) (k, v) =>
          if k.toLower == "case_sensitive" then
            if v == "0" then some (true, acc.2) else if v == "1" then some (false, acc.2) else none
          else if k.toLower == "remove_diacritics" then
            if v == "0" then some (acc.1, false) else if v == "1" || v == "2" then some (acc.1, true) else none
          else none) (true, false)
        if strip && !fold then none
        pure (.trigram fold strip)
    | _ => none

/-- Whether an option name given is a beginning of the full name, without regard to
case. -/
def abbreviates (given full : String) : Bool := full.toLower.startsWith given.toLower

/-- The options gathered from a table's arguments. -/
structure Options where
  /-- The words of `tokenize`, if given. -/
  tokenize : Option (List String) := none
  /-- The `content` option, if given. -/
  content : Option String := none
  /-- The `content_rowid` option, if given. -/
  contentRowid : Option String := none
  /-- `columnsize`. -/
  sized : Bool := true
  /-- `contentless_delete`. -/
  deletable : Bool := false
  /-- The column names, each with whether the index keeps it. -/
  columns : List (String × Bool) := []
  /-- The number of prefix lengths given. -/
  prefixes : Nat := 0
  /-- `detail`. -/
  detail : FullTextDetail := .full

/-- Whether a text is one digit among those given. -/
def isFlag (v : String) (digits : List Char) : Bool :=
  match v.toList with
  | [c] => digits.contains c
  | _ => false

/-- Reads the value of `prefix` on top of the `count` lengths given before it: numbers
from 1 to 999 (a run of digits is read up to the first value of 1000 or more), separated
by blanks and, after the first, by a comma, at most 31 in all; the count after it. -/
def readPrefixes : Nat → List Char → Bool → Nat → Except SqlError Nat
  | 0, _, _, count => .ok count
  | fuel + 1, cs, first, count =>
    let cs := cs.dropWhile (· == ' ')
    let rest? : Option (List Char) := match cs with
      | ',' :: more => if first then some cs else some (more.dropWhile (· == ' '))
      | [] => none
      | _ => some cs
    match rest? with
    | none => .ok count
    | some cs =>
      if !(cs.headD ' ').isDigit then .error (.general "malformed prefix=... directive")
      else if count == 31 then .error (.general "too many prefix indexes (max 31)")
      else
        let (n, used) := (cs.takeWhile Char.isDigit).foldl (fun (acc : Nat × Nat) c =>
          if acc.1 < 1000 then (acc.1 * 10 + (c.toNat - 48), acc.2 + 1) else acc) (0, 0)
        if n == 0 || n ≥ 1000 then .error (.general "prefix length out of range (max 999)")
        else readPrefixes fuel (cs.drop used) false (count + 1)

/-- Applies an option `key = value`. -/
def Options.apply (o : Options) (key value : String) : Except SqlError Options := do
  if abbreviates key "prefix" then
    let prefixes ← readPrefixes (value.length + 1) value.toList true o.prefixes
    pure { o with prefixes }
  else if abbreviates key "tokenize" then
    if o.tokenize.isSome then throw (.general "multiple tokenize=... directives")
    match tokenizeWords (value.length + 1) value.toList with
    | some ws => pure { o with tokenize := some ws }
    | none => throw (.general "parse error in tokenize directive")
  else if abbreviates key "content" then
    if o.content.isSome then throw (.general "multiple content=... directives")
    pure { o with content := some value }
  else if abbreviates key "contentless_delete" then
    if !isFlag value ['0', '1'] then throw (.general "malformed contentless_delete=... directive")
    pure { o with deletable := value == "1" }
  else if abbreviates key "content_rowid" then
    if o.contentRowid.isSome then throw (.general "multiple content_rowid=... directives")
    pure { o with contentRowid := some value }
  else if abbreviates key "columnsize" then
    if !isFlag value ['0', '1'] then throw (.general "malformed columnsize=... directive")
    pure { o with sized := value == "1" }
  else if abbreviates key "detail" then
    match ["none", "full", "columns"].filter (abbreviates value ·) with
    | ["none"] => pure { o with detail := .rowsOnly }
    | ["full"] => pure { o with detail := .full }
    | ["columns"] => pure { o with detail := .column }
    | _ => throw (.general "malformed detail=... directive")
  else if abbreviates key "tokendata" then
    if !isFlag value ['0', '1'] then throw (.general "malformed tokendata=... directive")
    pure o
  else throw (.general ("unrecognized option: \"" ++ key ++ "\""))

/-- The columns and shape of a full-text table from its module arguments. -/
def fullTextLayout (name : String) (args : List ModuleArg) : Except SqlError (List Column × FullTextShape) := do
  let o ← args.foldlM (fun (o : Options) a => do
    match readArg a.text with
    | none => throw (.general ("parse error in \"" ++ a.text ++ "\""))
    | some w =>
      if w.isOption then o.apply w.first (w.second.getD "")
      else
        if w.first.toLower == "rank" || w.first.toLower == "rowid" then
          throw (.general ("reserved fts5 column name: " ++ w.first))
        let kept ← match w.second with
          | none => pure true
          | some opt =>
            if opt.toLower == "unindexed" then pure false
            else throw (.general ("unrecognized column option: " ++ opt))
        pure { o with columns := o.columns ++ [(w.first, kept)] }) {}
  let content : FullTextContent := match o.content with
    | none => .kept
    | some "" => .dropped
    | some t => .external t (o.contentRowid.getD "rowid")
  if o.deletable && content != .dropped then
    throw (.general "contentless_delete=1 requires a contentless table")
  if o.deletable && !o.sized then
    throw (.general "contentless_delete=1 is incompatible with columnsize=0")
  let tokenizer ← match o.tokenize with
    | none | some [] => pure Tokenizer.standard
    | some (tname :: targs) =>
      match buildTokenizer 8 tname targs with
      | none => throw (.general ("no such tokenizer: " ++ tname))
      | some none => throw (.general "error in tokenizer constructor")
      | some (some t) => pure t
  let names := o.columns.map (·.1)
  if names.isEmpty || (firstRepeatedName (name :: names)).isSome then
    throw (.general ("vtable constructor failed: " ++ name))
  let columns := names.map fun n => ({ name := n } : Column)
  pure (columns, { tokenizer, indexed := o.columns.map (·.2), content, deletable := o.deletable,
                   sized := o.sized, detail := o.detail })
where
  /-- The first name written twice, without regard to case. -/
  firstRepeatedName : List String → Option String
    | [] => none
    | n :: rest => if rest.any (sameName · n) then some n else firstRepeatedName rest

/-- The suffixes of the tables that keep a full-text table's index. -/
def fullTextShadowSuffixes : List String := ["_data", "_idx", "_content", "_docsize", "_config"]

/-- The tables that keep a full-text table's index, in the order they are made, without
their pages: the index's pages (holding its empty header), its terms, the text (when the
table keeps it), the row sizes (unless not recorded) and the settings (the version). -/
def fullTextShadows (t : Table) (s : FullTextShape) : List Table :=
  let quoted (sfx : String) : String := "'" ++ (t.name ++ sfx).replace "'" "''" ++ "'"
  let key (n : String) : Column :=
    { name := n, declared := "INTEGER", affinity := .integer, primaryKey := true }
  let part (n : String) : Column := { name := n, primaryKey := true, notNull := some .abort }
  let contentCols := (List.range t.columns.length).map fun k => "c" ++ toString k
  let data : Table :=
    { name := t.name ++ "_data", store := t.store, rootPage := 0, rowidColumn := some 0,
      columns := [key "id", { name := "block", declared := "BLOB", affinity := .blob }],
      sql := "CREATE TABLE " ++ quoted "_data" ++ "(id INTEGER PRIMARY KEY, block BLOB)",
      rows := [⟨1, [.int 1, .blob (Blob.ofList [])]⟩, ⟨10, [.int 10, .blob (Blob.ofList (List.replicate 7 0))]⟩] }
  let idx : Table :=
    { name := t.name ++ "_idx", store := t.store, rootPage := 0, withoutRowid := true,
      columns := [part "segid", part "term", { name := "pgno" }],
      sql := "CREATE TABLE " ++ quoted "_idx" ++ "(segid, term, pgno, PRIMARY KEY(segid, term)) WITHOUT ROWID" }
  let content : Table :=
    { name := t.name ++ "_content", store := t.store, rootPage := 0, rowidColumn := some 0,
      columns := key "id" :: contentCols.map fun n => ({ name := n } : Column),
      sql := "CREATE TABLE " ++ quoted "_content" ++ "(id INTEGER PRIMARY KEY" ++
        String.join (contentCols.map (", " ++ ·)) ++ ")" }
  let docsize : Table :=
    { name := t.name ++ "_docsize", store := t.store, rootPage := 0, rowidColumn := some 0,
      columns := [key "id", { name := "sz", declared := "BLOB", affinity := .blob }],
      sql := "CREATE TABLE " ++ quoted "_docsize" ++ "(id INTEGER PRIMARY KEY, sz BLOB)" }
  let config : Table :=
    { name := t.name ++ "_config", store := t.store, rootPage := 0, withoutRowid := true,
      columns := [part "k", { name := "v" }],
      sql := "CREATE TABLE " ++ quoted "_config" ++ "(k PRIMARY KEY, v) WITHOUT ROWID",
      rows := [⟨1, [.text "version", .int 4]⟩] }
  [data, idx] ++ (if s.content == .kept then [content] else []) ++
    (if s.sized then [docsize] else []) ++ [config]

end FullText

end Relational

end CrateState
