import CrateState.Relational.Printf
import CrateState.Relational.Error
import CrateState.Relational.Document.Call
import CrateState.Relational.Calendar

/-!
# Built-in functions of the database

The functions a query may call, by name (any case) and accepted argument counts:
`arityAccepts` says whether a call is well formed, `applyScalar` computes a plain function
from its arguments, and `Aggregate.finish` an aggregate from its arguments for every row of
a group. Functions needing more than their arguments (`changes()`, `last_insert_rowid()`,
the choices of `coalesce` and `iif`) are the evaluator's, listed here for their arities.

`likeMatch` is `LIKE`: `%` matches any run, `_` one character, letters compare without
ASCII case, and the escape character makes the next literal. `globMatch` is `GLOB`: `*`,
`?` and bracketed classes (`[a-z]`, `[^…]`), case kept.
-/

namespace CrateState

namespace Relational

/-! ## Patterns -/

/-- The special characters of a pattern language, as code points (0 for none). -/
structure PatternInfo where
  /-- Matches any run of characters: `%` or `*`. -/
  matchAll : Nat
  /-- Matches one character: `_` or `?`. -/
  matchOne : Nat
  /-- Opens a character class: `[` for `GLOB`, none for `LIKE`. -/
  matchSet : Nat
  /-- Whether ASCII letters match without regard to case. -/
  noCase : Bool

/-- The pattern language of `LIKE`. -/
def likeInfo : PatternInfo := ⟨37, 95, 0, true⟩

/-- The pattern language of `GLOB`. -/
def globInfo : PatternInfo := ⟨42, 63, 91, false⟩

/-- The outcome of matching a pattern: a match, no match, or no match that no later
start of a preceding `*` can turn into one (which stops the search of that `*`). -/
inductive PatternResult where
  | matched
  | noMatch
  | noWildcardMatch
  deriving DecidableEq

/-- An ASCII capital folded to lower case. -/
def lowerCode (c : Nat) : Nat := if 65 ≤ c && c ≤ 90 then c + 32 else c

/-- An ASCII small letter raised to upper case. -/
def upperCode (c : Nat) : Nat := if 97 ≤ c && c ≤ 122 then c - 32 else c

/-- After a `*`: skips the further `*` and `?` of the pattern, each `?` taking one
character of the text. Answers the next pattern character (0 at the end of the pattern)
with the rest of the pattern and of the text, or `none` when a `?` finds no character. -/
def skipWildcards (info : PatternInfo) : List Nat → List Nat → Option (Nat × List Nat × List Nat)
  | [], t => some (0, [], t)
  | c :: ps, t =>
    if c = info.matchAll then skipWildcards info ps t
    else if c = info.matchOne && info.matchOne ≠ 0 then
      match t with
      | _ :: ts => skipWildcards info ps ts
      | [] => none
    else some (c, ps, t)

/-- Reads a character class after its `[`, for the text character `c`: whether the class
admits `c`, and the pattern after the closing `]`; `none` when the class is not closed.
A `^` first inverts the class, a `]` first is a member, and `a-b` is a range unless the
`-` is last or follows a range. -/
def readClass (c : Nat) (p : List Nat) : Option (Bool × List Nat) :=
  let (invert, p) := match p with
    | 94 :: r => (true, r)
    | r => (false, r)
  let (seen, p) := match p with
    | 93 :: r => (c == 93, r)
    | r => (false, r)
  let rec scan : List Nat → Bool → Nat → Option (Bool × List Nat)
    | [], _, _ => none
    | 93 :: r, seen, _ => some (seen != invert, r)
    | 45 :: hi :: r', seen, prior =>
      if hi ≠ 93 && prior > 0 then scan r' (seen || (prior ≤ c && c ≤ hi)) 0
      else scan (hi :: r') (seen || c == 45) 45
    | d :: r, seen, _ => scan r (seen || c == d) d
  termination_by xs => xs.length
  scan p seen 0

/-- The rest of a text after each place where `hit` holds, in order. -/
def afterEach (hit : Nat → Bool) : List Nat → List (List Nat)
  | [] => []
  | x :: ts => if hit x then ts :: afterEach hit ts else afterEach hit ts

/-- The nonempty suffixes of a text, longest first. -/
def suffixes : List Nat → List (List Nat)
  | [] => []
  | x :: ts => (x :: ts) :: suffixes ts

/-- Matches a pattern against a text, both as code points before their first NUL, as the
database does; `other` is the escape character of `LIKE` or the `[` of `GLOB`.

* A `*` skips the further `*` and `?` after it (each `?` taking a character), then tries the
  rest of the pattern after each place of the text holding the next pattern character
  (either case of an ASCII letter for `LIKE`), or, before a class, at each place; the first
  result other than `noMatch` is the answer, `noWildcardMatch` when none.
* The `LIKE` escape makes the next character ordinary, `_` included.
* A class (`[…]`) admits one text character (`readClass`).
* Any other character matches an equal one (an ASCII letter of the other case for `LIKE`),
  and `?`/`_` any character.

`fuel` bounds the calls; each takes a pattern character, so the pattern's length is enough. -/
def patternCompare (info : PatternInfo) (other : Nat) : Nat → List Nat → List Nat → PatternResult
  | 0, _, _ => .noMatch
  | _ + 1, [], t => if t.isEmpty then .matched else .noMatch
  | fuel + 1, c :: ps, t =>
    let firstOf (q : List Nat) (starts : List (List Nat)) : PatternResult :=
      (starts.findSome? fun ts =>
        match patternCompare info other fuel q ts with
        | .noMatch => none
        | r => some r).getD .noWildcardMatch
    let step (c : Nat) (escaped : Bool) (ps : List Nat) : PatternResult :=
      let (c2, ts) := match t with
        | x :: r => (x, r)
        | [] => (0, [])
      if c = c2 then patternCompare info other fuel ps ts
      else if info.noCase && lowerCode c = lowerCode c2 && c < 128 && c2 < 128 then
        patternCompare info other fuel ps ts
      else if c = info.matchOne && !escaped && c2 ≠ 0 then patternCompare info other fuel ps ts
      else .noMatch
    let search (c : Nat) (ps : List Nat) (t : List Nat) : PatternResult :=
      firstOf ps (afterEach (fun x =>
        if c < 128 && info.noCase then x = upperCode c || x = lowerCode c else x = c) t)
    if c = info.matchAll then
      match skipWildcards info ps t with
      | none => .noWildcardMatch
      | some (c, ps, t) =>
        if c = 0 then .matched
        else if c = other then
          if info.matchSet = 0 then
            match ps with
            | [] => .noWildcardMatch
            | lit :: ps' => search lit ps' t
          else firstOf (c :: ps) (suffixes t)
        else search c ps t
    else if c = other && info.matchSet = 0 then
      match ps with
      | [] => .noMatch
      | lit :: ps' => step lit true ps'
    else if c = other then
      match t with
      | [] => .noMatch
      | x :: ts =>
        match readClass x ps with
        | some (true, rest) => patternCompare info other fuel rest ts
        | _ => .noMatch
    else step c false ps

/-- Patterns longer than this many bytes are refused. -/
def likePatternLimit : Nat := 50000

/-- `LIKE`, `GLOB` and the functions `like(p, x[, e])` and `glob(p, x)`: whether the text
`x` matches the pattern `p`. A pattern longer than the limit is an error, then an escape
that is not one character; `NULL` if any operand is `NULL`. An escape equal to a
wildcard makes that wildcard an ordinary character. -/
def matchPattern (glob : Bool) (p x : SqlValue) (esc : Option SqlValue) :
    Except SqlError SqlValue := do
  let info := if glob then globInfo else likeInfo
  if p.bytes.length > likePatternLimit then throw (.general "LIKE or GLOB pattern too complex")
  let (info, other) ← match esc with
    | none => pure (info, info.matchSet)
    | some .null => pure (info, info.matchSet)
    | some e =>
      let bs := e.bytes
      if (Bytes.unitsOf bs).length ≠ 1 then
        throw (.general "ESCAPE expression must be a single character")
      let code := ((Bytes.readCode bs).map (·.1)).getD 0
      let info := if code = info.matchAll then { info with matchAll := 0 } else info
      let info := if code = info.matchOne then { info with matchOne := 0 } else info
      pure (info, code)
  let escNull := match esc with
    | some .null => true
    | _ => false
  if p.isNull || x.isNull || escNull then return .null
  let pc := Bytes.codesOf p.bytes
  let r := patternCompare info other (pc.length + 1) pc (Bytes.codesOf x.bytes)
  return truthValue (some (r = .matched))

/-! ## Text helpers -/

/-- The uppercase hexadecimal digits of bytes. -/
def hexText (bytes : List UInt8) : String :=
  let digit (n : Nat) : Char := "0123456789ABCDEF".toList.getD n '0'
  String.ofList (bytes.flatMap fun b => [digit (b.toNat / 16), digit (b.toNat % 16)])

/-- The value of a hexadecimal digit byte. -/
def hexDigitValue (b : Nat) : Option Nat :=
  if 48 ≤ b && b ≤ 57 then some (b - 48)
  else if 97 ≤ b && b ≤ 102 then some (b - 87)
  else if 65 ≤ b && b ≤ 70 then some (b - 55)
  else none

/-- `unhex(x, skip)` on the bytes of `x` before its first NUL: pairs of hexadecimal digits
are bytes; between pairs, a character that is not a hex digit is skipped when its code
point is among `skip`'s, and otherwise the answer is `none` (as it is for a pair whose
second character is not a hex digit). `fuel` bounds the steps: the length is enough. -/
def unhexBytes (skip : List Nat) : Nat → List UInt8 → Option (List UInt8)
  | 0, _ => some []
  | _, [] => some []
  | fuel + 1, b :: rest =>
    match hexDigitValue b.toNat with
    | some x =>
      match rest with
      | d :: rest' =>
        match hexDigitValue d.toNat with
        | some y => (unhexBytes skip fuel rest').map fun bs => (x * 16 + y).toUInt8 :: bs
        | none => none
      | [] => none
    | none =>
      match Bytes.readCode (b :: rest) with
      | some (c, after) => if skip.contains c then unhexBytes skip fuel after else none
      | none => some []

/-- Bytes with every occurrence of `pat` (not empty) replaced by `rep`, scanning from the
left and resuming after each replacement. -/
def replaceAll (pat rep : List UInt8) : List UInt8 → List UInt8
  | [] => []
  | c :: cs =>
    if pat.isPrefixOf (c :: cs) && !pat.isEmpty then
      rep ++ replaceAll pat rep ((c :: cs).drop pat.length)
    else c :: replaceAll pat rep cs
termination_by cs => cs.length
decreasing_by
  all_goals simp_wf
  all_goals
    cases pat with
    | nil => simp_all
    | cons _ _ => rw [List.length_cons]; omega

/-- `instr(hay, needle)` on bytes: the place of the first occurrence of `needle`, counted
in characters of a text (a step moves one byte and then past the bytes `0x80`–`0xBF`
after it) or in bytes of a blob; 1 for an empty needle, 0 when there is none. `fuel`
bounds the steps: the length of the haystack is enough. -/
def instrBytes (isText : Bool) (needle : List UInt8) (fuel : Nat) (hay : List UInt8) (k : Nat) :
    Nat :=
  go needle.length fuel hay hay.length k
where
  /-- The search with the needle's length `need` and the number of bytes `left` in the
  haystack carried along. -/
  go (need : Nat) : Nat → List UInt8 → Nat → Nat → Nat
    | 0, _, _, _ => 0
    | fuel + 1, hay, left, k =>
      if need > left then 0
      else if needle.isPrefixOf hay then k
      else
        let rest := hay.drop 1
        let skipped := if isText then (rest.takeWhile Bytes.isCont).length else 0
        go need fuel (rest.drop skipped) (left - 1 - skipped) (k + 1)

/-- Trims characters of `set` (byte strings) from the left and/or the right of bytes:
while some member of the set, tried in order, starts (or ends) the bytes, it is removed.
`fuel` bounds the steps: the length is enough. -/
def trimBytes (set : List (List UInt8)) : Nat → Bool → Bool → List UInt8 → List UInt8
  | 0, _, _, bs => bs
  | fuel + 1, left, right, bs =>
    if bs.isEmpty then bs
    else if left then
      match set.find? (·.isPrefixOf bs) with
      | some m => trimBytes set fuel left right (bs.drop m.length)
      | none => trimBytes set fuel false right bs
    else if right then
      match set.find? (fun m => m.reverse.isPrefixOf bs.reverse) with
      | some m => trimBytes set fuel false right (bs.take (bs.length - m.length))
      | none => bs
    else bs

/-- `quote(v)`: the literal that reads back as `v`. -/
def quoteValue : SqlValue → String
  | .null => "NULL"
  | .int i => toString i
  | .real f =>
    let short := Printf.format "%!0.15g" [.real f]
    let back := match readNumeral short.toList with
      | some (n, _) => n.toFloat
      | none => 0
    if back == f then short else Printf.format "%!0.20e" [.real f]
  | .text s => quoteText (String.ofList (s.toList.takeWhile (· ≠ '\x00')))
  | .blob b => "X'" ++ hexText b.toList ++ "'"

/-- The low 32 bits of an integer as a signed integer, as the C `int` of a value. -/
def toInt32 (i : Int) : Int :=
  let n := (i % (Nat.pow 2 32 : Int)).toNat
  if n ≥ Nat.pow 2 31 then (n : Int) - (Nat.pow 2 32 : Int) else n

/-- The part `substr(s, start, length)` takes of a sequence of `total` items, as the
position of its first item (from 0) and the number of items: a negative start counts from
the end, a negative length takes that many before the start. -/
def substrRange (total : Nat) (start : Int) (len : Option Int) : Nat × Nat :=
  let total : Int := total
  let (p2, negP2) := match len with
    | some l => if l < 0 then (-l, true) else (l, false)
    | none => (1000000000, false)
  let (p1, p2) :=
    if start < 0 then
      let p1 := start + total
      if p1 < 0 then (0, max 0 (p2 + p1)) else (p1, p2)
    else if start > 0 then (start - 1, p2)
    else if p2 > 0 then (0, p2 - 1)
    else (0, p2)
  let (p1, p2) :=
    if negP2 then
      let p1' := p1 - p2
      if p1' < 0 then (0, p2 + p1') else (p1', p2)
    else (p1, p2)
  (p1.toNat, p2.toNat)

/-- `substr(s, start, length)` on a list (characters or bytes): a negative start counts
from the end, a negative length takes that many before the start. -/
def substrList {α : Type} (xs : List α) (start : Int) (len : Option Int) : List α :=
  let (p1, p2) := substrRange xs.length start len
  (xs.drop p1).take p2

/-- `round(x, digits)`: halves away from zero, through the text of the number for a
positive number of digits. -/
def roundValue (x : Float) (digits : Int) : Float :=
  let n := max 0 (min 30 digits)
  if x < -4503599627370496.0 || x > 4503599627370496.0 then x
  else if n = 0 then floatOfInt (floatToInt (x + (if x < 0 then -0.5 else 0.5)))
  else
    match readNumeral (Printf.format "%!.*f" [.int n, .real x]).toList with
    | some (num, _) => num.toFloat
    | none => x

/-- The text `char(…)` builds: each argument's integer as a code point, written with the
UTF-8 bit patterns; one outside `0 … 0x10FFFF` is U+FFFD. -/
def charsOf (args : List SqlValue) : String :=
  Bytes.toText (args.flatMap fun v =>
    let i := v.toInt
    Bytes.encodeCode (if i < 0 || i > 0x10ffff then 0xfffd else i.toNat))

/-- The sound code of an ASCII letter (either case); 0 for anything else. -/
def soundCode (b : Nat) : Nat :=
  match Char.ofNat (if 97 ≤ b && b ≤ 122 then b - 32 else b) with
  | 'B' | 'F' | 'P' | 'V' => 1
  | 'C' | 'G' | 'J' | 'K' | 'Q' | 'S' | 'X' | 'Z' => 2
  | 'D' | 'T' => 3
  | 'L' => 4
  | 'M' | 'N' => 5
  | 'R' => 6
  | _ => 0

/-- `soundex(s)` on the bytes of a text before its first NUL: the first ASCII letter in
upper case, then the codes of the bytes from that letter on (each byte read by its low
seven bits), a code written when it differs from the previous byte's (a byte without a
code resets that), up to three digits and padded with zeros; `?000` without a letter. -/
def soundex (bs : List UInt8) : String :=
  let isLetter (b : UInt8) : Bool :=
    (65 ≤ b.toNat && b.toNat ≤ 90) || (97 ≤ b.toNat && b.toNat ≤ 122)
  match (Bytes.beforeNul bs).dropWhile (!isLetter ·) with
  | [] => "?000"
  | first :: rest =>
    let step (acc : List Char × Nat) (b : UInt8) : List Char × Nat :=
      let (out, prev) := acc
      if out.length ≥ 4 then acc
      else
        let k := soundCode (b.toNat % 128)
        if k = 0 then (out, 0)
        else if k ≠ prev then (out ++ [Char.ofNat (k + 48)], k)
        else (out, prev)
    let upper := if 97 ≤ first.toNat then first.toNat - 32 else first.toNat
    let (out, _) := (first :: rest).foldl step ([Char.ofNat upper], soundCode first.toNat)
    String.ofList (out ++ List.replicate (4 - out.length) '0')

/-! ## Arities -/

/-- The numbers of arguments a built-in function accepts: `none` for an unknown name. -/
def arityAccepts (name : String) (n : Nat) : Option Bool :=
  match name.toLower with
  | "abs" | "hex" | "length" | "octet_length" | "lower" | "upper" | "quote" | "typeof"
  | "unicode" | "zeroblob" | "randomblob" | "likely" | "unlikely" | "sign" | "soundex"
  | "total" | "avg" | "sum" => some (n = 1)
  | "changes" | "total_changes" | "last_insert_rowid" | "random" | "sqlite_version"
  | "sqlite_source_id" => some (n = 0)
  | "sqlite_compileoption_used" | "sqlite_compileoption_get" => some (n = 1)
  | "load_extension" => some (n = 1 || n = 2)
  | "char" | "printf" | "format" | "bm25" | "highlight" | "snippet" => some true
  | "offsets" | "optimize" | "fts5" => some (n = 1)
  | "matchinfo" => some (n = 1 || n = 2)
  | "fts5_source_id" => some (n = 0)
  | "coalesce" | "concat_ws" => some (n ≥ 2)
  | "concat" => some (n ≥ 1)
  | "min" | "max" => some (n ≥ 1)
  | "ifnull" | "nullif" | "instr" | "glob" | "likelihood" | "string_agg" => some (n = 2)
  | "iif" | "replace" => some (n = 3)
  | "ltrim" | "rtrim" | "trim" | "round" | "unhex" | "group_concat" => some (n = 1 || n = 2)
  | "substr" | "substring" => some (n = 2 || n = 3)
  | "like" => some (n = 2 || n = 3)
  | "count" => some (n ≤ 1)
  | "row_number" | "rank" | "dense_rank" | "percent_rank" | "cume_dist" => some (n = 0)
  | "ntile" | "first_value" | "last_value" => some (n = 1)
  | "lag" | "lead" => some (1 ≤ n && n ≤ 3)
  | "nth_value" => some (n = 2)
  | other =>
    match calendarArity other n with
    | some ok => some ok
    | none => Document.jsonArity other n

/-- Whether a function can only be called over a window. -/
def isWindowOnly (name : String) : Bool :=
  ["row_number", "rank", "dense_rank", "percent_rank", "cume_dist", "ntile", "lag", "lead",
   "first_value", "last_value", "nth_value"].contains name.toLower

/-! ## Aggregates -/

/-- An aggregate function. -/
inductive Aggregate where
  /-- `count(*)` -/
  | countAll
  /-- `count(x)` -/
  | count
  /-- `sum(x)` -/
  | sum
  /-- `total(x)` -/
  | total
  /-- `avg(x)` -/
  | avg
  /-- `min(x)` -/
  | min
  /-- `max(x)` -/
  | max
  /-- `group_concat(x[, sep])` and `string_agg(x, sep)` -/
  | groupConcat
  /-- `json_group_array(x)`, `json_group_object(label, value)` and their binary variants,
  by name -/
  | json (name : String)
  deriving DecidableEq, Repr

/-- The aggregate a call names, given its number of arguments and whether it was written
`f(*)`; `min` and `max` of more than one argument are plain functions. -/
def Aggregate.ofCall (name : String) (n : Nat) (star : Bool) : Option Aggregate :=
  match name.toLower with
  | "count" => some (if star || n = 0 then .countAll else .count)
  | "sum" => some .sum
  | "total" => some .total
  | "avg" => some .avg
  | "min" => if n = 1 then some .min else none
  | "max" => if n = 1 then some .max else none
  | "group_concat" | "string_agg" => some .groupConcat
  | other => if Document.isJsonAggregate other then some (.json other) else none

/-- A running sum as the database keeps it: exactly in integers while it can, else as a
compensated double sum (its value and its error term). -/
structure Sum where
  /-- How many values were added. -/
  count : Nat := 0
  /-- The exact integer sum, while no double was added. -/
  whole : Int := 0
  /-- Whether a double was added (or the integers overflowed). -/
  approx : Bool := false
  /-- Whether the integers overflowed and no double came after. -/
  overflow : Bool := false
  /-- The compensated sum. -/
  value : Float := 0
  /-- The compensation. -/
  error : Float := 0

namespace Sum

/-- Adds a double with compensation. -/
def addFloat (s : Sum) (r : Float) : Sum :=
  let t := s.value + r
  let err := if s.value.abs > r.abs then s.error + ((s.value - t) + r)
    else s.error + ((r - t) + s.value)
  { s with value := t, error := err }

/-- Adds an integer with compensation, splitting a large one in two. -/
def addInt (s : Sum) (i : Int) : Sum :=
  if i ≤ -4503599627370496 || i ≥ 4503599627370496 then
    let small := i.tmod 16384
    (s.addFloat (floatOfInt (i - small))).addFloat (floatOfInt small)
  else s.addFloat (floatOfInt i)

/-- Starts the compensated sum from the integers added so far. -/
def start (s : Sum) : Sum :=
  let i := s.whole
  if i ≤ -4503599627370496 || i ≥ 4503599627370496 then
    let small := i.tmod 16384
    { s with approx := true, value := floatOfInt (i - small), error := floatOfInt small }
  else { s with approx := true, value := floatOfInt i, error := 0 }

/-- Adds a value: `NULL` is skipped, a text is read as a number when it spells one and
counts as a double otherwise. -/
def add (s : Sum) (v : SqlValue) : Sum :=
  let v := match v with
    | .text _ | .blob _ => v.asNumber false
    | v => v
  match v with
  | .null => s
  | .int i =>
    let s := { s with count := s.count + 1 }
    if s.approx then s.addInt i
    else if fitsInt (s.whole + i) then { s with whole := s.whole + i }
    else { (s.start.addInt i) with overflow := true }
  | v =>
    let s := { s with count := s.count + 1 }
    let s := if s.approx then { s with overflow := false } else s.start
    s.addFloat v.toFloat

/-- The double of the sum: the compensated value when the error term is finite. -/
def toFloat (s : Sum) : Float :=
  if s.approx then
    if s.error.isInf || s.error.isNaN then s.value else s.value + s.error
  else floatOfInt s.whole

end Sum

/-- Whether a value equals one of a list under a collation. -/
def memberValue (coll : Collation) (v : SqlValue) (vs : List SqlValue) : Bool :=
  vs.any fun w => SqlValue.compareWith coll v w == .eq

/-- The distinct values of a list under a collation, first occurrences kept. -/
def distinctValues (coll : Collation) (vs : List SqlValue) : List SqlValue :=
  vs.foldl (fun acc v => if memberValue coll v acc then acc else acc ++ [v]) []

/-- The best value of a list under a collation (`max` when `greatest`), `NULL`s skipped;
the first of equals is kept. -/
def bestValue (coll : Collation) (greatest : Bool) (vs : List SqlValue) : SqlValue :=
  vs.foldl (fun best v =>
    match v, best with
    | .null, _ => best
    | v, .null => v
    | v, b =>
      let c := SqlValue.compareWith coll b v
      if (greatest && c == .lt) || (!greatest && c == .gt) then v else b) .null

/-- The value of an aggregate over the argument lists of a group's rows, `distinct`
dropping first arguments equal under the first argument's collation `coll` to an earlier
one. -/
def Aggregate.finish (agg : Aggregate) (distinct : Bool) (coll : Collation)
    (rows : List (List SqlValue)) : Except SqlError SqlValue :=
  let firsts := rows.map fun r => r.headD .null
  let firsts := if distinct then distinctValues coll (firsts.filter (!·.isNull)) else firsts
  match agg with
  | .countAll => .ok (.int rows.length)
  | .count => .ok (.int (firsts.filter (!·.isNull)).length)
  | .sum =>
    let s := firsts.foldl Sum.add {}
    if s.count = 0 then .ok .null
    else if s.approx then
      if s.overflow then .error (.general "integer overflow") else .ok (.real s.toFloat)
    else .ok (.int s.whole)
  | .total => .ok (.real (firsts.foldl Sum.add {}).toFloat)
  | .avg =>
    let s := firsts.foldl Sum.add {}
    if s.count = 0 then .ok .null else .ok (.real (s.toFloat / Float.ofNat s.count))
  | .min => .ok (bestValue coll false firsts)
  | .max => .ok (bestValue coll true firsts)
  | .groupConcat =>
    let pairs := rows.map fun r => (r.headD .null, (r.drop 1).head?)
    let pairs := if distinct then
        pairs.foldl (fun acc p =>
          if p.1.isNull || acc.any (fun q => SqlValue.compareWith coll q.1 p.1 == .eq) then acc
          else acc ++ [p]) []
      else pairs.filter (!·.1.isNull)
    match pairs with
    | [] => .ok .null
    | (v, _) :: rest =>
      let sepOf (s : Option SqlValue) : String := match s with
        | some v => v.textD
        | none => ","
      .ok (.text (rest.foldl (fun acc (w, s) => acc ++ sepOf s ++ w.textD) v.textD))
  | .json name => (Document.jsonGroup name (rows.map (·.map Document.plain))).map (·.1)

/-! ## Plain functions -/

/-! ## Build options -/

/-- The options the database was built with, as it lists them: in alphabetical order,
each without the `SQLITE_` prefix, with `=value` where the option has a value. -/
def buildOptions : List String :=
  ["ATOMIC_INTRINSICS=1", "COMPILER=gcc-12.2.0", "DEFAULT_AUTOVACUUM",
   "DEFAULT_CACHE_SIZE=-2000", "DEFAULT_FILE_FORMAT=4", "DEFAULT_FOREIGN_KEYS",
   "DEFAULT_JOURNAL_SIZE_LIMIT=-1", "DEFAULT_MMAP_SIZE=0", "DEFAULT_PAGE_SIZE=4096",
   "DEFAULT_PCACHE_INITSZ=20", "DEFAULT_RECURSIVE_TRIGGERS", "DEFAULT_SECTOR_SIZE=4096",
   "DEFAULT_SYNCHRONOUS=2", "DEFAULT_WAL_AUTOCHECKPOINT=1000", "DEFAULT_WAL_SYNCHRONOUS=2",
   "DEFAULT_WORKER_THREADS=0", "DIRECT_OVERFLOW_READ", "ENABLE_API_ARMOR",
   "ENABLE_COLUMN_METADATA", "ENABLE_DBSTAT_VTAB", "ENABLE_FTS3", "ENABLE_FTS3_PARENTHESIS",
   "ENABLE_FTS5", "ENABLE_MEMORY_MANAGEMENT", "ENABLE_RTREE", "ENABLE_STAT4",
   "ENABLE_UNLOCK_NOTIFY", "MALLOC_SOFT_LIMIT=1024", "MAX_ATTACHED=10", "MAX_COLUMN=2000",
   "MAX_COMPOUND_SELECT=500", "MAX_DEFAULT_PAGE_SIZE=8192", "MAX_EXPR_DEPTH=1000",
   "MAX_FUNCTION_ARG=127", "MAX_LENGTH=1000000000", "MAX_LIKE_PATTERN_LENGTH=50000",
   "MAX_MMAP_SIZE=0x7fff0000", "MAX_PAGE_COUNT=0xfffffffe", "MAX_PAGE_SIZE=65536",
   "MAX_SQL_LENGTH=1000000000", "MAX_TRIGGER_DEPTH=1000", "MAX_VARIABLE_NUMBER=32766",
   "MAX_VDBE_OP=250000000", "MAX_WORKER_THREADS=8", "MUTEX_PTHREADS", "SOUNDEX",
   "SYSTEM_MALLOC", "TEMP_STORE=1", "THREADSAFE=1", "USE_URI"]

def upperByte (b : UInt8) : UInt8 := if 97 ≤ b && b ≤ 122 then b - 32 else b

/-- Whether a byte may stand in a name: a letter, a digit, `_`, `$` or any byte of a
character beyond ASCII. -/
def nameByte (b : UInt8) : Bool :=
  (48 ≤ b && b ≤ 57) || (65 ≤ b && b ≤ 90) || (97 ≤ b && b ≤ 122) || b == 95 || b == 36 ||
    b ≥ 128

/-- Whether the database was built with an option: the name (an `SQLITE_` prefix dropped,
letters in either case) is the start of a listed option that does not go on with a name
byte, so `THREADSAFE` and `THREADSAFE=1` are both found. -/
def buildOptionUsed (name : List UInt8) : Bool :=
  let name := Bytes.beforeNul name
  let name := if (name.take 7).map upperByte == "SQLITE_".toUTF8.toList then name.drop 7 else name
  buildOptions.any fun opt =>
    let o := opt.toUTF8.toList
    o.length ≥ name.length && (o.take name.length).map upperByte == name.map upperByte &&
      !(o[name.length]?.any nameByte)

/-- Computes a plain function of its arguments; `coll` is the collation of the
arguments for those that compare, and `clock` the current moment (milliseconds since
1970) for the date functions. Calls the evaluator handles itself do not reach here. -/
def applyScalar (clock : Int) (coll : Collation) (name : String) (args : List SqlValue) :
    Except SqlError SqlValue :=
  let a := args.headD .null
  let b := (args.drop 1).headD .null
  let c := (args.drop 2).headD .null
  let anyNull := args.any SqlValue.isNull
  match name.toLower with
  | "abs" =>
    match a with
    | .null => .ok .null
    | .int i => if i = minInt then .error (.general "integer overflow") else .ok (.int i.natAbs)
    | v => .ok (.real v.toFloat.abs)
  | "char" => .ok (.text (charsOf args))
  | "concat" => .ok (.text (String.join (args.map SqlValue.textD)))
  | "concat_ws" =>
    match a with
    | .null => .ok .null
    | sep =>
      let parts := (args.drop 1).filter fun v => !v.isNull && !v.bytes.isEmpty
      .ok (.text (sep.textD.intercalate (parts.map SqlValue.textD)))
  | "printf" | "format" =>
    match a with
    | .null => .ok .null
    | f =>
      match Printf.render f.bytes (args.drop 1) with
      | some bs => .ok (.text (Bytes.toText bs))
      | none => .ok .null
  | "glob" => matchPattern true a b (if args.length = 3 then some c else none)
  | "like" => matchPattern false a b (if args.length = 3 then some c else none)
  | "hex" =>
    if 2 * a.byteLength + 1 > Printf.lengthLimit then .error .tooBig
    else .ok (.text (hexText a.bytes))
  | "unhex" =>
    if anyNull then .ok .null
    else
      let skip := if args.length = 2 then Bytes.codes b.bytes.length b.bytes else []
      let hex := Bytes.beforeNul a.bytes
      match unhexBytes skip hex.length hex with
      | some bs => .ok (.blob (Blob.ofList bs))
      | none => .ok .null
  | "instr" =>
    match a, b with
    | .null, _ | _, .null => .ok .null
    | x, y =>
      let isText := !(x.isBlob && y.isBlob)
      .ok (.int (instrBytes isText y.bytes (x.bytes.length + 1) x.bytes 1))
  | "length" =>
    match a with
    | .null => .ok .null
    | .blob bs => .ok (.int bs.length)
    | v => .ok (.int (Bytes.unitsOf v.bytes).length)
  | "octet_length" =>
    match a with
    | .null => .ok .null
    | v => .ok (.int v.byteLength)
  | "lower" =>
    match a with
    | .null => .ok .null
    | v => .ok (.text (String.ofList (v.textD.toList.map foldCase)))
  | "upper" =>
    match a with
    | .null => .ok .null
    | v => .ok (.text (String.ofList (v.textD.toList.map raiseCase)))
  | "ltrim" | "rtrim" | "trim" =>
    if a.isNull || (args.length = 2 && b.isNull) then .ok .null
    else
      let set := if args.length = 2 then Bytes.unitsOf b.bytes else [[32]]
      let n := name.toLower
      let bs := a.bytes
      .ok (.text (Bytes.toText (trimBytes set (bs.length + 1) (n != "rtrim") (n != "ltrim") bs)))
  | "min" | "max" =>
    if anyNull then .ok .null
    else .ok (bestValue coll (name.toLower == "max") args)
  | "nullif" =>
    if SqlValue.compareWith coll a b == .eq && !a.isNull && !b.isNull then .ok .null else .ok a
  | "quote" =>
    if a.isBlob && 2 * a.byteLength + 5 > Printf.lengthLimit then .error .tooBig
    else .ok (.text (quoteValue a))
  | "random" => .ok (.int 0)
  | "randomblob" =>
    let n := max 1 a.toInt
    if n > Printf.lengthLimit then .error .tooBig else .ok (.blob { written := [], zeros := n.toNat })
  | "replace" =>
    if a.isNull || b.isNull then .ok .null
    else if b.bytes.headD 0 = 0 then .ok (.text a.textD)
    else if c.isNull then .ok .null
    else .ok (.text (Bytes.toText (replaceAll b.bytes c.bytes a.bytes)))
  | "round" =>
    if anyNull then .ok .null
    else
      let digits := if args.length = 2 then toInt32 b.toInt else 0
      .ok (.real (roundValue a.toFloat digits))
  | "sign" =>
    match a.asNumber false with
    | .int i => .ok (.int (if i > 0 then 1 else if i < 0 then -1 else 0))
    | .real f => .ok (.int (if f > 0 then 1 else if f < 0 then -1 else 0))
    | _ => .ok .null
  | "soundex" => .ok (.text (soundex a.bytes))
  | "sqlite_version" => .ok (.text "3.46.0")
  | "load_extension" => .error (.general "not authorized")
  | "sqlite_compileoption_used" =>
    if a.isNull then .ok .null else .ok (.int (if buildOptionUsed a.bytes then 1 else 0))
  | "sqlite_compileoption_get" =>
    if a.isNull then .ok .null
    else
      let i := toInt32 a.toInt
      if i < 0 then .ok .null
      else match buildOptions[i.toNat]? with
        | some o => .ok (.text o)
        | none => .ok .null
  | "sqlite_source_id" =>
    .ok (.text "2024-05-23 13:25:27 96c92aba00c8375bc32fafcdf12429c58bd8aabfcadab6683e35bbb9cdebf19e")
  | "fts5_source_id" =>
    .ok (.text "fts5: 2024-05-23 13:25:27 96c92aba00c8375bc32fafcdf12429c58bd8aabfcadab6683e35bbb9cdebf19e")
  | "substr" | "substring" =>
    if b.isNull || (args.length = 3 && c.isNull) || a.isNull then .ok .null
    else
      let start := toInt32 b.toInt
      let len := if args.length = 3 then some (toInt32 c.toInt) else none
      match a with
      | .blob bs =>
        -- an empty blob has no bytes to point at, and gives `NULL`
        if bs.length = 0 then .ok .null
        else
          let (p1, p2) := substrRange bs.length start len
          .ok (.blob (bs.slice p1 p2))
      | v => .ok (.text (Bytes.toText (substrList (Bytes.unitsOf v.bytes) start len).flatten))
  | "typeof" => .ok (.text a.storageClass)
  | "unicode" =>
    match Bytes.readCode (Bytes.beforeNul a.bytes) with
    | some (code, _) => .ok (.int code)
    | none => .ok .null
  | "zeroblob" =>
    let n := max 0 a.toInt
    if n > Printf.lengthLimit then .error .tooBig else .ok (.blob { written := [], zeros := n.toNat })
  | "likely" | "unlikely" => .ok a
  | "likelihood" => .ok a
  | other =>
    match applyCalendar clock other args with
    | some v => .ok v
    | none => (Document.applyJson other (args.map Document.plain)).map (·.1)

end Relational

end CrateState
