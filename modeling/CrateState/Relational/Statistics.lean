import CrateState.Relational.Value

/-!
# What `ANALYZE` records about an index

`ANALYZE` reads each index in order and keeps one `sqlite_stat1` row per index and a few
sample entries in `sqlite_stat4`.

For each entry the reading sees how many leading columns it shares with the one before
(`change`: the first column that differs). From that alone it keeps, for the current entry
and each column `i`, the number of entries so far sharing its first `i + 1` columns (`eq`),
the number before those (`lt`) and the distinct prefixes of that length before them
(`dlt`).

* The `sqlite_stat1` row reads `N d1 d2 …`: the entries, then for each key column the
  average number of entries sharing a prefix up to it, rounded up, taken as 1 when it
  would be 2 but fewer than one entry in ten repeats.
* At most 24 samples. Every entry at a fixed period (entries over 9, plus 1) is a periodic
  sample. For each column the entry best standing for a long run of equal prefixes is a
  candidate, pushed when its run ends, replacing the weakest non-periodic sample once the
  samples are full; a tie goes to a pseudo-random number drawn per entry.

`Sampler.push` follows that reading entry by entry, so the samples come out as the
database picks them.
-/

namespace CrateState

namespace Relational

/-- The most samples kept for one index. -/
def sampleLimit : Nat := 24

/-- A sample of an index: the counts of the entry for each column (see the module
comment), the column it stands for, its pseudo-random number, whether it is a periodic
sample, and its position in the index. -/
structure Sample where
  eq : Array Nat := #[]
  lt : Array Nat := #[]
  dlt : Array Nat := #[]
  col : Nat := 0
  hash : Nat := 0
  periodic : Bool := false
  position : Nat := 0
  deriving Inhabited

namespace Sample

/-- The count of entries sharing the prefix up to a column. -/
def eqAt (s : Sample) (i : Nat) : Nat := s.eq.getD i 0

/-- Whether `a` stands better than `b` for the columns after its own: more entries
sharing each longer prefix, the first difference deciding, and else the larger number. -/
def betterAfter (cols : Nat) (a b : Sample) : Bool :=
  let rec go : List Nat → Bool
    | [] => a.hash > b.hash
    | i :: is =>
      if a.eqAt i > b.eqAt i then true
      else if a.eqAt i < b.eqAt i then false
      else go is
  go ((List.range cols).drop (a.col + 1))

/-- Whether `a` is a better sample than `b`: a longer run at its own column, then an
earlier column, then `betterAfter`. -/
def better (cols : Nat) (a b : Sample) : Bool :=
  let ea := a.eqAt a.col
  let eb := b.eqAt b.col
  if ea > eb then true
  else if ea == eb then a.col < b.col || (a.col == b.col && betterAfter cols a b)
  else false

end Sample

/-- The state of the reading of one index. -/
structure Sampler where
  /-- The number of columns of an entry, the row id included. -/
  cols : Nat
  /-- The period of periodic samples. -/
  period : Nat
  /-- The last pseudo-random number drawn. -/
  prn : Nat
  /-- The entries read so far. -/
  rows : Nat := 0
  /-- The entry read last. -/
  current : Sample
  /-- The best candidate for each column but the last. -/
  best : Array Sample
  /-- The samples kept. -/
  samples : Array Sample := #[]
  /-- The place of the weakest non-periodic sample, once the samples are full. -/
  weakest : Nat := 0
  /-- No sample has a zero count at this column or after. -/
  maxEqZero : Nat := 0

/-- Truncates to 32 bits. -/
def low32 (n : Nat) : Nat := n % 4294967296

/-- The reading of an index of `cols` columns holding `count` entries, before its first
entry. -/
def Sampler.start (cols count : Nat) : Sampler :=
  let zeros := Array.replicate cols 0
  let blank : Sample := { eq := zeros, lt := zeros, dlt := zeros }
  { cols, period := count / (sampleLimit / 3 + 1) + 1,
    prn := Nat.xor (low32 (0x689e962d * cols)) (low32 (0xd0944565 * low32 count)),
    current := blank,
    best := (Array.range cols).map fun i => { blank with col := i } }

namespace Sampler

/-- Notes which sample is now the weakest, once the samples are full. -/
def findWeakest (p : Sampler) : Sampler :=
  if p.samples.size ≥ sampleLimit then
    let pick := (List.range sampleLimit).foldl (fun (m : Option Nat) i =>
      let s := p.samples.getD i default
      if s.periodic then m
      else
        match m with
        | none => some i
        | some j => if Sample.better p.cols (p.samples.getD j default) s then some i else some j)
      none
    { p with weakest := pick.getD 0 }
  else p

/-- The sample to upgrade instead of adding a candidate for column `col`: scanning the
samples from the last, one whose count at `col` is still open. Meeting a periodic one
first means the candidate is dropped (`none`); `some none` means it is added. -/
def upgradeFor (p : Sampler) (col : Nat) : Option (Option Nat) :=
  ((List.range p.samples.size).reverse.foldl (fun (acc : Option (Option Nat)) i =>
    match acc with
    | none => none
    | some up =>
      let old := p.samples.getD i default
      if old.eqAt col == 0 then
        if old.periodic then none
        else
          match up with
          | none => some (some i)
          | some u =>
            if Sample.better p.cols old (p.samples.getD u default) then some (some i) else some (some u)
      else some up) (some none))

/-- Adds a sample, with its counts for the first `eqZero` columns left open until its
runs end. A candidate whose prefix a sample already stands for upgrades that sample
instead; a full set of samples drops its weakest first. -/
def insert (p : Sampler) (s : Sample) (eqZero : Nat) : Sampler :=
  let p := if eqZero > p.maxEqZero then { p with maxEqZero := eqZero } else p
  let upgrade : Option (Option Nat) := if s.periodic then some none else p.upgradeFor s.col
  match upgrade with
  | none => p
  | some (some u) =>
    let samples := p.samples.modify u fun old =>
      { old with col := s.col, eq := old.eq.set! s.col (s.eqAt s.col) }
    findWeakest { p with samples }
  | some none =>
    let samples :=
      if p.samples.size ≥ sampleLimit then p.samples.eraseIdxIfInBounds p.weakest else p.samples
    let opened := (List.range eqZero).foldl (fun eq i => eq.set! i 0) s.eq
    findWeakest { p with samples := samples.push { s with eq := opened } }

/-- Pushes the candidates of the columns from `change` on, whose runs have just ended,
and closes the open counts of the samples from that column on. -/
def pushPrevious (p : Sampler) (change : Nat) : Sampler :=
  let columns := ((List.range (p.cols - 1)).filter (change ≤ ·)).reverse
  let p := columns.foldl (fun p i =>
    let candidate := p.best.getD i default
    let candidate := { candidate with eq := candidate.eq.set! i (p.current.eqAt i) }
    let p := { p with best := p.best.set! i candidate }
    if p.samples.size < sampleLimit ||
        Sample.better p.cols candidate (p.samples.getD p.weakest default) then
      p.insert candidate i
    else p) p
  if change < p.maxEqZero then
    let close (s : Sample) : Sample :=
      { s with eq := (List.range p.cols).foldl (fun eq j =>
          if change ≤ j && s.eqAt j == 0 then eq.set! j (p.current.eqAt j) else eq) s.eq }
    { p with samples := p.samples.map close, maxEqZero := change }
  else p

/-- Reads the next entry, which first differs from the one before it at column
`change` (0 for the first entry). -/
def push (p : Sampler) (change : Nat) : Sampler :=
  let p :=
    if p.rows == 0 then
      { p with current := { p.current with eq := Array.replicate p.cols 1 } }
    else
      let p := p.pushPrevious change
      let c := p.current
      let c := (List.range p.cols).foldl (fun (c : Sample) i =>
        if i < change then { c with eq := c.eq.modify i (· + 1) }
        else
          { c with dlt := c.dlt.modify i (· + 1), lt := c.lt.modify i (· + c.eqAt i),
                   eq := c.eq.set! i 1 }) c
      { p with current := c }
  let prn := low32 (p.prn * 1103515245 + 12345)
  let p := { p with rows := p.rows + 1, prn,
                    current := { p.current with hash := prn, position := p.rows } }
  let lessThan := p.current.lt.getD (p.cols - 1) 0
  let p :=
    if lessThan / p.period != (lessThan + 1) / p.period then
      p.insert { p.current with periodic := true, col := 0 } (p.cols - 1)
    else p
  (List.range (p.cols - 1)).foldl (fun p i =>
    let c := { p.current with col := i }
    let p := { p with current := c }
    if change ≤ i || Sample.betterAfter p.cols c (p.best.getD i default) then
      { p with best := p.best.set! i c }
    else p) p

/-- Ends the reading: the candidates still held are pushed. -/
def finish (p : Sampler) : Sampler := if p.rows == 0 then p else p.pushPrevious 0

end Sampler

/-- The samples an index of `cols` columns gives, its entries first differing from the
one before at the columns `changes`. -/
def indexSamples (cols : Nat) (changes : List Nat) : List Sample :=
  (changes.foldl Sampler.push (Sampler.start cols changes.length)).finish.samples.toList

/-- The number of distinct prefixes of each length among entries first differing from
the one before at the columns `changes`. -/
def distinctPrefixes (width : Nat) (changes : List Nat) : List Nat :=
  (List.range width).map fun i => (changes.drop 1).countP (· ≤ i) + 1

/-- The text of an index's `sqlite_stat1` row: the number of entries, then the average
run of each prefix of the `width` key columns. -/
def statText (width : Nat) (changes : List Nat) : String :=
  let n := changes.length
  let averages := (distinctPrefixes width changes).map fun d =>
    let v := (n + d - 1) / d
    if v == 2 && n * 10 ≤ d * 11 then 1 else v
  " ".intercalate ((n :: averages).map toString)

/-- Numbers written as text, separated by blanks. -/
def countsText (counts : Array Nat) : String := " ".intercalate (counts.toList.map toString)

/-! ## The record of a sample -/

/-- The bytes of a number as the database writes a length: seven bits a byte, the high
bit set on every byte but the last, and a ninth byte of eight bits for the largest. -/
def varintBytes (n : Nat) : List UInt8 :=
  if n < 128 then [n.toUInt8]
  else if n ≥ 72057594037927936 then
    -- nine bytes: eight of seven bits, then one of eight
    let high := n / 256
    (List.range 8).reverse.map (fun k => (high / Nat.pow 128 k % 128 + 128).toUInt8) ++
      [(n % 256).toUInt8]
  else
    let digits := (List.range 9).filter fun k => n ≥ Nat.pow 128 k
    let count := digits.length
    (List.range count).reverse.map fun k =>
      ((n / Nat.pow 128 k % 128) + (if k == 0 then 0 else 128)).toUInt8

/-- The `count` bytes of a number, the most significant first. -/
def bigEndian (count n : Nat) : List UInt8 :=
  (List.range count).reverse.map fun k => (n / Nat.pow 256 k % 256).toUInt8

/-- The type code of a value in a record and the bytes of its body. -/
def recordField : SqlValue → Nat × List UInt8
  | .null => (0, [])
  | .int i =>
    if i == 0 then (8, [])
    else if i == 1 then (9, [])
    else
      let u : Int := if i < 0 then -i - 1 else i
      let bits := toBits64 i
      if u ≤ 127 then (1, bigEndian 1 bits)
      else if u ≤ 32767 then (2, bigEndian 2 bits)
      else if u ≤ 8388607 then (3, bigEndian 3 bits)
      else if u ≤ 2147483647 then (4, bigEndian 4 bits)
      else if u ≤ 140737488355327 then (5, bigEndian 6 bits)
      else (6, bigEndian 8 bits)
  | .real f => (7, bigEndian 8 f.toBits.toNat)
  | .text s => let bs := utf8Bytes s; (2 * bs.length + 13, bs)
  | .blob b => (2 * b.length + 12, b.toList)

/-- The record of some values: the length of its header, the type codes, then the
bodies. -/
def recordBytes (values : List SqlValue) : List UInt8 :=
  let fields := values.map recordField
  let codes := fields.flatMap fun (code, _) => varintBytes code
  let body := fields.flatMap (·.2)
  -- the header's length counts itself
  let size := if codes.length + 1 < 128 then codes.length + 1 else codes.length + 2
  varintBytes size ++ codes ++ body

end Relational

end CrateState
