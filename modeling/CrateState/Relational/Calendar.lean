import CrateState.Relational.Printf

/-!
# Dates and times

The date and time functions `date`, `time`, `datetime`, `julianday`, `unixepoch`,
`strftime` and `timediff`, with the modifiers that move a moment.

A moment is counted in milliseconds of the julian day (`jd`; day 0 begins at noon of
24 November 4714 BC, proleptic Gregorian) and is also known as a calendar date and a time
of day, each flagged up to date or not. Every step brings up to date what it needs, in the
database's order, and answers depend on it: a day past its month's end is kept as written
until something goes through the day number, rolling it into the next month.

A moment is read from

* `YYYY-MM-DD` (`-` before year 1), then blanks or `T` and a time, or nothing;
* `HH:MM`, `HH:MM:SS` or `HH:MM:SS.FFF` (any fraction length), then optionally `Z` or
  `±HH:MM`; a time alone falls on 2000-01-01;
* a number: a julian day, or seconds under the `unixepoch` and `auto` modifiers;
* `now`: the database's clock (milliseconds since 1970).

Local time is universal time. A moment outside the years 0000 to 9999, an unread text and
an unknown modifier make the answer `NULL`.
-/

namespace CrateState

namespace Relational

/-- A moment being computed, with what is known of it. -/
structure Moment where
  /-- Milliseconds of the julian day. -/
  jd : Int := 0
  /-- The year, negative before year 1. -/
  year : Int := 0
  month : Int := 0
  /-- The day of the month. -/
  day : Int := 0
  hour : Int := 0
  minute : Int := 0
  /-- The zone written with a time, in minutes east. -/
  offset : Int := 0
  /-- The seconds; a number as given while `raw`. -/
  second : Float := 0
  /-- Whether `jd` is up to date. -/
  hasDay : Bool := false
  /-- Whether the calendar date is up to date. -/
  hasDate : Bool := false
  /-- Whether the time of day is up to date. -/
  hasTime : Bool := false
  /-- How many days the date is past the end of its month (`floor` takes them back). -/
  overflow : Int := 0
  /-- Whether `second` holds a number as given, not yet read as a moment. -/
  raw : Bool := false
  /-- Whether a step went out of range. -/
  broken : Bool := false
  /-- Whether seconds are written with milliseconds. -/
  subsec : Bool := false
  /-- Whether the moment is known to be universal time. -/
  utc : Bool := false
  /-- Whether the moment is known to be local time. -/
  localTime : Bool := false

namespace Moment

/-- The moment of a failed step: everything cleared. -/
def failed : Moment := { broken := true }

/-- The moment a clock reading gives: `clock` milliseconds after 1970-01-01 00:00:00. -/
def current (clock : Int) : Moment := { jd := clock + 210866760000000, hasDay := true }

/-- Whether milliseconds of the julian day fall in the years 0000 to 9999. -/
def inRange (jd : Int) : Bool := 0 ≤ jd && jd ≤ 464269060799999

/-- Forgets the calendar date, the time of day and the zone. -/
def forget (m : Moment) : Moment := { m with hasDate := false, hasTime := false, offset := 0 }

/-- Records how many days the date is past the end of its month. -/
def withOverflow (m : Moment) : Moment :=
  let long := [1, 3, 5, 7, 8, 10, 12].contains m.month
  let leap := m.year % 4 == 0 && (m.year % 100 != 0 || m.year % 400 == 0)
  let overflow :=
    if m.day ≤ 28 || long then 0
    else if m.month != 2 then (if m.day == 31 then 1 else 0)
    else if leap then m.day - 29
    else m.day - 28
  { m with overflow }

/-- Brings the day number up to date from the date (2000-01-01 when there is none) and
the time of day. A year outside -4713 to 9999, or a number not yet read, fails. A zone is
folded in and then forgotten with the date and time it was written with. -/
def computeDay (m : Moment) : Moment :=
  if m.hasDay then m
  else
    let (y, mo, d) := if m.hasDate then (m.year, m.month, m.day) else (2000, 1, 1)
    if y < -4713 || y > 9999 || m.raw then failed
    else
      let (y, mo) := if mo ≤ 2 then (y - 1, mo + 12) else (y, mo)
      let a := y.tdiv 100
      let b := 2 - a + a.tdiv 4
      let x1 := (36525 * (y + 4716)).tdiv 100
      let x2 := (306001 * (mo + 1)).tdiv 10000
      let m := { m with jd := (2 * (x1 + x2 + d + b) - 3049) * 43200000, hasDay := true }
      if !m.hasTime then m
      else
        let jd := m.jd + m.hour * 3600000 + m.minute * 60000 + floatToInt (m.second * 1000 + 0.5)
        if m.offset == 0 then { m with jd }
        else
          { m with jd := jd - m.offset * 60000, hasDate := false, hasTime := false, offset := 0,
                   utc := true, localTime := false }

/-- Brings the calendar date up to date from the day number (2000-01-01 when there is
none); a day number out of range fails. -/
def computeDate (m : Moment) : Moment :=
  if m.hasDate then m
  else if !m.hasDay then { m with year := 2000, month := 1, day := 1, hasDate := true }
  else if !inRange m.jd then failed
  else
    let z := (m.jd + 43200000).tdiv 86400000
    let a := floatToInt ((floatOfInt z - 1867216.25) / 36524.25)
    let a := z + 1 + a - a.tdiv 4
    let b := a + 1524
    let c := floatToInt ((floatOfInt b - 122.1) / 365.25)
    let d := (36525 * (c % 32768)).tdiv 100
    let e := floatToInt (floatOfInt (b - d) / 30.6001)
    let x1 := floatToInt (30.6001 * floatOfInt e)
    let month := if e < 14 then e - 1 else e - 13
    { m with day := b - d - x1, month, year := if month > 2 then c - 4716 else c - 4715,
             hasDate := true }

/-- Brings the time of day up to date from the day number. -/
def computeClock (m : Moment) : Moment :=
  if m.hasTime then m
  else
    let m := m.computeDay
    let dayMs := (m.jd + 43200000).tmod 86400000
    let dayMin := dayMs.tdiv 60000
    { m with second := floatOfInt (dayMs.tmod 60000) / 1000.0, minute := dayMin.tmod 60,
             hour := dayMin.tdiv 60, raw := false, hasTime := true }

/-- Brings both the date and the time of day up to date. -/
def computeBoth (m : Moment) : Moment := m.computeDate.computeClock

end Moment

/-! ## Reading moments -/

/-- Reads `n` digits onto `acc`, with what follows them. -/
def fixedDigits : Nat → List Char → Nat → Option (Nat × List Char)
  | 0, cs, acc => some (acc, cs)
  | n + 1, c :: cs, acc =>
    if c.isDigit then fixedDigits n cs (acc * 10 + (c.toNat - '0'.toNat)) else none
  | _ + 1, [], _ => none

/-- Reads fixed-width number fields, each given by its digit count, its least and
greatest value and the character that must follow it (none after the last); answers the
values read before the first field that does not fit. -/
def readFields : List (Nat × Nat × Nat × Option Char) → List Char → List Nat
  | [], _ => []
  | (n, lo, hi, next) :: rest, cs =>
    match fixedDigits n cs 0 with
    | none => []
    | some (v, after) =>
      let follows := match next with
        | some c => after.head? == some c
        | none => true
      if v < lo || v > hi || !follows then [] else v :: readFields rest (after.drop 1)

namespace Moment

/-- Reads an optional zone after a time: blanks, then `Z` or `±HH:MM`, then only blanks. -/
def readZone (cs : List Char) (m : Moment) : Option Moment :=
  let m := { m with offset := 0 }
  match cs.dropWhile isSpace with
  | [] => some m
  | c :: rest =>
    if c == 'Z' || c == 'z' then
      if (rest.dropWhile isSpace).isEmpty then some { m with localTime := false, utc := true }
      else none
    else if c == '+' || c == '-' then
      match readFields [(2, 0, 14, some ':'), (2, 0, 59, none)] rest with
      | [h, mi] =>
        if ((rest.drop 5).dropWhile isSpace).isEmpty then
          some { m with offset := (if c == '-' then -1 else 1) * ((mi : Int) + (h : Int) * 60) }
        else none
      | _ => none
    else none

/-- The seconds after `HH:MM`: `:SS` with an optional fraction of any number of digits,
or nothing; with what follows. -/
def readSeconds (cs : List Char) : Option (Float × List Char) :=
  match cs with
  | ':' :: more =>
    match readFields [(2, 0, 59, none)] more with
    | [s] =>
      let after := more.drop 2
      match after with
      | '.' :: d :: tail =>
        if d.isDigit then
          let ds := (d :: tail).takeWhile Char.isDigit
          let (ms, scale) := ds.foldl (fun (acc : Float × Float) c =>
            (acc.1 * 10.0 + floatOfInt (c.toNat - '0'.toNat), acc.2 * 10.0)) (0.0, 1.0)
          let ms := ms / scale
          some (floatOfInt s + ms, (d :: tail).drop ds.length)
        else some (floatOfInt s, after)
      | _ => some (floatOfInt s, after)
    | _ => none
  | _ => some (0.0, cs)

/-- Reads `HH:MM[:SS[.FFF]]` and an optional zone. -/
def readClock (cs : List Char) (m : Moment) : Option Moment :=
  match readFields [(2, 0, 24, some ':'), (2, 0, 59, none)] cs with
  | [h, mi] => do
    let (s, rest) ← readSeconds (cs.drop 5)
    readZone rest { m with hasDay := false, raw := false, hasTime := true, hour := h,
                           minute := mi, second := s }
  | _ => none

/-- Reads `[-]YYYY-MM-DD`, then blanks or `T` and a time, or nothing. -/
def readDate (cs : List Char) (m : Moment) : Option Moment :=
  let (neg, cs) := match cs with
    | '-' :: r => (true, r)
    | r => (false, r)
  match readFields [(4, 0, 14712, some '-'), (2, 1, 12, some '-'), (2, 1, 31, none)] cs with
  | [y, mo, d] =>
    let rest := (cs.drop 10).dropWhile fun c => isSpace c || c == 'T'
    let timed : Option Moment := match readClock rest m with
      | some m => some m
      | none => if rest.isEmpty then some { m with hasTime := false } else none
    timed.map fun m =>
      let year : Int := if neg then -(y : Int) else y
      let m := withOverflow { m with hasDay := false, hasDate := true, year, month := mo, day := d }
      if m.offset != 0 then m.computeDay else m
  | _ => none

/-- A number as given: a julian day when it is one. -/
def ofNumber (r : Float) : Moment :=
  if r ≥ 0 && r < 5373484.5 then
    { second := r, raw := true, jd := floatToInt (r * 86400000.0 + 0.5), hasDay := true }
  else { second := r, raw := true }

/-- Reads the moment a text gives; `now` is the clock's. -/
def read (clock : Int) (text : String) : Option Moment :=
  let cs := text.toList
  match readDate cs {} with
  | some m => some m
  | none =>
    match readClock cs {} with
    | some m => some m
    | none =>
      if text.toLower == "now" then some (current clock)
      else
        match parseNumber text with
        | some v => some (ofNumber v.toFloat)
        | none =>
          if text.toLower == "subsec" || text.toLower == "subsecond" then
            some { current clock with subsec := true }
          else none

/-! ## Modifiers -/

/-- Local time, which is universal time here: the date and time of day read off the day
number, the years outside 1970–2037 moved into them and back as the system clock is
asked, the seconds cut to whole ones and the milliseconds added back. -/
def toLocal (m : Moment) : Moment :=
  let m := m.computeDay
  let (x, shift) :=
    if m.jd < 210866760000000 || m.jd > 213014145600000 then
      let x := m.computeBoth
      let shift := (2000 + x.year.tmod 4) - x.year
      (computeDay { x with year := x.year + shift, hasDay := false }, shift)
    else (m, 0)
  let t := x.jd.tdiv 1000 - 210866760000
  let u := computeBoth { jd := (t + 210866760000) * 1000, hasDay := true }
  { m with year := u.year - shift, month := u.month, day := u.day, hour := u.hour,
           minute := u.minute,
           second := floatOfInt (floatToInt u.second) + floatOfInt (m.jd.tmod 1000) * 0.001,
           hasDate := true, hasTime := true, hasDay := false, raw := false, offset := 0,
           broken := false }

/-- Brings a month number back into 1 to 12, carrying whole years. -/
def carryMonths (m : Moment) : Moment :=
  let x := if m.month > 0 then (m.month - 1).tdiv 12 else (m.month - 12).tdiv 12
  { m with year := m.year + x, month := m.month - x * 12 }

/-- The units of `±NNN unit`: the name, the largest amount allowed and the seconds one
unit counts (a month 30 days, a year 365 days, for a fraction of one). -/
def units : List (String × Float × Float) :=
  [("second", 4.6427e14, 1.0), ("minute", 7.7379e12, 60.0), ("hour", 1.2897e11, 3600.0),
   ("day", 5373485.0, 86400.0), ("month", 176546.0, 2592000.0),
   ("year", 14713.0, 31536000.0)]

/-- Where the number of an arithmetic modifier ends: at `:`, a blank, or the `-` after
a year of four or five digits. -/
def numberEnd (cs : List Char) : Nat :=
  let year (n : Nat) : Bool := (readFields [(n, 0, 14712, none)] (cs.drop 1)).length == 1
  let rec go : Nat → List Char → Nat
    | k, [] => k
    | k, c :: rest =>
      if c == ':' || isSpace c then k
      else if c == '-' && ((k == 5 && year 4) || (k == 6 && year 5)) then k
      else go (k + 1) rest
  go 1 (cs.drop 1)

/-- Adds (`sign` is `-`: subtracts) the time of day `HH:MM[:SS[.FFF]]` that `cs` gives
(a sign before it skipped), whole days dropped. -/
def addClock (m : Moment) (sign : Char) (cs : List Char) : Option Moment := do
  let cs := match cs with
    | c :: rest => if c.isDigit then cs else rest
    | [] => cs
  let tx ← readClock cs {}
  let tx := tx.computeDay
  let ms := tx.jd - 43200000
  let ms := ms - ms.tdiv 86400000 * 86400000
  let ms := if sign == '-' then -ms else ms
  let m := m.computeDay.forget
  pure { m with jd := m.jd + ms }

/-- Adds `±YYYY-MM-DD` years, months (below 12) and days (below 31) that `cs` gives
after its sign, then an optional `HH:MM[:SS]`; `wide` when the year has five digits. -/
def addDate (m : Moment) (sign : Char) (cs : List Char) (wide : Bool) : Option Moment := do
  let fields := readFields [((if wide then 5 else 4), 0, 14712, some '-'), (2, 0, 12, some '-'),
    (2, 0, 31, none)] (cs.drop 1)
  match fields with
  | [y, mo, d] =>
    if mo ≥ 12 || d ≥ 31 then none
    else
      let m := m.computeBoth
      let m := { m with hasDay := false }
      let (m, days) : Moment × Int :=
        if sign == '-' then ({ m with year := m.year - y, month := m.month - mo }, -(d : Int))
        else ({ m with year := m.year + y, month := m.month + mo }, d)
      let m := m.carryMonths.withOverflow.computeDay
      let m := { m with hasTime := false, hasDate := false, jd := m.jd + days * 86400000 }
      match cs.drop (if wide then 12 else 11) with
      | [] => some m
      | c :: rest =>
        if isSpace c && (readFields [(2, 0, 24, some ':'), (2, 0, 59, none)] rest).length == 2 then
          m.addClock sign rest
        else none
  | _ => none

/-- Adds `±NNN unit`: seconds, minutes, hours and days as milliseconds; months and years
on the calendar first (their whole part), the fraction as 30-day months or 365-day
years. -/
def addUnits (m : Moment) (r : Float) (cs : List Char) : Option Moment :=
  let rest := cs.dropWhile isSpace
  let len := (String.ofList rest).utf8ByteSize
  if len < 3 || len > 10 then none
  else
    let name := match rest.getLast? with
      | some c => if c.toLower == 's' then rest.dropLast else rest
      | none => rest
    let name := (String.ofList name).toLower
    let m := { m.computeDay with overflow := 0 }
    let rounder : Float := if r < 0 then -0.5 else 0.5
    match units.find? (fun (u, limit, _) => u == name && r > -limit && r < limit) with
    | none => none
    | some (u, _, secs) =>
      let whole := floatToInt r
      let (m, r) :=
        if u == "month" then
          let m := m.computeBoth
          ({ carryMonths { m with month := m.month + whole } |>.withOverflow with hasDay := false },
            r - floatOfInt whole)
        else if u == "year" then
          let m := m.computeBoth
          ({ withOverflow { m with year := m.year + whole } with hasDay := false },
            r - floatOfInt whole)
        else (m, r)
      let m := m.computeDay
      some (forget { m with jd := m.jd + floatToInt (r * 1000.0 * secs + rounder) })

/-- Applies an arithmetic modifier: `±NNN unit`, `±HH:MM[:SS[.FFF]]` or
`±YYYY-MM-DD[ HH:MM[:SS]]`. -/
def shift (m : Moment) (cs : List Char) : Option Moment := do
  let sign := cs.headD ' '
  let n := numberEnd cs
  let v ← parseNumber (String.ofList (cs.take n))
  match cs.drop n with
  | '-' :: _ =>
    if sign != '+' && sign != '-' then none
    else m.addDate sign cs (n == 6)
  | ':' :: _ => m.addClock sign cs
  | rest => m.addUnits v.toFloat rest

/-- Applies a modifier, the `idx`-th (from 1); `none` when it does not apply. -/
def modify (m : Moment) (text : String) (idx : Nat) : Option Moment :=
  let lower := text.toLower
  match text.toList with
  | [] => none
  | c :: _ =>
    match c.toLower with
    | 'a' =>
      if lower != "auto" || idx > 1 then none
      else if !m.raw || m.hasDay then some { m with raw := false }
      else if m.second ≥ -210866760000.0 && m.second ≤ 253402300799.0 then
        some { m.forget with jd := floatToInt (m.second * 1000.0 + 210866760000000.0 + 0.5),
                             hasDay := true, raw := false }
      else none
    | 'c' => if lower == "ceiling" then some { m.computeDay.forget with overflow := 0 } else none
    | 'f' =>
      if lower == "floor" then
        let m := m.computeDay
        some (forget { m with jd := m.jd - m.overflow * 86400000 })
      else none
    | 'j' =>
      if lower != "julianday" || idx > 1 then none
      else if m.hasDay && m.raw then some { m with raw := false }
      else none
    | 'l' =>
      if lower == "localtime" then
        some { (if m.localTime then m else m.toLocal) with utc := false, localTime := true }
      else none
    | 'u' =>
      if lower == "unixepoch" && m.raw then
        if idx > 1 then none
        else
          let r := m.second * 1000.0 + 210866760000000.0
          if r ≥ 0 && r < 464269060800000.0 then
            some { m.forget with jd := floatToInt (r + 0.5), hasDay := true, raw := false }
          else none
      else if lower == "utc" then
        if m.utc then some m else some { jd := m.computeDay.jd, hasDay := true, utc := true }
      else none
    | 'w' =>
      if !lower.startsWith "weekday " then none
      else
        match parseNumber (String.ofList (text.toList.drop 8)) with
        | some v =>
          let r := v.toFloat
          let n := floatToInt r
          if r ≥ 0 && r < 7 && floatOfInt n == r then
            let m := m.computeBoth
            let m := computeDay { m with offset := 0, hasDay := false }
            let z := ((m.jd + 129600000).tdiv 86400000).tmod 7
            let z := if z > n then z - 7 else z
            some (forget { m with jd := m.jd + (n - z) * 86400000 })
          else none
        | none => none
    | 's' =>
      if !lower.startsWith "start of " then
        if lower == "subsec" || lower == "subsecond" then some { m with subsec := true } else none
      else if !m.hasDay && !m.hasDate && !m.hasTime then none
      else
        let m := m.computeDate
        let m := { m with hasTime := true, hour := 0, minute := 0, second := 0, raw := false,
                          offset := 0, hasDay := false }
        let unit := String.ofList (lower.toList.drop 9)
        if unit == "month" then some { m with day := 1 }
        else if unit == "year" then some { m with month := 1, day := 1 }
        else if unit == "day" then some m
        else none
    | c => if c == '+' || c == '-' || c.isDigit then m.shift text.toList else none

end Moment

/-- Reads the arguments of a date function: the moment (now when there is none) and the
modifiers in order; `none`, the answer `NULL`, when any is `NULL` or not read, or the
result is out of range. A date given alone that is past the end of its month is rolled
into the next month. -/
def momentOf (clock : Int) (args : List SqlValue) : Option Moment :=
  match args with
  | [] => some (Moment.current clock)
  | first :: mods => do
    let m ← match first with
      | .int _ | .real _ => some (Moment.ofNumber first.toFloat)
      | .null => none
      | v => Moment.read clock v.textD
    let m ← (mods.zip (List.range' 1 mods.length)).foldlM (fun m (v, idx) =>
      match v with
      | .null => none
      | v => m.modify v.textD idx) m
    let m := m.computeDay
    if m.broken || !Moment.inRange m.jd then none
    else if mods.isEmpty && m.hasDate && m.day > 28 then some { m with hasDate := false }
    else some m

/-! ## Writing moments -/

/-- The digit of a non-negative number at a place (1, 10, 100, …). -/
def placeDigit (n place : Int) : Char :=
  Char.ofNat ('0'.toNat + ((n.tdiv place).tmod 10).toNat)

namespace Moment

/-- `YYYY-MM-DD`, with a `-` before a year before 1. -/
def dateText (m : Moment) : String :=
  let y : Int := m.year.natAbs
  let body := String.ofList [placeDigit y 1000, placeDigit y 100, placeDigit y 10,
    placeDigit y 1, '-', placeDigit m.month 10, placeDigit m.month 1, '-',
    placeDigit m.day 10, placeDigit m.day 1]
  if m.year < 0 then "-" ++ body else body

/-- `HH:MM:SS`, or `HH:MM:SS.SSS` with `subsec`. -/
def clockText (m : Moment) : String :=
  let hm := [placeDigit m.hour 10, placeDigit m.hour 1, ':', placeDigit m.minute 10,
    placeDigit m.minute 1, ':']
  let secs :=
    if m.subsec then
      let s := floatToInt (1000.0 * m.second + 0.5)
      [placeDigit s 10000, placeDigit s 1000, '.', placeDigit s 100, placeDigit s 10,
       placeDigit s 1]
    else
      let s := floatToInt m.second
      [placeDigit s 10, placeDigit s 1]
  String.ofList (hm ++ secs)

/-- Whole days since 1 January of the moment's year. -/
def daysIntoYear (m : Moment) : Int :=
  let jan := computeDay { m with hasDay := false, month := 1, day := 1 }
  (m.jd - jan.jd + 43200000).tdiv 86400000

/-- Days since the last Monday (0 on a Monday). -/
def daysAfterMonday (m : Moment) : Int := ((m.jd + 43200000).tdiv 86400000).tmod 7

/-- Days since the last Sunday (0 on a Sunday). -/
def daysAfterSunday (m : Moment) : Int := ((m.jd + 129600000).tdiv 86400000).tmod 7

/-- The Thursday of the moment's week (weeks from Monday), whose year is the week's. -/
def thursday (m : Moment) : Moment :=
  computeDate { m with jd := m.jd + (3 - m.daysAfterMonday) * 86400000, hasDate := false }

/-- What a `strftime` conversion letter writes; `none` for an unknown letter. -/
def conversion (m : Moment) (c : Char) : Option String :=
  let num (spec : String) (v : Int) : String := Printf.format spec [.int v]
  match c with
  | 'd' => some (num "%02d" m.day)
  | 'e' => some (num "%2d" m.day)
  | 'f' => some (Printf.format "%06.3f" [.real (if m.second > 59.999 then 59.999 else m.second)])
  | 'F' => some (Printf.format "%04d-%02d-%02d" [.int m.year, .int m.month, .int m.day])
  | 'G' => some (num "%04d" m.thursday.year)
  | 'g' => some (num "%02d" (m.thursday.year.tmod 100))
  | 'H' => some (num "%02d" m.hour)
  | 'k' => some (num "%2d" m.hour)
  | 'I' | 'l' =>
    let h := if m.hour > 12 then m.hour - 12 else m.hour
    some (num (if c == 'I' then "%02d" else "%2d") (if h == 0 then 12 else h))
  | 'j' => some (num "%03d" (m.daysIntoYear + 1))
  | 'J' => some (Printf.format "%.16g" [.real (floatOfInt m.jd / 86400000.0)])
  | 'm' => some (num "%02d" m.month)
  | 'M' => some (num "%02d" m.minute)
  | 'p' => some (if m.hour ≥ 12 then "PM" else "AM")
  | 'P' => some (if m.hour ≥ 12 then "pm" else "am")
  | 'R' => some (Printf.format "%02d:%02d" [.int m.hour, .int m.minute])
  | 's' =>
    if m.subsec then
      some (Printf.format "%.3f" [.real (floatOfInt (m.jd - 210866760000000) / 1000.0)])
    else some (toString (m.jd.tdiv 1000 - 210866760000))
  | 'S' => some (num "%02d" (floatToInt m.second))
  | 'T' =>
    some (Printf.format "%02d:%02d:%02d" [.int m.hour, .int m.minute, .int (floatToInt m.second)])
  | 'u' => some (toString (if m.daysAfterSunday == 0 then 7 else m.daysAfterSunday))
  | 'w' => some (toString m.daysAfterSunday)
  | 'U' => some (num "%02d" ((m.daysIntoYear - m.daysAfterSunday + 7).tdiv 7))
  | 'V' => some (num "%02d" (m.thursday.daysIntoYear.tdiv 7 + 1))
  | 'W' => some (num "%02d" ((m.daysIntoYear - m.daysAfterMonday + 7).tdiv 7))
  | 'Y' => some (num "%04d" m.year)
  | '%' => some "%"
  | _ => none

/-- The text of a `strftime` format for the moment; `none` when it holds an unknown
conversion or ends in `%`. -/
def strftime (m : Moment) (fmt : List Char) : Option String :=
  let rec go : List Char → String → Option String
    | [], acc => some acc
    | ['%'], _ => none
    | '%' :: c :: rest, acc => (m.conversion c).bind fun s => go rest (acc ++ s)
    | c :: rest, acc => go rest (acc.push c)
  go fmt ""

/-- Moves `later` back a month at a time, counting the months down, while it is after
`earlier`. -/
def backMonths : Nat → Moment → Int → Int → Moment → Int × Int × Moment
  | 0, _, y, mo, later => (y, mo, later)
  | fuel + 1, earlier, y, mo, later =>
    if earlier.jd < later.jd then
      let (y, mo) := if mo - 1 < 0 then (y - 1, 11) else (y, mo - 1)
      let (ly, lm) := if later.month - 1 < 1 then (later.year - 1, 12) else (later.year, later.month - 1)
      backMonths fuel earlier y mo (computeDay { later with year := ly, month := lm, hasDay := false })
    else (y, mo, later)

/-- Moves `earlier` forward a month at a time, counting the months down, while `later`
is after it. -/
def forwardMonths : Nat → Moment → Int → Int → Moment → Int × Int × Moment
  | 0, _, y, mo, earlier => (y, mo, earlier)
  | fuel + 1, later, y, mo, earlier =>
    if later.jd > earlier.jd then
      let (y, mo) := if mo - 1 < 0 then (y - 1, 11) else (y, mo - 1)
      let (ey, em) := if earlier.month + 1 > 12 then (earlier.year + 1, 1) else (earlier.year, earlier.month + 1)
      forwardMonths fuel later y mo (computeDay { earlier with year := ey, month := em, hasDay := false })
    else (y, mo, earlier)

end Moment

/-- `timediff(a, b)`: the time from `b` to `a` as `±YYYY-MM-DD HH:MM:SS.SSS` (years,
months, days, hours, minutes, seconds), counted on the calendar of `b`. -/
def timediff (clock : Int) (a b : SqlValue) : Option String := do
  let d1 ← momentOf clock [a]
  let d2 ← momentOf clock [b]
  let d1 := d1.computeBoth
  let d2 := d2.computeBoth
  let (sign, y, mo, span) ←
    if d1.jd ≥ d2.jd then do
      let y := d1.year - d2.year
      let d2 := if y != 0 then Moment.computeDay { d2 with year := d1.year, hasDay := false } else d2
      let mo := d1.month - d2.month
      let (y, mo) := if mo < 0 then (y - 1, mo + 12) else (y, mo)
      let d2 := if mo != 0 then Moment.computeDay { d2 with month := d1.month, hasDay := false } else d2
      let (y, mo, d2) := Moment.backMonths 24 d1 y mo d2
      pure ('+', y, mo, d1.jd - d2.jd)
    else do
      let y := d2.year - d1.year
      let d2 := if y != 0 then Moment.computeDay { d2 with year := d1.year, hasDay := false } else d2
      let mo := d2.month - d1.month
      let (y, mo) := if mo < 0 then (y - 1, mo + 12) else (y, mo)
      let d2 := if mo != 0 then Moment.computeDay { d2 with month := d1.month, hasDay := false } else d2
      let (y, mo, d2) := Moment.forwardMonths 24 d1 y mo d2
      pure ('-', y, mo, d2.jd - d1.jd)
  let r := Moment.computeBoth { jd := span + 148699540800000, hasDay := true }
  pure (Printf.format "%s%04d-%02d-%02d %02d:%02d:%06.3f"
    [.text (String.singleton sign), .int y, .int mo, .int (r.day - 1), .int r.hour, .int r.minute,
     .real r.second])

/-- The arguments the date functions accept, by name; `none` for another name. -/
def calendarArity (name : String) (n : Nat) : Option Bool :=
  match name with
  | "date" | "time" | "datetime" | "julianday" | "unixepoch" | "strftime" => some true
  | "timediff" => some (n = 2)
  | "current_time" | "current_date" | "current_timestamp" => some (n = 0)
  | _ => none

/-- A date function's answer, by name; `none` for another name. -/
def applyCalendar (clock : Int) (name : String) (args : List SqlValue) : Option SqlValue :=
  let text (f : Moment → String) (args : List SqlValue) : SqlValue :=
    match momentOf clock args with
    | some m => .text (f m)
    | none => .null
  match name with
  | "date" => some (text (fun m => m.computeDate.dateText) args)
  | "time" => some (text (fun m => m.computeClock.clockText) args)
  | "datetime" => some (text (fun m => m.computeBoth.dateText ++ " " ++ m.computeBoth.clockText) args)
  | "current_date" => some (text (fun m => m.computeDate.dateText) [])
  | "current_time" => some (text (fun m => m.computeClock.clockText) [])
  | "current_timestamp" =>
    some (text (fun m => m.computeBoth.dateText ++ " " ++ m.computeBoth.clockText) [])
  | "julianday" =>
    some (match momentOf clock args with
      | some m => .real (floatOfInt m.jd / 86400000.0)
      | none => .null)
  | "unixepoch" =>
    some (match momentOf clock args with
      | some m =>
        if m.subsec then .real (floatOfInt (m.jd - 210866760000000) / 1000.0)
        else .int (m.jd.tdiv 1000 - 210866760000)
      | none => .null)
  | "strftime" =>
    some (match args with
      | [] | .null :: _ => .null
      | fmt :: rest =>
        match momentOf clock rest with
        | some m =>
          match m.computeBoth.strftime fmt.textD.toList with
          | some s => .text s
          | none => .null
        | none => .null)
  | "timediff" =>
    some (match args with
      | [a, b] =>
        match timediff clock a b with
        | some s => .text s
        | none => .null
      | _ => .null)
  | _ => none

end Relational

end CrateState
