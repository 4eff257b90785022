import CrateState.Relational.Document.Scalar

/-!
# Checking a binary document

`json_valid(x, 8)` and `json_error_position(x)` look through a blob that looks like a binary
document and report the first byte breaking its rules, from 1 (0 for none):

* `null`, `true` and `false` have no payload;
* an integer is digits after an optional `-`; a hexadecimal one `0x` and hex digits;
* a real has digits, at most one point and one exponent (optional sign, then a digit). A
  standard real may not start with a point, nor with `0` unless a point or exponent
  follows, and its point needs a digit after it;
* a string's bytes are printable; a standard string escapes only `" \ / b f n r t` and
  `uXXXX`, a JSON5 string may hold controls, quotes and any escape that decodes;
* an array's elements and an object's labels and values fill the payload exactly, every
  label is a string with a value, at most 1000 deep.
-/

namespace CrateState

namespace Relational

namespace Document

/-- The header at an offset of a blob: its length and the payload length, when the blob
holds both. -/
def headerAt (z : Array UInt8) (i : Nat) : Option (Nat × Nat) :=
  let at_ (k : Nat) : Nat := (z.getD k 0).toNat
  if i ≥ z.size then none
  else
    let x := at_ i / 16
    let found : Option (Nat × Nat) :=
      if x ≤ 11 then some (1, x)
      else if x = 12 then if i + 1 ≥ z.size then none else some (2, at_ (i + 1))
      else if x = 13 then
        if i + 2 ≥ z.size then none else some (3, at_ (i + 1) * 256 + at_ (i + 2))
      else if x = 14 then
        if i + 4 ≥ z.size then none
        else some (5, ((at_ (i + 1) * 256 + at_ (i + 2)) * 256 + at_ (i + 3)) * 256 + at_ (i + 4))
      else if i + 8 ≥ z.size || at_ (i + 1) != 0 || at_ (i + 2) != 0 || at_ (i + 3) != 0 ||
          at_ (i + 4) != 0 then none
      else some (9, ((at_ (i + 5) * 256 + at_ (i + 6)) * 256 + at_ (i + 7)) * 256 + at_ (i + 8))
    match found with
    | some (n, sz) => if i + n + sz > z.size then none else some (n, sz)
    | none => none

/-- The first offset in `[j, k)` whose byte fails a test, counted from 1; 0 when all pass. -/
def firstFailing (z : Array UInt8) (ok : UInt8 → Bool) : Nat → Nat → Nat → Nat
  | 0, _, _ => 0
  | fuel + 1, j, k => if j ≥ k then 0 else if ok (z.getD j 0) then firstFailing z ok fuel (j + 1) k else j + 1

/-- Checks the digits, point and exponent of a real from `j` to `k`, given what was seen
(0 nothing, 1 a point, 2 an exponent); `strict` for a standard real. -/
def checkRealTail (z : Array UInt8) (strict : Bool) (i : Nat) : Nat → Nat → Nat → Nat → Nat
  | 0, _, _, _ => i + 1
  | fuel + 1, j, k, seen =>
    if j ≥ k then (if seen == 0 then i + 1 else 0)
    else
      let b := z.getD j 0
      if isDigit b then checkRealTail z strict i fuel (j + 1) k seen
      else if b == 46 then
        if seen > 0 then j + 1
        else if strict && (j + 1 == k || !isDigit (z.getD (j + 1) 0)) then j + 1
        else checkRealTail z strict i fuel (j + 1) k 1
      else if b == 101 || b == 69 then
        if seen == 2 || j + 1 == k then j + 1
        else
          let s := z.getD (j + 1) 0
          if s == 43 || s == 45 then
            if j + 2 == k then j + 2 else checkRealTail z strict i fuel (j + 2) k 2
          else checkRealTail z strict i fuel (j + 1) k 2
      else j + 1

/-- Checks the payload of a real from `i`'s header: `n` header bytes, `sz` payload bytes. -/
def checkReal (z : Array UInt8) (strict : Bool) (i n sz : Nat) : Nat :=
  let at_ (k : Nat) : UInt8 := z.getD k 0
  let k := i + n + sz
  if sz < 2 then i + 1
  else
    let j := i + n
    let (j, short) := if at_ j == 45 then (j + 1, decide (sz < 3)) else (j, false)
    if short then i + 1
    else if at_ j == 46 then
      if strict || !isDigit (at_ (j + 1)) then j + 1
      else checkRealTail z strict i (k + 1) (j + 2) k 1
    else if at_ j == 48 && strict then
      if j + 3 > k then j + 1
      else if !(at_ (j + 1) == 46 || at_ (j + 1) == 101 || at_ (j + 1) == 69) then j + 1
      else checkRealTail z strict i (k + 1) (j + 1) k 0
    else checkRealTail z strict i (k + 1) j k 0

/-- Whether four bytes at an offset are hexadecimal digits. -/
def hexAt (z : Array UInt8) (j : Nat) : Bool :=
  (List.range 4).all fun d => isHexDigit (z.getD (j + d) 0)

/-- Checks the bytes of an escaped string from `j` to `k`; `json5` for a JSON5 string. -/
def checkEscaped (z : Array UInt8) (json5 : Bool) : Nat → Nat → Nat → Nat
  | 0, _, _ => 0
  | fuel + 1, j, k =>
    if j ≥ k then 0
    else
      let b := z.getD j 0
      if b ≥ 32 && b != 34 && b != 92 then checkEscaped z json5 fuel (j + 1) k
      else if b == 34 || b < 32 then
        if json5 then checkEscaped z json5 fuel (j + 1) k else j + 1
      else if j + 1 ≥ k then j + 1
      else
        let e := z.getD (j + 1) 0
        if [34, 92, 47, 98, 102, 110, 114, 116, 0].contains e then checkEscaped z json5 fuel (j + 2) k
        else if e == 117 then
          if j + 5 ≥ k || !hexAt z (j + 2) then j + 1 else checkEscaped z json5 fuel (j + 2) k
        else if !json5 then j + 1
        else
          let bs := ((z.extract j k).toList)
          let (c, size) := unescapeOne bs.length bs
          if c == invalidCode then j + 1 else checkEscaped z json5 fuel (j + size) k

mutual

/-- Checks the element at `i`, which must end at `iEnd`, at a depth; 0 when it keeps the
rules, otherwise the offset of the first fault counted from 1. -/
def checkElement (z : Array UInt8) : Nat → Nat → Nat → Nat → Nat
  | 0, i, _, _ => i + 1
  | fuel + 1, i, iEnd, depth =>
    if depth > 1000 then i + 1
    else
      match headerAt z i with
      | none => i + 1
      | some (n, sz) =>
        if i + n + sz != iEnd then i + 1
        else
          let at_ (k : Nat) : UInt8 := z.getD k 0
          let j := i + n
          let k := j + sz
          match (at_ i).toNat % 16 with
          | 0 | 1 | 2 => if n + sz == 1 then 0 else i + 1
          | 3 =>
            if sz < 1 then i + 1
            else if at_ j == 45 then
              if sz < 2 then i + 1 else firstFailing z isDigit sz (j + 1) k
            else firstFailing z isDigit sz j k
          | 4 =>
            if sz < 3 then i + 1
            else
              let (j, short) := if at_ j == 45 then (j + 1, decide (sz < 4)) else (j, false)
              if short then i + 1
              else if at_ j != 48 then i + 1
              else if at_ (j + 1) != 120 && at_ (j + 1) != 88 then j + 2
              else firstFailing z isHexDigit sz (j + 2) k
          | 5 => checkReal z true i n sz
          | 6 => checkReal z false i n sz
          | 7 => firstFailing z (fun b => b ≥ 32 && b != 34 && b != 92) sz j k
          | 8 => checkEscaped z false (sz + 1) j k
          | 9 => checkEscaped z true (sz + 1) j k
          | 10 => 0
          | 11 => checkChildren z fuel j k depth false 0
          | 12 => checkChildren z fuel j k depth true 0
          | _ => i + 1

/-- Checks the children of a container from `j` to `k`; in an object every other child
is a label, which must be a string, and the last label needs a value. -/
def checkChildren (z : Array UInt8) : Nat → Nat → Nat → Nat → Bool → Nat → Nat
  | 0, j, _, _, _, _ => j + 1
  | fuel + 1, j, k, depth, isObject, count =>
    if j ≥ k then (if isObject && count % 2 == 1 then j + 1 else 0)
    else
      match headerAt z j with
      | none => j + 1
      | some (n, sz) =>
        if j + n + sz > k then j + 1
        else if isObject && count % 2 == 0 &&
            !(7 ≤ (z.getD j 0).toNat % 16 && (z.getD j 0).toNat % 16 ≤ 10) then j + 1
        else
          let sub := checkElement z fuel j (j + n + sz) (depth + 1)
          if sub != 0 then sub else checkChildren z fuel (j + n + sz) k depth isObject (count + 1)

end

/-- Checks a whole blob as one binary document. -/
def checkBinary (bs : List UInt8) : Nat :=
  let z := bs.toArray
  checkElement z (2 * z.size + 2) 0 z.size 1

end Document

end Relational

end CrateState
