import CrateState.Relational.FullText.Letters
import CrateState.Text.Bytes

/-!
# Tokenizers of full-text tables

A tokenizer cuts a text into tokens, each a folded word with the span it was read from; a
token's place in the list is the position phrase and `NEAR` queries count.

* `unicode61`, the default, reads runs of letters and numbers (by Unicode category, with
  ASCII and the exceptions the options name), folded to lower case, optionally without
  Latin diacritics (`1` strips letters with one, `2` with two as well). A combining
  diacritic inside a run stays in it.
* `ascii` reads runs of ASCII letters and digits and characters above ASCII, folding only
  ASCII upper case.
* `porter` stems another tokenizer's tokens by Porter's algorithm (`connected`,
  `connection`, `connecting` are one token).
* `trigram` makes a token of every three consecutive characters, for substring search.
-/

namespace CrateState

namespace Relational

namespace FullText

/-- A token: its folded text and the span of characters it was read from. -/
structure Token where
  /-- The folded text. -/
  text : String
  /-- The index of its first character. -/
  start : Nat
  /-- The index just past its last character. -/
  stop : Nat
  deriving Inhabited, BEq, Repr

/-- How a tokenizer reads text. -/
inductive Tokenizer where
  /-- Runs of letters and numbers: the ASCII characters that belong to tokens, the
  characters above ASCII whose class is the opposite of their category's, and how much
  of the diacritics folding strips. -/
  | unicode61 (asciiTokens exceptions : List Nat) (removeDiacritics : Nat)
  /-- Runs of the ASCII characters that belong to tokens and of any character above
  ASCII. -/
  | ascii (asciiTokens : List Nat)
  /-- Another tokenizer's tokens, stemmed. -/
  | porter (inner : Tokenizer)
  /-- Every three consecutive characters, folded to lower case when `fold`, with
  diacritics stripped when `strip`. -/
  | trigram (fold strip : Bool)
  deriving Inhabited, BEq, Repr

/-- The ASCII letters and digits. -/
def asciiAlnum : List Nat :=
  (List.range 128).filter fun c => (48 ≤ c && c ≤ 57) || (65 ≤ c && c ≤ 90) || (97 ≤ c && c ≤ 122)

def Tokenizer.standard : Tokenizer := .unicode61 asciiAlnum [] 1

/-- Whether a code point is one of the combining diacritics that continue a token. -/
def isDiacritic (c : Nat) : Bool := diacriticMarks.contains c

/-- A lower-case code point with its diacritic stripped: `0` for a combining diacritic,
the ASCII letter for a Latin letter with one diacritic, and, when `thorough`, for one
with two. -/
def stripDiacritic (c : Nat) (thorough : Bool) : Nat :=
  if isDiacritic c then 0
  else
    match plainLetters.find? (·.1 == c) with
    | some (_, base, twice) => if twice && !thorough then c else base.toNat
    | none => c

/-- A code point folded: lower case, then, when `removeDiacritics` is not `0`, without
diacritics (`0` for a diacritic itself). Only the Basic Multilingual Plane loses
diacritics. -/
def foldCode (c : Nat) (removeDiacritics : Nat) : Nat :=
  let l := lowerCode c
  if c < 128 || c ≥ 65536 || removeDiacritics == 0 then l
  else stripDiacritic l (removeDiacritics == 2)

/-- Whether a code point above ASCII belongs to `unicode61` tokens. -/
def isAlnumWith (exceptions : List Nat) (c : Nat) : Bool :=
  isAlnumCode c != exceptions.contains c

/-- Whether a character continues a `unicode61` token. -/
def continuesUnicode (asciiTokens exceptions : List Nat) (c : Nat) : Bool :=
  if c < 128 then asciiTokens.contains c else isAlnumWith exceptions c || isDiacritic c

/-- Reads the rest of a `unicode61` token: the folded characters kept (in reverse) and the
characters read. -/
def unicodeRun (asciiTokens exceptions : List Nat) (rd : Nat) :
    List Char → List Char → Nat → List Char × Nat × List Char
  | [], acc, k => (acc, k, [])
  | c :: rest, acc, k =>
    if continuesUnicode asciiTokens exceptions c.toNat then
      let f := foldCode c.toNat rd
      unicodeRun asciiTokens exceptions rd rest (if f == 0 then acc else Char.ofNat f :: acc) (k + 1)
    else (acc, k, c :: rest)

/-- The tokens of a text for `unicode61`, the first starting at character `i`, within a
budget of steps (one per token or separator read suffices). -/
def unicodeTokens (asciiTokens exceptions : List Nat) (rd : Nat) : Nat → List Char → Nat → List Token
  | 0, _, _ => []
  | _ + 1, [], _ => []
  | fuel + 1, c :: rest, i =>
    let starts := if c.toNat < 128 then asciiTokens.contains c.toNat else isAlnumWith exceptions c.toNat
    if starts then
      let f := foldCode c.toNat rd
      let (acc, k, after) := unicodeRun asciiTokens exceptions rd rest [Char.ofNat f] 0
      ⟨String.ofList acc.reverse, i, i + 1 + k⟩ :: unicodeTokens asciiTokens exceptions rd fuel after (i + 1 + k)
    else unicodeTokens asciiTokens exceptions rd fuel rest (i + 1)

/-- Whether a character belongs to an `ascii` token. -/
def inAsciiToken (asciiTokens : List Nat) (c : Char) : Bool :=
  c.toNat ≥ 128 || asciiTokens.contains c.toNat

/-- An ASCII upper-case letter in lower case; other characters unchanged. -/
def asciiLower (c : Char) : Char :=
  if 'A' ≤ c && c ≤ 'Z' then Char.ofNat (c.toNat + 32) else c

/-- The tokens of a text for `ascii`, the first starting at character `i`, within a
budget of steps. A token ends at a separator, which is passed over with it. -/
def asciiTokens (table : List Nat) : Nat → List Char → Nat → List Token
  | 0, _, _ => []
  | _ + 1, [], _ => []
  | fuel + 1, c :: rest, i =>
    if inAsciiToken table c then
      let run := rest.takeWhile (inAsciiToken table)
      let after := rest.drop run.length
      ⟨String.ofList ((c :: run).map asciiLower), i, i + 1 + run.length⟩ ::
        asciiTokens table fuel (after.drop 1) (i + 2 + run.length)
    else asciiTokens table fuel rest (i + 1)

/-! ## Porter's stemmer

The stemmer works on the bytes of a token, as the steps of Porter's algorithm say: a
step replaces the longest of its suffixes the word ends with, when the stem before it
meets the step's condition on its measure `m` (the number of vowel-consonant sequences);
a suffix found whose condition fails ends the step. `y` is a vowel after a consonant. -/

/-- Whether a byte is a vowel: `a e i o u`, and `y` when `yVowel`. -/
def isVowelByte (c : Nat) (yVowel : Bool) : Bool :=
  c == 97 || c == 101 || c == 105 || c == 111 || c == 117 || (yVowel && c == 121)

/-- The consonant flags of a word, each character's from the one before it. -/
def consonantFlags : List Nat → Bool → List Bool
  | [], _ => []
  | c :: rest, prevCons =>
    let cons := !isVowelByte c prevCons
    cons :: consonantFlags rest cons

/-- The length of the shortest prefix holding a vowel followed by a consonant, read
with the flags of a word that starts after a consonant when `prevCons`; `0` when there
is none. -/
def gobbleVowelConsonant (w : List Nat) (prevCons : Bool) : Nat :=
  let flags := consonantFlags w prevCons
  match flags.findIdx? (· == false) with
  | none => 0
  | some v =>
    match (flags.drop (v + 1)).findIdx? (· == true) with
    | none => 0
    | some c => v + 1 + c + 1

/-- The condition `m > 0`. -/
def measureAbove0 (w : List Nat) : Bool := gobbleVowelConsonant w false != 0

/-- The condition `m > 1`. -/
def measureAbove1 (w : List Nat) : Bool :=
  let n := gobbleVowelConsonant w false
  n != 0 && gobbleVowelConsonant (w.drop n) true != 0

/-- The condition `m = 1`. -/
def measureIs1 (w : List Nat) : Bool :=
  let n := gobbleVowelConsonant w false
  n != 0 && gobbleVowelConsonant (w.drop n) true == 0

/-- The condition `*o`: the stem ends consonant, vowel, consonant, the last not `w`, `x`
or `y`. -/
def endsCvc (w : List Nat) : Bool :=
  match w.getLast? with
  | none => false
  | some last =>
    if last == 119 || last == 120 || last == 121 then false
    else
      match (consonantFlags w false).reverse with
      | true :: false :: true :: _ => true
      | _ => false

/-- The condition `*v*`: the stem holds a vowel (`y` counting after the first
character). -/
def hasVowel (w : List Nat) : Bool :=
  w.zipIdx.any fun (c, i) => isVowelByte c (i > 0)

def asciiBytes (s : String) : List Nat := s.toList.map Char.toNat

/-- Applies the first rule of a step whose suffix the word ends with (leaving a stem of
at least one byte): the stem with the replacement when the stem meets the rule's
condition, the word unchanged otherwise; `none` when no suffix fits. -/
def applyRules (w : List Nat) : List (String × String × (List Nat → Bool)) → Option (List Nat)
  | [] => none
  | (suffix, repl, cond) :: rest =>
    let s := asciiBytes suffix
    if w.length > s.length && w.drop (w.length - s.length) == s then
      let stem := w.take (w.length - s.length)
      some (if cond stem then stem ++ asciiBytes repl else w)
    else applyRules w rest

/-- Step 1a: plurals. -/
def porterStep1a (w : List Nat) : List Nat :=
  let n := w.length
  if w.getLast? == some 115 then
    if w[n - 2]? == some 101 then
      if (n > 4 && w[n - 4]? == some 115 && w[n - 3]? == some 115) || (n > 3 && w[n - 3]? == some 105) then
        w.take (n - 2)
      else w.take (n - 1)
    else if w[n - 2]? != some 115 then w.take (n - 1)
    else w
  else w

/-- Step 1b: `-eed`, and `-ed` and `-ing` after a vowel; answers whether one of the last
two was removed. -/
def porterStep1b (w : List Nat) : List Nat × Bool :=
  if w.length > 3 && w.drop (w.length - 3) == asciiBytes "eed" then
    let stem := w.take (w.length - 3)
    (if measureAbove0 stem then stem ++ asciiBytes "ee" else w, false)
  else if w.length > 2 && w.drop (w.length - 2) == asciiBytes "ed" then
    let stem := w.take (w.length - 2)
    if hasVowel stem then (stem, true) else (w, false)
  else if w.length > 3 && w.drop (w.length - 3) == asciiBytes "ing" then
    let stem := w.take (w.length - 3)
    if hasVowel stem then (stem, true) else (w, false)
  else (w, false)

/-- The tidying after step 1b removed `-ed` or `-ing`: `-at`, `-bl` and `-iz` gain an
`e`; a doubled consonant other than `l`, `s` and `z` is undoubled; a short stem gains an
`e`. -/
def porterStep1bAfter (w : List Nat) : List Nat :=
  match applyRules w [("at", "ate", fun _ => true), ("bl", "ble", fun _ => true),
      ("iz", "ize", fun _ => true)] with
  | some w' => w'
  | none =>
    let n := w.length
    match w.getLast? with
    | none => w
    | some c =>
      if n ≥ 2 && !isVowelByte c false && c != 108 && c != 115 && c != 122 && w[n - 2]? == some c then
        w.take (n - 1)
      else if measureIs1 w && endsCvc w then w ++ [101]
      else w

/-- Step 1c: a final `y` after a vowel becomes `i`. -/
def porterStep1c (w : List Nat) : List Nat :=
  if w.getLast? == some 121 && hasVowel (w.take (w.length - 1)) then
    w.take (w.length - 1) ++ [105]
  else w

/-- Step 2: double suffixes to single ones, when `m > 0`. -/
def porterStep2 (w : List Nat) : List Nat :=
  (applyRules w
    [("ational", "ate", measureAbove0), ("tional", "tion", measureAbove0),
     ("enci", "ence", measureAbove0), ("anci", "ance", measureAbove0),
     ("izer", "ize", measureAbove0), ("logi", "log", measureAbove0),
     ("bli", "ble", measureAbove0), ("alli", "al", measureAbove0),
     ("entli", "ent", measureAbove0), ("eli", "e", measureAbove0),
     ("ousli", "ous", measureAbove0), ("ization", "ize", measureAbove0),
     ("ation", "ate", measureAbove0), ("ator", "ate", measureAbove0),
     ("alism", "al", measureAbove0), ("iveness", "ive", measureAbove0),
     ("fulness", "ful", measureAbove0), ("ousness", "ous", measureAbove0),
     ("aliti", "al", measureAbove0), ("iviti", "ive", measureAbove0),
     ("biliti", "ble", measureAbove0)]).getD w

/-- Step 3: `-ic-`, `-full`, `-ness` and the like, when `m > 0`. -/
def porterStep3 (w : List Nat) : List Nat :=
  (applyRules w
    [("ical", "ic", measureAbove0), ("ness", "", measureAbove0), ("icate", "ic", measureAbove0),
     ("iciti", "ic", measureAbove0), ("ful", "", measureAbove0), ("ative", "", measureAbove0),
     ("alize", "al", measureAbove0)]).getD w

/-- Whether a stem ends in `s` or `t` and has `m > 1`. -/
def sOrTAbove1 (w : List Nat) : Bool :=
  (w.getLast? == some 115 || w.getLast? == some 116) && measureAbove1 w

/-- Step 4: the last suffixes go, when `m > 1`. -/
def porterStep4 (w : List Nat) : List Nat :=
  (applyRules w
    [("al", "", measureAbove1), ("ance", "", measureAbove1), ("ence", "", measureAbove1),
     ("er", "", measureAbove1), ("ic", "", measureAbove1), ("able", "", measureAbove1),
     ("ible", "", measureAbove1), ("ant", "", measureAbove1), ("ement", "", measureAbove1),
     ("ment", "", measureAbove1), ("ent", "", measureAbove1), ("ion", "", sOrTAbove1),
     ("ou", "", measureAbove1), ("ism", "", measureAbove1), ("ate", "", measureAbove1),
     ("iti", "", measureAbove1), ("ous", "", measureAbove1), ("ive", "", measureAbove1),
     ("ize", "", measureAbove1)]).getD w

/-- Step 5: a final `e` goes when `m > 1`, or when `m = 1` and the stem is not `*o`;
a final `ll` loses an `l` when `m > 1`. -/
def porterStep5 (w : List Nat) : List Nat :=
  let w :=
    if w.getLast? == some 101 then
      let stem := w.take (w.length - 1)
      if measureAbove1 stem || (measureIs1 stem && !endsCvc stem) then stem else w
    else w
  let n := w.length
  if n > 1 && w.getLast? == some 108 && w[n - 2]? == some 108 && measureAbove1 (w.take (n - 1)) then
    w.take (n - 1)
  else w

/-- The Porter stem of a word's bytes; words shorter than three bytes or longer than 64
are left as they are. -/
def porterStem (w : List Nat) : List Nat :=
  if w.length < 3 || w.length > 64 then w
  else
    let w := porterStep1a w
    let (w, removed) := porterStep1b w
    let w := if removed then porterStep1bAfter w else w
    let w := porterStep1c w
    porterStep5 (porterStep4 (porterStep3 (porterStep2 w)))

def stemToken (t : Token) : Token :=
  let bytes := (Bytes.ofText t.text).map UInt8.toNat
  { t with text := Bytes.toText ((porterStem bytes).map Nat.toUInt8) }

/-- The characters a trigram tokenizer keeps of a text, each with its index: folded when
asked, and without the ones folding drops. -/
def trigramChars (fold strip : Bool) (cs : List Char) : List (Char × Nat) :=
  cs.zipIdx.filterMap fun (c, i) =>
    let code := if fold then foldCode c.toNat (if strip then 2 else 0) else c.toNat
    if code == 0 then none else some (Char.ofNat code, i)

/-- The trigrams of the kept characters: every three consecutive ones, spanning to the
next kept character or the end of the text. -/
def trigramTokens (end_ : Nat) : List (Char × Nat) → List Token
  | a :: b :: c :: rest =>
    let stop := match rest with
      | (_, j) :: _ => j
      | [] => end_
    ⟨String.ofList [a.1, b.1, c.1], a.2, stop⟩ :: trigramTokens end_ (b :: c :: rest)
  | _ => []

def Tokenizer.tokens : Tokenizer → String → List Token
  | .unicode61 a e rd, s => unicodeTokens a e rd (s.length + 1) s.toList 0
  | .ascii a, s => asciiTokens a (s.length + 1) s.toList 0
  | .porter inner, s => (inner.tokens s).map stemToken
  | .trigram fold strip, s => trigramTokens s.length (trigramChars fold strip s.toList)

end FullText

end Relational

end CrateState
