import CrateState.Relational.FullText.Query

/-!
# Matching full-text queries

A row is indexed as the tokens of each column (none for a column kept out). A phrase is
found where its terms stand one after another in a column; a `NEAR` group keeps the
positions in a window where every phrase starts within its length and the distance before
the last start; a query holds as its connectives say.

* `bm25` scores a row by Okapi BM25, `k1 = 1.2`, `b = 0.75`: each phrase weighs by the
  rarity of rows holding it and how often it appears in the row (each appearance weighted
  by its column's weight, default 1), against the row's length relative to the average.
  The score is negated, so better rows sort first.
* `highlight` copies a column's text with each run of found phrases wrapped in the given
  marks, overlapping runs merged.
* `snippet` highlights the window of a given number of tokens holding the most distinct
  phrases, preferring windows starting a sentence, with the given ellipsis where the text is
  cut.
-/

namespace CrateState

namespace Relational

namespace FullText

/-- The tokens of each column of a row, as the table indexes them. -/
abbrev Document := List (List String)

/-- The tokens of a row: each column's text read by the tokenizer, none for a `NULL` or
for a column kept out of the index. -/
def indexDocument (tok : Tokenizer) (indexed : List Bool) (texts : List (Option String)) : Document :=
  texts.zipIdx.map fun (t, k) =>
    match t with
    | some s => if indexed.getD k true then (tok.tokens s).map (·.text) else []
    | none => []

def Term.fits (t : Term) (token : String) : Bool :=
  if t.leading then token.startsWith t.text else token == t.text

/-- Whether a column is among a group's columns. -/
def allowsColumn (cols : Option (List Nat)) (c : Nat) : Bool :=
  match cols with
  | none => true
  | some cs => cs.contains c

/-- The positions of a phrase in a row, as column and offset, in order. -/
def Phrase.positions (doc : Document) (cols : Option (List Nat)) (p : Phrase) : List (Nat × Nat) :=
  if p.terms.isEmpty then []
  else
    doc.zipIdx.flatMap fun (toks, c) =>
      if !allowsColumn cols c then []
      else
        (List.range toks.length).filterMap fun off =>
          let fits := p.terms.zipIdx.all fun (t, j) =>
            match toks[off + j]? with
            | some tok => t.fits tok
            | none => false
          if fits && (!p.initial || off == 0) then some (c, off) else none

/-- A position as one number: the column above the offset. -/
def positionKey (p : Nat × Nat) : Int := Int.ofNat (p.1 * 4294967296 + p.2)

def keyPosition (k : Int) : Nat × Nat := (k.toNat / 4294967296, k.toNat % 4294967296)

def endKey : Int := 4611686018427387904

/-- The position after a reader's current one. -/
def lookahead (r : List Int) : Int := (r.drop 1).headD endKey

/-- Brings one phrase's reader into the window ending at `iMax`: the reader moved past
the positions too early, the window's end moved to the reader's position if later, and
whether the reader already stood in the window; `none` when the reader runs out. -/
def alignReader (len dist : Nat) (iMax : Int) (r : List Int) : Option (List Int × Int × Bool) :=
  let iMin := iMax - len - dist
  match r with
  | [] => none
  | p :: _ =>
    if p < iMin || p > iMax then
      match r.dropWhile (· < iMin) with
      | [] => none
      | q :: more => some (q :: more, max iMax q, false)
    else some (r, iMax, true)

/-- One pass over the readers, each brought into the window in turn. -/
def alignPass (dist : Nat) : List (Nat × List Int) → Int → Option (List (List Int) × Int × Bool)
  | [], iMax => some ([], iMax, true)
  | (len, r) :: rest, iMax =>
    match alignReader len dist iMax r with
    | none => none
    | some (r', iMax', ok) =>
      match alignPass dist rest iMax' with
      | none => none
      | some (rs, iMax'', allOk) => some (r' :: rs, iMax'', ok && allOk)

/-- Passes over the readers until one pass finds them all in the window. -/
def alignAll (lens : List Nat) (dist : Nat) : Nat → List (List Int) → Int → Option (List (List Int))
  | 0, _, _ => none
  | fuel + 1, rs, iMax =>
    match alignPass dist (lens.zip rs) iMax with
    | none => none
    | some (rs', iMax', true) => let _ := iMax'; some rs'
    | some (rs', iMax', false) => alignAll lens dist fuel rs' iMax'

/-- The position of the reader with the nearest next position (the first of equals). -/
def nearestReader (rs : List (List Int)) : Nat :=
  (rs.zipIdx.foldl (fun (best : Int × Nat) (r, i) =>
    if lookahead r < best.1 then (lookahead r, i) else best) (lookahead (rs.headD []), 0)).2

/-- The positions of a `NEAR` group's phrases that take part in a match: windows are
found one after another, each reported position kept once, then the reader with the
nearest next position moves on, until a reader runs out. -/
def nearWindows (lens : List Nat) (dist : Nat) : Nat → List (List Int) → List (List Int) →
    List (List Int)
  | 0, _, outs => outs
  | fuel + 1, rs, outs =>
    match alignAll lens dist (rs.foldl (· + ·.length) 1) rs ((rs.headD []).headD endKey) with
    | none => outs
    | some rs' =>
      let outs' := (outs.zip rs').map fun (o, r) =>
        let p := r.headD endKey
        if o.getLast? == some p then o else o ++ [p]
      let k := nearestReader rs'
      match (rs'.getD k []).drop 1 with
      | [] => outs'
      | moved => nearWindows lens dist fuel (rs'.set k moved) outs'

/-- The positions of each phrase of a group in a row: all its positions for a group of
one phrase, those taking part in a match for a `NEAR` group. -/
def Near.instances (doc : Document) (n : Near) : List (List (Nat × Nat)) :=
  let none_ := n.phrases.map fun _ => ([] : List (Nat × Nat))
  if n.cleared then none_
  else
    let each := n.phrases.map (·.positions doc n.columns)
    match each with
    | [one] => [one]
    | _ =>
      if each.any (·.isEmpty) then none_
      else
        let keys := each.map (·.map positionKey)
        let lens := n.phrases.map (·.terms.length)
        let fuel := keys.foldl (· + ·.length) 1
        (nearWindows lens n.distance fuel keys (keys.map fun _ => [])).map (·.map keyPosition)

def Near.holds (doc : Document) (n : Near) : Bool :=
  !((n.instances doc).headD []).isEmpty

def Query.holds (doc : Document) : Query → Bool
  | .near n => n.holds doc
  | .and a b => a.holds doc && b.holds doc
  | .or a b => a.holds doc || b.holds doc
  | .not a b => a.holds doc && !b.holds doc

/-- The positions of each phrase of a query in a row, in the order the phrases were
written: those of a group that matches the row, none for the others. -/
def Query.phrasePositions (doc : Document) : Query → List (List (Nat × Nat))
  | .near n => if n.holds doc then n.instances doc else n.phrases.map fun _ => []
  | .and a b | .or a b | .not a b => a.phrasePositions doc ++ b.phrasePositions doc

/-- The appearances of a query's phrases in a row, as phrase, column and offset, in the
order of their positions (the earlier phrase first at one position). -/
def Query.appearances (doc : Document) (q : Query) : List (Nat × Nat × Nat) :=
  let all := (q.phrasePositions doc).zipIdx.flatMap fun (ps, i) => ps.map fun (c, o) => (i, c, o)
  all.mergeSort fun (i, c, o) (j, d, p) => c < d || (c == d && (o < p || (o == p && i ≤ j)))

/-- The number of terms of each phrase of a query. -/
def Query.phraseSizes (q : Query) : List Nat := q.groups.map (·.1.terms.length)

def Document.size (doc : Document) : Nat := doc.foldl (· + ·.length) 0

/-- The BM25 score of a row among the rows of its table, negated, each column's
appearances weighted by its weight (1 past the weights given). -/
def bm25 (rows : List Document) (doc : Document) (q : Query) (weights : List Float) : Float :=
  let k1 : Float := 1.2
  let b : Float := 0.75
  let negated : Float := -1.0
  let nRow : Int := rows.length
  let nToken := rows.foldl (· + ·.size) 0
  let avgdl := Float.ofNat nToken / Float.ofInt nRow
  let groups := q.groups
  let idfs := groups.map fun (p, n) =>
    let nHit : Int := (rows.filter fun d => Near.holds d { n with phrases := [p] }).length
    let idf := Float.log ((Float.ofInt (nRow - nHit) + 0.5) / (Float.ofInt nHit + 0.5))
    if idf ≤ 0.0 then 1e-6 else idf
  let apps := q.appearances doc
  let freqs := (List.range groups.length).map fun i =>
    apps.foldl (fun acc (ip, ic, _) => if ip == i then acc + weights.getD ic 1.0 else acc) 0.0
  let d := Float.ofNat doc.size
  let score := (idfs.zip freqs).foldl (fun s (idf, f) =>
    s + idf * ((f * (k1 + 1.0)) / (f + k1 * (1.0 - b + b * d / avgdl)))) 0.0
  negated * score

/-- The runs of found phrases in a column, as first and last token position, runs that
overlap merged. -/
def coalescedRuns (sizes : List Nat) (apps : List (Nat × Nat × Nat)) (col : Nat) : List (Int × Int) :=
  let inCol := apps.filter fun (_, c, _) => c == col
  let (runs, cur) := inCol.foldl (fun (acc : List (Int × Int) × Option (Int × Int)) (ip, _, io) =>
    let (runs, cur) := acc
    let iEnd : Int := Int.ofNat io - 1 + Int.ofNat (sizes.getD ip 0)
    match cur with
    | none => (runs, some (Int.ofNat io, iEnd))
    | some (s, e) =>
      if Int.ofNat io ≤ e then (runs, some (s, max e iEnd))
      else (runs ++ [(s, e)], some (Int.ofNat io, iEnd))) ([], none)
  runs ++ cur.toList

/-- The characters of a text from one index up to another. -/
def sliceChars (cs : List Char) (a b : Nat) : String := String.ofList ((cs.drop a).take (b - a))

/-- The state of highlighting: the text so far, how much of the input is copied, whether
a mark is open, and the runs still to mark. -/
structure Marking where
  /-- The text so far. -/
  out : String := ""
  /-- The index of the first input character not yet copied. -/
  copied : Nat := 0
  /-- Whether an opening mark awaits its closing one. -/
  isOpen : Bool := false
  /-- The runs still to mark, as first and last token position. -/
  runs : List (Int × Int)
  deriving Inhabited

/-- What marks and which tokens a highlighting uses: the opening and closing marks, if
any, and the window of token positions it is confined to (none for the whole text). -/
structure MarkStyle where
  /-- The opening mark. -/
  opening : Option String
  /-- The closing mark. -/
  closing : Option String
  /-- The first and last position of the window. -/
  window : Option (Nat × Nat) := none

/-- One token of the text passed through the highlighting. -/
def markToken (cs : List Char) (st : MarkStyle) (m : Marking) (iPos : Nat) (t : Token) : Marking :=
  let inWindow := match st.window with
    | some (a, z) => a ≤ iPos && iPos ≤ z
    | none => true
  if !inWindow then m
  else
    let m := match st.window with
      | some (a, _) => if a > 0 && iPos == a then { m with copied := t.start } else m
      | none => m
    let iStart : Int := (m.runs.head?.map (·.1)).getD (-1)
    let m := if m.isOpen && (iPos ≤ iStart || iStart < 0) && t.start > m.copied then
        { m with out := m.out ++ st.closing.getD "", isOpen := false }
      else m
    let m := if iStart == iPos && !m.isOpen then
        { m with out := m.out ++ sliceChars cs m.copied t.start ++ st.opening.getD "",
                 copied := t.start, isOpen := true }
      else m
    let iEnd : Int := (m.runs.head?.map (·.2)).getD (-1)
    let m := if iEnd == iPos then
        let m := if m.isOpen then m else { m with out := m.out ++ st.opening.getD "", isOpen := true }
        { m with out := m.out ++ sliceChars cs m.copied t.stop, copied := t.stop, runs := m.runs.drop 1 }
      else m
    match st.window with
    | some (_, z) =>
      if iPos == z then
        let m := if m.isOpen then
            let iStart : Int := (m.runs.head?.map (·.1)).getD (-1)
            let m := if iStart ≥ 0 && iPos ≥ iStart then
                { m with out := m.out ++ sliceChars cs m.copied t.stop, copied := t.stop }
              else m
            { m with out := m.out ++ st.closing.getD "", isOpen := false }
          else m
        { m with out := m.out ++ sliceChars cs m.copied t.stop, copied := t.stop }
      else m
    | none => m

/-- Passes a text's tokens through the highlighting. -/
def markTokens (cs : List Char) (st : MarkStyle) (m : Marking) (tokens : List Token) : Marking :=
  tokens.zipIdx.foldl (fun m (t, i) => markToken cs st m i t) m

/-- A column's text with every run of found phrases wrapped in the marks. -/
def highlight (tok : Tokenizer) (text : String) (runs : List (Int × Int))
    (opening closing : Option String) : String :=
  let cs := text.toList
  let m := markTokens cs { opening, closing } { runs } (tok.tokens text)
  let out := if m.isOpen then m.out ++ closing.getD "" else m.out
  out ++ sliceChars cs m.copied cs.length

/-- The positions of the tokens of a text that start a sentence: the first, and each one
after a full stop or colon and white space. -/
def sentenceStarts (text : String) (tokens : List Token) : List Nat :=
  let cs := text.toList
  tokens.zipIdx.filterMap fun (t, i) =>
    if i == 0 then some 0
    else
      let before := (cs.take t.start).reverse
      let spaces := before.takeWhile fun c => c == ' ' || c == '\t' || c == '\n' || c == '\r'
      match before.drop spaces.length with
      | c :: _ => if !spaces.isEmpty && (c == '.' || c == ':') then some i else none
      | [] => none

/-- The score of a window of `nToken` tokens from `iPos` of a column: 1000 for each
phrase's first appearance in it and 1 for each further one; with the window's start
moved so that the appearances it holds sit in its middle, within the column. -/
def windowScore (sizes : List Nat) (apps : List (Nat × Nat × Nat)) (nDocsize : Nat) (col : Nat)
    (iPos nToken : Int) : Int × Int :=
  let iEnd := iPos + nToken
  let (score, _, first, final) := apps.foldl (fun (acc : Int × List Nat × Int × Int) (ip, ic, io) =>
    let (score, seen, first, _) := acc
    if ic == col && Int.ofNat io ≥ iPos && Int.ofNat io < iEnd then
      (score + (if seen.contains ip then 1 else 1000), ip :: seen,
        (if first < 0 then Int.ofNat io else first), Int.ofNat io + Int.ofNat (sizes.getD ip 0))
    else acc) (0, [], -1, 0)
  let adj := first - Int.tdiv (nToken - (final - first)) 2
  let adj := if adj + nToken > Int.ofNat nDocsize then Int.ofNat nDocsize - nToken else adj
  (score, if adj < 0 then 0 else adj)

/-- The best window of a snippet: its column, first position and score, and the size of
its column (0 when no window scored). -/
structure Window where
  col : Nat
  /-- The first position. -/
  start : Int := 0
  score : Int := 0
  /-- The size of the column, in tokens. -/
  size : Nat := 0

/-- A snippet of a row: the window of `nToken` tokens holding the most phrases, from the
column `iCol` or, when it is negative, from any, highlighted, with the ellipsis where the
text is cut. `texts` are the row's column texts and `sizes` the phrases' sizes. -/
def snippet (tok : Tokenizer) (doc : Document) (texts : List (Option String)) (sizes : List Nat)
    (apps : List (Nat × Nat × Nat)) (iCol : Int) (opening closing ellipsis : String) (nToken : Int) :
    Option String :=
  let initial : Window := { col := if iCol ≥ 0 then iCol.toNat else 0 }
  let best := (List.range texts.length).foldl (fun (best : Window) i =>
    if iCol ≥ 0 && iCol != Int.ofNat i then best
    else
      let text := (texts.getD i none).getD ""
      let firsts := sentenceStarts text (tok.tokens text)
      let nDocsize := (doc.getD i []).length
      apps.foldl (fun (best : Window) (_, ic, io) =>
        if ic != i then best
        else
          let (score, adj) := windowScore sizes apps nDocsize i io nToken
          let best := if score > best.score then { col := i, start := adj, score, size := nDocsize } else best
          if !firsts.isEmpty && Int.ofNat nDocsize > nToken then
            let jj := ((List.range (firsts.length - 1)).find? fun j => firsts.getD (j + 1) 0 > io).getD
              (firsts.length - 1)
            let f := firsts.getD jj 0
            if f < io then
              let (s, _) := windowScore sizes apps nDocsize i f nToken
              let s := s + (if f == 0 then 120 else 100)
              if s > best.score then { col := i, start := f, score := s, size := nDocsize } else best
            else best
          else best) best) initial
  match texts.getD best.col none with
  | none => none
  | some text =>
    let nColSize := if best.size == 0 then (doc.getD best.col []).length else best.size
    let cs := text.toList
    let runs := (coalescedRuns sizes apps best.col).dropWhile fun (s, _) => s < best.start
    let rangeEnd := best.start + nToken - 1
    let lead := if best.start > 0 then ellipsis else ""
    let window : Option (Nat × Nat) := if rangeEnd < 0 then none else
      some (best.start.toNat, rangeEnd.toNat)
    let m := markTokens cs { opening, closing, window } { out := lead, runs } (tok.tokens text)
    let out := if m.isOpen then m.out ++ closing else m.out
    some (if rangeEnd ≥ Int.ofNat nColSize - 1 then out ++ sliceChars cs m.copied cs.length
      else out ++ ellipsis)

end FullText

end Relational

end CrateState
