import Mathlib
import CrateState.Json.Decode
import CrateState.Json.Writer

/-!
# Written JSON reads back

`Json.render` writes a value as text and the typed readers (`Codec`) read text back: what
the writer writes, the readers read back to what was written, stopping right after it.

* Strings (`readString_quote`): every character comes back, escaped ones included (quote,
  backslash, short escapes, other controls as `\u00xx`). The reader's fuel is the text's
  length, and each written character takes at least one of it.
* Whole numbers (`int64_reads_int`): a signed 64-bit number's digits, with a minus when
  negative, read back as that number, up to the next character that is no digit, point or
  exponent.
* Records (`record_reads_obj`): an object whose members each name a field once, with values
  the fields read back, reads to the record the fields build if every required field is
  there.
-/

namespace CrateState

namespace Json

/-! ### Characters -/

theorem isDigit_iff {c : Char} : isDigit c = true ↔ 48 ≤ c.toNat ∧ c.toNat ≤ 57 := by
  simp only [isDigit, Bool.and_eq_true, decide_eq_true_eq, Char.le_def, UInt32.le_iff_toNat_le,
    Char.toNat_val]
  rfl

theorem isBlank_of_isDigit {c : Char} (h : isDigit c = true) : isBlank c = false := by
  have digit := isDigit_iff.mp h
  have ne : ∀ d : Char, d.toNat < 48 → c ≠ d := fun d hd same => by subst same; omega
  simp [isBlank, ne ' ' (by decide), ne '\n' (by decide), ne '\t' (by decide), ne '\r' (by decide)]

theorem skipWs_of_not_blank {c : Char} (hc : isBlank c = false) (rest : List Char) (p : Pos) :
    Cursor.skipWs ⟨c :: rest, p⟩ = ⟨c :: rest, p⟩ := by
  simp [Cursor.skipWs, skipBlanks, hc]

/-! ### Strings -/

theorem byteCount_ge (l : List Char) (k : Nat) : k ≤ l.foldl (fun n c => n + c.utf8Size) k := by
  induction l generalizing k with
  | nil => exact Nat.le_refl k
  | cons c l ih => exact Nat.le_trans (Nat.le_add_right k _) (ih _)

theorem readHex4_ascii {a b c d : Char} (ha : a.utf8Size = 1) (hb : b.utf8Size = 1)
    (hc : c.utf8Size = 1) (hd : d.utf8Size = 1) {v : Nat} (hv : hex4 [a, b, c, d] = some v)
    (rest : List Char) (p : Pos) :
    ∃ p', readHex4 ⟨a :: b :: c :: d :: rest, p⟩ = .ok (v, ⟨rest, p'⟩) := by
  have four : ¬ byteCount (a :: b :: c :: d :: rest) < 4 := by
    have := byteCount_ge rest (0 + a.utf8Size + b.utf8Size + c.utf8Size + d.utf8Size)
    simp only [byteCount, List.foldl_cons]
    omega
  have done : ∀ (cs : List Char) (q : Pos) (acc : List Char),
      readHex4.take cs q 0 acc = (cs, q, acc.reverse) := by
    intro cs q acc
    cases cs <;> rfl
  simp only [readHex4, if_neg four, readHex4.take, ha, hb, hc, hd, done]
  simp [hv]

theorem hex4_control : ∀ n < 0x20, hex4 ['0', '0', hexLower (n / 16), hexLower (n % 16)] = some n := by
  decide

theorem utf8Size_hexLower : ∀ n < 16, (hexLower n).utf8Size = 1 := by
  decide

theorem readUnicodeEscape_control {c : Char} (hc : c.toNat < 0x20) (rest : List Char) (p : Pos) :
    ∃ p', readUnicodeEscape
        ⟨'0' :: '0' :: hexLower (c.toNat / 16) :: hexLower (c.toNat % 16) :: rest, p⟩ =
      .ok (c, ⟨rest, p'⟩) := by
  obtain ⟨p', hex⟩ := readHex4_ascii rfl rfl (utf8Size_hexLower _ (by omega))
    (utf8Size_hexLower _ (Nat.mod_lt _ (by decide))) (hex4_control _ hc) rest p
  refine ⟨p', ?_⟩
  -- the value is below the surrogates, so it is the character itself
  have low : ¬ (0xDC00 ≤ c.toNat ∧ c.toNat ≤ 0xDFFF) := by omega
  have plain : c.toNat < 0xD800 ∨ c.toNat > 0xDBFF := by omega
  simp [readUnicodeEscape, hex, bind, Except.bind, low, plain, pure, Except.pure]

theorem readString_go_plain (fuel : Nat) {c : Char} (hq : c ≠ '"') (hb : c ≠ '\\')
    (hc : 0x20 ≤ c.toNat) (rest : List Char) (p : Pos) (acc : List Char) :
    readString.go (fuel + 1) ⟨c :: rest, p⟩ acc = readString.go fuel ⟨rest, p.after c⟩ (c :: acc) := by
  simp only [readString.go]
  split
  next low => omega
  next => rfl

theorem readString_go_escapeChar (fuel : Nat) (c : Char) (rest : List Char) (p : Pos)
    (acc : List Char) :
    ∃ p', readString.go (fuel + 1) ⟨escapeChar c ++ rest, p⟩ acc =
      readString.go fuel ⟨rest, p'⟩ (c :: acc) := by
  unfold escapeChar
  split_ifs with hq hb hn hr ht hbs hf hctl
  · subst hq; exact ⟨_, rfl⟩
  · subst hb; exact ⟨_, rfl⟩
  · subst hn; exact ⟨_, rfl⟩
  · subst hr; exact ⟨_, rfl⟩
  · subst ht; exact ⟨_, rfl⟩
  · subst hbs; exact ⟨_, rfl⟩
  · subst hf; exact ⟨_, rfl⟩
  · obtain ⟨p', hu⟩ := readUnicodeEscape_control hctl rest _
    refine ⟨p', ?_⟩
    simp only [List.cons_append, List.nil_append, readString.go, Cursor.eat]
    rw [hu]
  · exact ⟨_, readString_go_plain fuel hq hb (by omega) rest p acc⟩

/-- Written characters read back, one unit of fuel each, up to the closing quote. -/
theorem readString_go_escaped (cs : List Char) : ∀ (fuel : Nat), cs.length < fuel →
    ∀ (rest : List Char) (p : Pos) (acc : List Char),
      ∃ p', readString.go fuel ⟨cs.flatMap escapeChar ++ '"' :: rest, p⟩ acc =
        .ok (String.ofList (acc.reverse ++ cs), ⟨rest, p'⟩) := by
  induction cs with
  | nil =>
    intro fuel hf rest p acc
    obtain ⟨fuel, rfl⟩ := Nat.exists_eq_add_one_of_ne_zero (Nat.pos_iff_ne_zero.mp hf)
    exact ⟨p.after '"', by simp [readString.go, Cursor.eat]⟩
  | cons c cs ih =>
    intro fuel hf rest p acc
    obtain ⟨fuel, rfl⟩ :=
      Nat.exists_eq_add_one_of_ne_zero (Nat.pos_iff_ne_zero.mp (Nat.zero_lt_of_lt hf))
    obtain ⟨p₁, step⟩ := readString_go_escapeChar fuel c (cs.flatMap escapeChar ++ '"' :: rest) p acc
    obtain ⟨p₂, more⟩ := ih fuel (by simpa using hf) rest p₁ (c :: acc)
    refine ⟨p₂, ?_⟩
    rw [List.flatMap_cons, List.append_assoc, step, more]
    simp

theorem length_le_flatMap_escapeChar (cs : List Char) :
    cs.length ≤ (cs.flatMap escapeChar).length := by
  induction cs with
  | nil => simp
  | cons c cs ih =>
    have : 1 ≤ (escapeChar c).length := by
      unfold escapeChar
      split_ifs <;> simp
    simp only [List.flatMap_cons, List.length_append, List.length_cons]
    omega

/-- **A written string reads back.** After its opening quote, the text of a string is read
to the string itself, up to and including the closing quote, whatever follows. -/
theorem readString_quote (s : String) (rest : List Char) (p : Pos) :
    ∃ p', readString ⟨s.toList.flatMap escapeChar ++ '"' :: rest, p⟩ = .ok (s, ⟨rest, p'⟩) := by
  have fuel : s.toList.length < (s.toList.flatMap escapeChar ++ '"' :: rest).length + 1 := by
    have := length_le_flatMap_escapeChar s.toList
    simp only [List.length_append, List.length_cons]
    omega
  obtain ⟨p', h⟩ := readString_go_escaped s.toList _ fuel rest p []
  refine ⟨p', ?_⟩
  rw [readString, h]
  simp

theorem toList_quote (s : String) :
    (quote s).toList = '"' :: (s.toList.flatMap escapeChar ++ ['"']) := by
  simp [quote]

/-! ### Whole numbers -/

theorem le_ofDigitChars (l : List Char) (init : Nat) : init ≤ Nat.ofDigitChars 10 l init := by
  rw [Nat.ofDigitChars_eq_ofDigitChars_zero]
  exact Nat.le_add_right_of_le (Nat.le_mul_of_pos_left init (Nat.pow_pos (by decide)))

/-- Digits read one by one add up to their value, as long as no prefix passes the largest
significand. -/
theorem readNumber_digits_loop : ∀ (ds : List Char), (∀ d ∈ ds, isDigit d) →
    ∀ (rest : List Char), (∀ c ∈ rest.head?, isDigit c = false) → ∀ (p : Pos) (sig : Nat),
    Nat.ofDigitChars 10 ds sig ≤ maxSignificand →
    ∃ p', readNumber.digits (ds ++ rest) p sig = .inl (rest, p', Nat.ofDigitChars 10 ds sig)
  | [], _, rest, hr, p, sig, _ => by
    cases rest with
    | nil => exact ⟨p, rfl⟩
    | cons c cs =>
      have : isDigit c = false := hr c rfl
      exact ⟨p, by simp [readNumber.digits, this]⟩
  | d :: ds, hd, rest, hr, p, sig, hmax => by
    have digit : isDigit d := hd d List.mem_cons_self
    rw [Nat.ofDigitChars_cons] at hmax ⊢
    -- the value so far is at most the whole value, so it does not overflow
    have fits : ¬ sig * 10 + digitVal d > maxSignificand := by
      have := le_ofDigitChars ds (10 * sig + (d.toNat - '0'.toNat))
      simp only [digitVal]
      simp only [Char.reduceToNat] at this hmax
      omega
    obtain ⟨p', more⟩ := readNumber_digits_loop ds (fun x hx => hd x (List.mem_cons_of_mem _ hx))
      rest hr (p.after d) _ hmax
    refine ⟨p', ?_⟩
    simp only [List.cons_append, readNumber.digits, digit, if_true, if_neg fits]
    rw [show sig * 10 + digitVal d = 10 * sig + (d.toNat - '0'.toNat) by simp [digitVal]; omega]
    exact more

theorem head_toDigits_ne_zero : ∀ n, 0 < n → (Nat.toDigits 10 n).head? ≠ some '0'
  | n, pos => by
    by_cases small : n < 10
    · rw [Nat.toDigits_of_lt_base small]
      simpa using Nat.pos_iff_ne_zero.mp pos
    · rw [Nat.toDigits_of_base_le (by decide) (by omega), List.head?_append,
        List.head?_eq_some_head Nat.toDigits_ne_nil]
      have := head_toDigits_ne_zero (n / 10) (by omega)
      rw [List.head?_eq_some_head Nat.toDigits_ne_nil] at this
      simpa using this

theorem isDigit_of_mem_toDigits {n : Nat} {c : Char} (h : c ∈ Nat.toDigits 10 n) : isDigit c :=
  Nat.isDigit_of_mem_toDigits (by decide) (by decide) h

theorem readNumber_toDigits (n : Nat) (hn : n ≤ maxSignificand) (positive : Bool)
    (rest : List Char) (hr : ∀ c ∈ rest.head?, isDigit c = false) (p : Pos) :
    ∃ p', readNumber ⟨Nat.toDigits 10 n ++ rest, p⟩ positive = finishNumber ⟨rest, p'⟩ positive n := by
  cases n with
  | zero =>
    refine ⟨p.after '0', ?_⟩
    cases rest with
    | nil => rfl
    | cons c cs =>
      have : isDigit c = false := hr c rfl
      simp [readNumber, Nat.toDigits_zero, Cursor.eat, Cursor.peek, this]
  | succ m =>
    obtain ⟨d, ds, hds⟩ := List.exists_cons_of_ne_nil (Nat.toDigits_ne_nil (n := m + 1) (b := 10))
    -- the first digit is not a zero, so the digits are read one by one
    have lead : d ≠ '0' := by
      have := head_toDigits_ne_zero (m + 1) (Nat.succ_pos m)
      rw [hds] at this
      simpa using this
    have digit : isDigit d := isDigit_of_mem_toDigits (hds ▸ List.mem_cons_self)
    have value : Nat.ofDigitChars 10 ds (digitVal d) = m + 1 := by
      have := Nat.ofDigitChars_ten_toDigits (n := m + 1)
      rw [hds, Nat.ofDigitChars_cons] at this
      simpa [digitVal] using this
    obtain ⟨p', loop⟩ := readNumber_digits_loop ds
      (fun x hx => isDigit_of_mem_toDigits (hds ▸ List.mem_cons_of_mem _ hx)) rest hr (p.after d)
      (digitVal d) (value ▸ hn)
    refine ⟨p', ?_⟩
    rw [hds, List.cons_append]
    simp only [readNumber, digit, Bool.not_true, Bool.false_eq_true, if_false, Cursor.eat]
    rw [loop, value]

/-- After a whole number, a text that goes on with no digit, point or exponent. -/
def EndsNumber (rest : List Char) : Prop :=
  ∀ c ∈ rest.head?, isDigit c = false ∧ c ≠ '.' ∧ c ≠ 'e' ∧ c ≠ 'E'

theorem finishNumber_whole {rest : List Char} (hr : EndsNumber rest) (p : Pos) (positive : Bool)
    (n : Nat) :
    finishNumber ⟨rest, p⟩ positive n =
      if positive then .ok (.nat n, ⟨rest, p⟩)
      else if n = 0 ∨ n > Nat.pow 2 63 then .ok (.float (-(Float.ofNat n)), ⟨rest, p⟩)
      else .ok (.neg (-(n : Int)), ⟨rest, p⟩) := by
  cases rest with
  | nil => rfl
  | cons c cs =>
    obtain ⟨-, point, e, E⟩ := hr c rfl
    simp only [finishNumber, Cursor.peek, List.head?_cons]
    split <;> simp_all

/-- **A written signed 64-bit number reads back**, whatever follows that does not go on
with the number. -/
theorem int64_reads_int {i : Int} (lo : -2 ^ 63 ≤ i) (hi : i < 2 ^ 63) {rest : List Char}
    (hr : EndsNumber rest) (p : Pos) :
    ∃ p', Codec.int64.text ⟨(render (Json.int i)).toList ++ rest, p⟩ = .ok (i, ⟨rest, p'⟩) := by
  have ends : ∀ c ∈ rest.head?, isDigit c = false := fun c hc => (hr c hc).1
  by_cases sign : 0 ≤ i
  · obtain ⟨n, rfl⟩ := Int.eq_ofNat_of_zero_le sign
    have text : (render (Json.int n)).toList = Nat.toDigits 10 n := by
      simp [Json.int, render, numberText, Nat.toList_repr]
    obtain ⟨d, ds, hds⟩ := List.exists_cons_of_ne_nil (Nat.toDigits_ne_nil (n := n) (b := 10))
    have digit : isDigit d := isDigit_of_mem_toDigits (hds ▸ List.mem_cons_self)
    have minus : d ≠ '-' := by rintro rfl; exact absurd digit (by decide)
    obtain ⟨p', read⟩ :=
      readNumber_toDigits n (by simp only [maxSignificand, Nat.pow_eq]; omega) true rest ends p
    refine ⟨p', ?_⟩
    rw [hds, List.cons_append] at read
    have small : n < Nat.pow 2 63 := by simp only [Nat.pow_eq]; omega
    rw [text, hds, List.cons_append]
    simp only [Codec.int64, Codec.numberText, skipWs_of_not_blank (isBlank_of_isDigit digit),
      Cursor.peek, List.head?_cons, digit, if_true]
    rw [read, finishNumber_whole hr]
    simp [placed, small, Except.map]
  · -- a negative number is a minus sign and the digits of its magnitude
    obtain ⟨m, hm⟩ :=
      Int.eq_ofNat_of_zero_le (Int.le_of_lt (Int.neg_pos_of_neg (Int.lt_of_not_ge sign)))
    have hi : i = -(m : Int) := by omega
    subst hi
    have pos : m ≠ 0 := by omega
    have text : (render (Json.int (-(m : Int)))).toList = '-' :: Nat.toDigits 10 m := by
      simp [Json.int, pos, render, numberText, Int.repr_eq_if, Nat.toList_repr]
    have nonzero : ¬ (m = 0 ∨ m > Nat.pow 2 63) := by simp only [Nat.pow_eq]; omega
    obtain ⟨p', read⟩ := readNumber_toDigits m (by simp only [maxSignificand, Nat.pow_eq]; omega)
      false rest ends (p.after '-')
    refine ⟨p', ?_⟩
    rw [text, List.cons_append]
    simp only [Codec.int64, Codec.numberText, skipWs_of_not_blank (by decide : isBlank '-' = false),
      Cursor.peek, List.head?_cons, Cursor.eat]
    rw [read, finishNumber_whole hr]
    simp [placed, nonzero, Except.map]

/-! ### Values read by codecs -/

/-- After a value inside an object: the comma before the next member, or the closing brace. -/
def EndsMember (rest : List Char) : Prop := rest.head? = some ',' ∨ rest.head? = some '}'

theorem EndsMember.endsNumber {rest : List Char} (h : EndsMember rest) : EndsNumber rest := by
  rcases h with h | h <;> · intro c hc; rw [h] at hc; cases hc; decide

theorem render_str_append (s : String) (rest : List Char) :
    (render (.str s)).toList ++ rest = '"' :: (s.toList.flatMap escapeChar ++ '"' :: rest) := by
  simp [render, toList_quote]

/-- A codec reads the text of `v` back as `a`, and stops right after it, inside an object. -/
def Codec.ReadsBack {α : Type} (c : Codec α) (v : Json) (a : α) : Prop :=
  ∀ rest, EndsMember rest → ∀ p, ∃ p', c.text ⟨(render v).toList ++ rest, p⟩ = .ok (a, ⟨rest, p'⟩)

theorem Codec.checkedString_reads {α : Type} {exp : String} {check : String → Except Error α}
    {s : String} {a : α} (h : check s = .ok a) : (Codec.checkedString exp check).ReadsBack (.str s) a := by
  intro rest _ p
  obtain ⟨p', hs⟩ := readString_quote s rest (p.after '"')
  refine ⟨p', ?_⟩
  rw [render_str_append]
  simp only [Codec.checkedString, skipWs_of_not_blank (by decide : isBlank '"' = false), Cursor.peek,
    List.head?_cons, Cursor.eat]
  rw [hs]
  simp [placed, h, Except.map]

theorem Codec.string_reads (s : String) : Codec.string.ReadsBack (.str s) s :=
  Codec.checkedString_reads rfl

theorem Codec.option_reads {α : Type} {c : Codec α} {s : String} {a : α}
    (h : c.ReadsBack (.str s) a) : (Codec.option c).ReadsBack (.str s) (some a) := by
  intro rest hr p
  obtain ⟨p', hc⟩ := h rest hr p
  refine ⟨p', ?_⟩
  rw [render_str_append] at hc ⊢
  simp only [Codec.option, skipWs_of_not_blank (by decide : isBlank '"' = false), Cursor.peek,
    List.head?_cons]
  rw [hc]
  rfl

theorem Codec.int64_reads {i : Int} (lo : -2 ^ 63 ≤ i) (hi : i < 2 ^ 63) :
    Codec.int64.ReadsBack (Json.int i) i :=
  fun _ hr p => int64_reads_int lo hi hr.endsNumber p

theorem Codec.choice_reads {α : Type} {typeName : String} {names : List (String × α)} {k : String}
    {a : α} (h : names.find? (·.1 == k) = some (k, a)) :
    (Codec.choice typeName names).ReadsBack (.str k) a := by
  intro rest _ p
  obtain ⟨p', hs⟩ := readString_quote k rest (p.after '"')
  refine ⟨p', ?_⟩
  rw [render_str_append]
  simp only [Codec.choice, skipWs_of_not_blank (by decide : isBlank '"' = false), Cursor.peek,
    List.head?_cons, Cursor.eat]
  rw [hs]
  simp [placed, Codec.variant, h, Except.map]


/-! ### Records -/

section Records

variable {σ : Type}

/-- A field reads the text of `v` back as the update `set`, and stops right after it. -/
def Field.ReadsBack (f : Field σ) (v : Json) (set : σ → σ) : Prop :=
  ∀ rest, EndsMember rest → ∀ p, ∃ p', f.text ⟨(render v).toList ++ rest, p⟩ = .ok (set, ⟨rest, p'⟩)

theorem Field.of_reads {α : Type} {name : String} {required : Bool} {c : Codec α} {set : α → σ → σ}
    {v : Json} {a : α} (h : c.ReadsBack v a) : (Field.of name required c set).ReadsBack v (set a) := by
  intro rest hr p
  obtain ⟨p', hc⟩ := h rest hr p
  exact ⟨p', by simp [Field.of, hc, Except.map]⟩

/-- The text of one member: its quoted name, a colon and its value. -/
def memberText (m : String × Json) : List Char := (quote m.1 ++ ":" ++ render m.2).toList

theorem memberText_append (m : String × Json) (rest : List Char) :
    memberText m ++ rest =
      '"' :: (m.1.toList.flatMap escapeChar ++ '"' :: ':' :: ((render m.2).toList ++ rest)) := by
  simp [memberText, toList_quote]

/-- A member whose name is a field not seen yet, and whose value the field reads back, is
read, whether it comes first or after a comma. -/
theorem mapText_member {fields : List (Field σ)} {m : String × Json} {f : Field σ}
    (hf : fields.find? (·.name == m.1) = some f) {seen : List String} (hs : seen.contains m.1 = false)
    {set : σ → σ} (hr : f.ReadsBack m.2 set) {rest : List Char} (hrest : EndsMember rest)
    (fuel : Nat) (first : Bool) (r : σ) (p : Pos) :
    ∃ p', Record.mapText fields (fuel + 1) first seen r
        ⟨(if first then [] else [',']) ++ memberText m ++ rest, p⟩ =
      Record.mapText fields fuel false (m.1 :: seen) (set r) ⟨rest, p'⟩ := by
  cases first
  · obtain ⟨p₁, hk⟩ := readString_quote m.1 (':' :: ((render m.2).toList ++ rest)) ((p.after ',').after '"')
    obtain ⟨p₂, hv⟩ := hr rest hrest (p₁.after ':')
    refine ⟨p₂, ?_⟩
    simp only [Bool.false_eq_true, if_false, List.cons_append, List.nil_append,
      memberText_append]
    simp only [Record.mapText, skipWs_of_not_blank (by decide : isBlank ',' = false), Cursor.peek,
      List.head?_cons, Cursor.eat, skipWs_of_not_blank (by decide : isBlank '"' = false),
      Bool.false_eq_true, if_false]
    rw [hk]
    simp only [hf, hs, skipWs_of_not_blank (by decide : isBlank ':' = false), List.head?_cons,
      Bool.false_eq_true, if_false]
    rw [hv]
  · obtain ⟨p₁, hk⟩ := readString_quote m.1 (':' :: ((render m.2).toList ++ rest)) (p.after '"')
    obtain ⟨p₂, hv⟩ := hr rest hrest (p₁.after ':')
    refine ⟨p₂, ?_⟩
    simp only [if_true, List.nil_append, memberText_append]
    simp only [Record.mapText, skipWs_of_not_blank (by decide : isBlank '"' = false), Cursor.peek,
      List.head?_cons, Cursor.eat, if_true]
    rw [hk]
    simp only [hf, hs, skipWs_of_not_blank (by decide : isBlank ':' = false), List.head?_cons,
      Bool.false_eq_true, if_false]
    rw [hv]

theorem mapText_close (fields : List (Field σ)) (fuel : Nat) (seen : List String) (r : σ)
    (rest : List Char) (p : Pos) :
    Record.mapText fields (fuel + 1) false seen r ⟨'}' :: rest, p⟩ = .ok (r, seen, ⟨'}' :: rest, p⟩) := by
  simp [Record.mapText, skipWs_of_not_blank (by decide : isBlank '}' = false), Cursor.peek]

/-- What a member list needs to be read into a record: each member names a field whose
reader takes the member's value back to its update. -/
def MemberReads (fields : List (Field σ)) (m : String × Json) (set : σ → σ) : Prop :=
  ∃ f, fields.find? (·.name == m.1) = some f ∧ f.ReadsBack m.2 set

/-- Members after the first, each after a comma, are read up to the closing brace: the
record gets their updates in order, and their names are seen. -/
theorem mapText_members {fields : List (Field σ)} {ms : List (String × Json)} {sets : List (σ → σ)}
    (h : List.Forall₂ (MemberReads fields) ms sets) (distinct : (ms.map Prod.fst).Nodup)
    {seen : List String} (fresh : ∀ m ∈ ms, seen.contains m.1 = false) (fuel : Nat)
    (hfuel : ms.length < fuel) (r : σ) (rest : List Char) (p : Pos) :
    ∃ p', Record.mapText fields fuel false seen r
        ⟨ms.flatMap (fun m => ',' :: memberText m) ++ '}' :: rest, p⟩ =
      .ok (sets.foldl (fun r set => set r) r, (ms.map Prod.fst).reverse ++ seen, ⟨'}' :: rest, p'⟩) := by
  induction h generalizing seen fuel r p with
  | nil =>
    obtain ⟨fuel, rfl⟩ := Nat.exists_eq_add_one_of_ne_zero (Nat.pos_iff_ne_zero.mp hfuel)
    exact ⟨p, mapText_close fields fuel seen r rest p⟩
  | @cons m set ms sets hm _ ih =>
    obtain ⟨fuel, rfl⟩ :=
      Nat.exists_eq_add_one_of_ne_zero (Nat.pos_iff_ne_zero.mp (Nat.zero_lt_of_lt hfuel))
    obtain ⟨f, hf, hr⟩ := hm
    have ends : EndsMember (ms.flatMap (fun m => ',' :: memberText m) ++ '}' :: rest) := by
      cases ms <;> simp [EndsMember]
    obtain ⟨p₁, step⟩ := mapText_member hf (fresh m List.mem_cons_self) hr ends fuel false r p
    -- the names after this one differ from it, so they are fresh after it is seen
    have fresh' : ∀ m' ∈ ms, (m.1 :: seen).contains m'.1 = false := by
      intro m' hm'
      have ne : m'.1 ≠ m.1 := fun same =>
        (List.nodup_cons.mp distinct).1 (same ▸ List.mem_map_of_mem hm')
      rw [List.contains_cons, fresh m' (List.mem_cons_of_mem _ hm'), Bool.or_false]
      exact beq_false_of_ne ne
    obtain ⟨p₂, more⟩ := ih (List.nodup_cons.mp distinct).2 fresh' fuel
      (by simpa using hfuel) (set r) p₁
    refine ⟨p₂, ?_⟩
    rw [List.flatMap_cons, List.append_assoc, List.cons_append]
    have start := step
    simp only [Bool.false_eq_true, if_false, List.cons_append, List.nil_append] at start
    rw [start, more]
    simp

theorem toList_renderMembers (m : String × Json) (ms : List (String × Json)) :
    (renderMembers (m :: ms)).toList = memberText m ++ ms.flatMap (fun m => ',' :: memberText m) := by
  induction ms generalizing m with
  | nil => simp [renderMembers, memberText]
  | cons m' ms ih =>
    have two : renderMembers (m :: m' :: ms) =
        quote m.1 ++ ":" ++ render m.2 ++ "," ++ renderMembers (m' :: ms) := by
      obtain ⟨k, v⟩ := m
      rfl
    rw [two, String.toList_append, ih m']
    simp [memberText]

theorem length_le_flatMap_members (ms : List (String × Json)) :
    ms.length ≤ (ms.flatMap (fun m => ',' :: memberText m)).length := by
  induction ms with
  | nil => simp
  | cons m ms ih =>
    simp only [List.flatMap_cons, List.length_append, List.length_cons]
    omega

/-- **A written object reads back as a record.** An object whose members each name a field,
no name twice, each value read back by its field, and no required field left out, is read
to the record the fields' updates build from the blank one, in the members' order. -/
theorem record_reads_obj {name : String} {fields : List (Field σ)} {blank : σ}
    {ms : List (String × Json)} {sets : List (σ → σ)} (h : List.Forall₂ (MemberReads fields) ms sets)
    (nonempty : ms ≠ []) (distinct : (ms.map Prod.fst).Nodup)
    (complete : firstMissing fields (ms.map Prod.fst).reverse = none) {v : σ}
    (built : sets.foldl (fun r set => set r) blank = v) (rest : List Char) (p : Pos) :
    ∃ p', (Codec.record name fields blank).text ⟨(render (.obj ms)).toList ++ rest, p⟩ =
      .ok (v, ⟨rest, p'⟩) := by
  cases h with
  | nil => exact absurd rfl nonempty
  | @cons m set ms sets hm h =>
    obtain ⟨f, hf, hr⟩ := hm
    have text : (render (.obj (m :: ms))).toList ++ rest =
        '{' :: (memberText m ++ (ms.flatMap (fun m => ',' :: memberText m) ++ '}' :: rest)) := by
      simp [render, toList_renderMembers]
    have ends : EndsMember (ms.flatMap (fun m => ',' :: memberText m) ++ '}' :: rest) := by
      cases ms <;> simp [EndsMember]
    obtain ⟨p₁, first⟩ := mapText_member hf (rfl : ([] : List String).contains m.1 = false) hr ends
      ((memberText m ++ (ms.flatMap (fun m => ',' :: memberText m) ++ '}' :: rest)).length + 2)
      true blank (p.after '{')
    have fresh : ∀ m' ∈ ms, [m.1].contains m'.1 = false := by
      intro m' hm'
      have ne : m'.1 ≠ m.1 := fun same =>
        (List.nodup_cons.mp distinct).1 (same ▸ List.mem_map_of_mem hm')
      simpa using ne
    obtain ⟨p₂, others⟩ := mapText_members h (List.nodup_cons.mp distinct).2 fresh
      ((memberText m ++ (ms.flatMap (fun m => ',' :: memberText m) ++ '}' :: rest)).length + 2)
      (by have := length_le_flatMap_members ms; simp only [List.length_append]; omega)
      (set blank) rest p₁
    refine ⟨p₂.after '}', ?_⟩
    rw [text]
    simp only [Codec.record, skipWs_of_not_blank (by decide : isBlank '{' = false), Cursor.peek,
      List.head?_cons, Cursor.eat, List.length_cons]
    simp only [if_true, List.nil_append, Nat.add_assoc, Nat.reduceAdd] at first ⊢
    rw [first, others]
    simp only [List.map_cons, List.reverse_cons] at complete
    simp [complete, Record.endMap, skipWs_of_not_blank (by decide : isBlank '}' = false), Cursor.peek,
      Cursor.eat, ← built]

end Records

theorem Codec.readText_of_text {α : Type} {c : Codec α} {s : String} {a : α} {p' : Pos}
    (h : c.text ⟨s.toList, ⟨1, 0⟩⟩ = .ok (a, ⟨[], p'⟩)) : c.readText s = .ok a := by
  simp [Codec.readText, Cursor.start, h, bind, Except.bind, expectEnd, Cursor.skipWs, skipBlanks,
    Cursor.peek, pure, Except.pure]

end Json

end CrateState
