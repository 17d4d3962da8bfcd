import Mathlib.Algebra.Group.Nat.Defs
import ProcessStubs.Markup.Reader
import ProcessStubs.Text.Quoted

/-!
# String literals

How the generated language reads a string literal that stays on one line. The literal is opened by
one quote or by three, it is closed where the same marks stand for the first time, and a backslash
begins an escape. Reading says what the literal stands for and what comes after it. Literals over
several lines, octal escapes and characters by their names are not read.

The proofs are about pieces of a literal: `Spells` says that a piece is read as a value, whatever
comes after it, and pieces that spell their values can be put together.

## Main results

* `readLiteral?_quotedChars`: a quoted text is one literal, and it stands for the text.
* `spells_guarded_quotedChars`: a quoted text with a backslash before each double quote can be put
  inside of three double quotes.
-/

namespace ProcessStubs.Text

open Markup.Reader (hexValue?)

/-- The character that a backslash and one character stand for. -/
def simpleEscape? : Char → Option Char
  | '\\' => some '\\'
  | '\'' => some '\''
  | '"' => some '"'
  | 'a' => some '\x07'
  | 'b' => some '\x08'
  | 't' => some '\t'
  | 'n' => some '\n'
  | 'v' => some '\x0b'
  | 'f' => some '\x0c'
  | 'r' => some '\r'
  | _ => none

/-- How many hexadecimal digits the number of a character has after a backslash and a letter. -/
def hexWidth? : Char → Option Nat
  | 'x' => some 2
  | 'u' => some 4
  | 'U' => some 8
  | _ => none

/-- Reads so many hexadecimal digits, after digits of the value `n`. -/
def readHex? : Nat → Nat → List Char → Option (Nat × List Char)
  | 0, n, rest => some (n, rest)
  | k + 1, n, c :: rest => (hexValue? c).bind fun d => readHex? k (16 * n + d) rest
  | _ + 1, _, [] => none

/-- Reads what follows a backslash. -/
def readEscape? : List Char → Option (Char × List Char)
  | [] => none
  | c :: rest =>
    match simpleEscape? c with
    | some d => some (d, rest)
    | none =>
      match (hexWidth? c).bind fun k => readHex? k 0 rest with
      | some (n, rest) => if n.isValidChar then some (Char.ofNat n, rest) else none
      | none => none

/-- Digits are read from the front. -/
theorem length_of_readHex? {k n m : Nat} {l rest : List Char}
    (h : readHex? k n l = some (m, rest)) : rest.length ≤ l.length := by
  induction k generalizing n l with
  | zero =>
      cases h
      exact Nat.le_refl _
  | succ k ih =>
      cases l with
      | nil => cases h
      | cons c l =>
          obtain ⟨d, -, hread⟩ := Option.bind_eq_some_iff.mp h
          have tail := ih hread
          rw [List.length_cons]
          omega

/-- An escape has at least one character after the backslash. -/
theorem length_of_readEscape? {l rest : List Char} {d : Char}
    (h : readEscape? l = some (d, rest)) : rest.length < l.length := by
  cases l with
  | nil => cases h
  | cons c l =>
      rw [List.length_cons, Nat.lt_succ_iff]
      cases simple : simpleEscape? c with
      | some e =>
          simp only [readEscape?, simple] at h
          cases h
          exact Nat.le_refl _
      | none =>
          cases hex : (hexWidth? c).bind fun k => readHex? k 0 l with
          | none =>
              simp only [readEscape?, simple, hex] at h
              cases h
          | some read =>
              obtain ⟨k, -, hread⟩ := Option.bind_eq_some_iff.mp hex
              simp only [readEscape?, simple, hex] at h
              split at h
              · cases h
                exact length_of_readHex? hread
              · cases h

/-- Reads the text of a literal up to the marks that close it. -/
def readText? (marks : List Char) (l : List Char) : Option (List Char × List Char) :=
  match l with
  | [] => none
  | c :: rest =>
    if marks.isPrefixOf (c :: rest) then some ([], (c :: rest).drop marks.length)
    else if c = '\\' then
      match _read : readEscape? rest with
      | some (d, rest') =>
        (readText? marks rest').map fun read => (d :: read.1, read.2)
      | none => none
    else if c = '\n' ∨ c = '\r' then none
    else (readText? marks rest).map fun read => (c :: read.1, read.2)
termination_by l.length
decreasing_by
  · have := length_of_readEscape? _read
    rw [List.length_cons]
    omega
  · exact Nat.lt_succ_self _

/-- A literal: the marks that open and close it, what it stands for, and what comes after it. -/
structure Literal where
  marks : List Char
  value : List Char
  rest : List Char
deriving Repr, DecidableEq

/-- Reads a literal. -/
def readLiteral? : List Char → Option Literal
  | [] => none
  | q :: rest =>
    if q = '"' ∨ q = '\'' then
      let marks := if [q, q].isPrefixOf rest then [q, q, q] else [q]
      (readText? marks (rest.drop (marks.length - 1))).map fun read => ⟨marks, read.1, read.2⟩
    else none

/-! ### Pieces of literals -/

/-- **A piece of a literal spells a value** if it is read as the value, whatever comes after it. -/
def Spells (marks piece value : List Char) : Prop :=
  ∀ tail, readText? marks (piece ++ tail) =
    (readText? marks tail).map fun read => (value ++ read.1, read.2)

/-- Nothing spells nothing. -/
theorem Spells.nil (marks : List Char) : Spells marks [] [] := by
  intro tail
  rw [List.nil_append]
  cases readText? marks tail <;> rfl

/-- Pieces one after the other spell their values one after the other. -/
theorem Spells.append {marks p q v w : List Char} (hp : Spells marks p v) (hq : Spells marks q w) :
    Spells marks (p ++ q) (v ++ w) := by
  intro tail
  rw [List.append_assoc, hp, hq]
  cases readText? marks tail <;> simp

/-- If the pieces for all characters of a text spell them, then the pieces for the text spell it. -/
theorem Spells.flatMap {marks : List Char} {piece : Char → List Char} {l : List Char}
    (h : ∀ c ∈ l, Spells marks (piece c) [c]) : Spells marks (l.flatMap piece) l := by
  induction l with
  | nil => exact .nil marks
  | cons c rest ih =>
      have tail := ih fun d hd => h d (List.mem_cons_of_mem _ hd)
      have both := (h c List.mem_cons_self).append tail
      rwa [List.singleton_append] at both

/-- The marks close a literal. -/
theorem readText?_marks {marks : List Char} (h : marks ≠ []) (tail : List Char) :
    readText? marks (marks ++ tail) = some ([], tail) := by
  cases marks with
  | nil => exact absurd rfl h
  | cons q more =>
      rw [List.cons_append, readText?, if_pos]
      · simp
      · rw [← List.cons_append, List.isPrefixOf_iff_prefix]
        exact List.prefix_append _ _

/-- A piece and the marks after it are the text of a literal. -/
theorem Spells.read {marks piece value : List Char} (h : Spells marks piece value)
    (closed : marks ≠ []) (tail : List Char) :
    readText? marks (piece ++ (marks ++ tail)) = some (value, tail) := by
  rw [h, readText?_marks closed]
  simp

/-- Marks that begin with another character do not close a literal. -/
theorem isPrefixOf_of_ne {q c : Char} (h : c ≠ q) (more rest : List Char) :
    (q :: more).isPrefixOf (c :: rest) = false := by
  simp [List.isPrefixOf, Ne.symm h]

/-- **A plain character** spells itself: no quote of the marks, no backslash and no line break. -/
theorem spells_plain {q c : Char} (more : List Char) (quote : c ≠ q) (backslash : c ≠ '\\')
    (feed : c ≠ '\n') (ret : c ≠ '\r') : Spells (q :: more) [c] [c] := by
  intro tail
  rw [List.singleton_append, readText?, isPrefixOf_of_ne quote]
  simp [backslash, feed, ret]

/-- **An escape** spells the character it stands for. -/
theorem spells_escape {q c : Char} (more piece : List Char) (quote : q ≠ '\\')
    (h : ∀ tail, readEscape? (piece ++ tail) = some (c, tail)) :
    Spells (q :: more) ('\\' :: piece) [c] := by
  intro tail
  rw [List.cons_append, readText?, isPrefixOf_of_ne (Ne.symm quote)]
  simp only [Bool.false_eq_true, if_false, if_true]
  split
  · next d rest read =>
      rw [h] at read
      cases read
      rfl
  · next read =>
      rw [h] at read
      cases read

/-! ### Hexadecimal digits -/

/-- A hexadecimal digit has the value it was written for. -/
theorem hexValue?_hexDigit {d : Nat} (h : d < 16) : hexValue? (hexDigit d) = some d := by
  have all : ∀ d < 16, hexValue? (hexDigit d) = some d := by decide
  exact all d h

/-- The digits of a number are digits of numbers below sixteen. -/
theorem exists_digit_of_mem_hexDigits {k n : Nat} {c : Char} (h : c ∈ hexDigits k n) :
    ∃ d < 16, c = hexDigit d := by
  induction k generalizing n with
  | zero => cases h
  | succ k ih =>
      rcases List.mem_append.mp h with h | h
      · exact ih h
      · exact ⟨n % 16, Nat.mod_lt n (by omega), List.mem_singleton.mp h⟩

/-- One more digit is read after the others. -/
theorem readHex?_succ {k n m d : Nat} {l rest : List Char} {c : Char}
    (h : readHex? k n l = some (m, c :: rest)) (hc : hexValue? c = some d) :
    readHex? (k + 1) n l = some (16 * m + d, rest) := by
  induction k generalizing n l with
  | zero =>
      cases h
      simp [readHex?, hc]
  | succ k ih =>
      cases l with
      | nil => cases h
      | cons b l =>
          obtain ⟨e, he, hread⟩ := Option.bind_eq_some_iff.mp h
          rw [readHex?, he]
          exact ih hread

/-- **The digits of a number are read as the number**, as far as it has so many digits. -/
theorem readHex?_hexDigits (k n m : Nat) (tail : List Char) :
    readHex? k m (hexDigits k n ++ tail) = some (m * 16 ^ k + n % 16 ^ k, tail) := by
  induction k generalizing n tail with
  | zero => simp [readHex?, hexDigits, Nat.mod_one]
  | succ k ih =>
      have digit : n % 16 < 16 := Nat.mod_lt n (by omega)
      have front :=
        readHex?_succ (ih (n / 16) (hexDigit (n % 16) :: tail)) (hexValue?_hexDigit digit)
      have value : 16 * (m * 16 ^ k + n / 16 % 16 ^ k) + n % 16 =
          m * 16 ^ (k + 1) + n % 16 ^ (k + 1) := by
        rw [Nat.pow_succ', Nat.mod_mul, Nat.mul_add, Nat.mul_left_comm]
        omega
      rw [hexDigits, List.append_assoc, List.singleton_append, front, value]

/-- A character whose number has so many digits is read from them. -/
theorem readEscape?_hexDigits {x c : Char} {k : Nat} (simple : simpleEscape? x = none)
    (width : hexWidth? x = some k) (fits : c.toNat < 16 ^ k) (tail : List Char) :
    readEscape? (x :: (hexDigits k c.toNat ++ tail)) = some (c, tail) := by
  have number : readHex? k 0 (hexDigits k c.toNat ++ tail) = some (c.toNat, tail) := by
    rw [readHex?_hexDigits, Nat.mod_eq_of_lt fits, Nat.zero_mul, Nat.zero_add]
  have valid : c.toNat.isValidChar := c.valid
  simp [readEscape?, simple, width, number, valid, Char.ofNat_toNat]

/-! ### Quoted characters -/

/-- **How a character is quoted**: with a backslash before one character, as it is, or by its
number. A double quote stands after a backslash only where it is the quote that was chosen. -/
inductive QuotedAs (q c : Char) : List Char → Prop
  | simple {d : Char} :
      simpleEscape? d = some c → (d = '"' → q = '"' ∧ c = '"') → QuotedAs q c ['\\', d]
  | plain : c ≠ q → c ≠ '\\' → isPrintable c = true → QuotedAs q c [c]
  | number {x : Char} {k : Nat} :
      simpleEscape? x = none → hexWidth? x = some k → c.toNat < 16 ^ k →
      QuotedAs q c ('\\' :: x :: hexDigits k c.toNat)

/-- The quotes that texts are written in. -/
def IsQuote (q : Char) : Prop := q = '\'' ∨ q = '"'

/-- A text is written in quotes. -/
theorem isQuote_quoteFor (cs : List Char) : IsQuote (quoteFor cs) := by
  rw [quoteFor]
  split
  · exact .inr rfl
  · exact .inl rfl

/-- The number of a character has eight digits at most. -/
theorem toNat_lt_pow (c : Char) : c.toNat < 16 ^ 8 := by
  have valid := c.valid
  simp only [UInt32.isValidChar, Nat.isValidChar] at valid
  change c.val.toNat < 16 ^ 8
  omega

/-- A character that is not printable is written by its number. -/
theorem quotedAs_escaped (q c : Char) : QuotedAs q c (escaped c) := by
  rw [escaped]
  split
  · exact .number rfl rfl (by omega)
  · split
    · exact .number rfl rfl (by omega)
    · exact .number rfl rfl (toNat_lt_pow c)

/-- Each character is quoted in one of these ways. -/
theorem quotedAs_quotedChar {q : Char} (hq : IsQuote q) (c : Char) :
    QuotedAs q c (quotedChar q c) := by
  rw [quotedChar]
  split
  · next h =>
      have simple : simpleEscape? c = some c := by
        rcases h with rfl | rfl
        · rcases hq with rfl | rfl <;> rfl
        · rfl
      refine .simple simple ?_
      rintro rfl
      rcases h with h | h
      · exact ⟨h.symm, rfl⟩
      · cases h
  · next h =>
      obtain ⟨quote, backslash⟩ := not_or.mp h
      split
      · next tab => exact tab ▸ .simple rfl nofun
      · split
        · next feed => exact feed ▸ .simple rfl nofun
        · split
          · next ret => exact ret ▸ .simple rfl nofun
          · split
            · next printable => exact .plain quote backslash printable
            · exact quotedAs_escaped q c

/-- Line breaks are not printable. -/
theorem ne_lineBreak_of_isPrintable {c : Char} (h : isPrintable c = true) :
    c ≠ '\n' ∧ c ≠ '\r' := by
  have feed : isPrintable '\n' = false := by decide +kernel
  have ret : isPrintable '\r' = false := by decide +kernel
  refine ⟨?_, ?_⟩
  · rintro rfl
    rw [feed] at h
    cases h
  · rintro rfl
    rw [ret] at h
    cases h

/-- A quote is no backslash. -/
theorem IsQuote.ne_backslash {q : Char} (h : IsQuote q) : q ≠ '\\' := by
  rcases h with rfl | rfl <;> decide

/-- A character in the quotes of its text spells itself. -/
theorem QuotedAs.spells {q c : Char} {piece : List Char} (hq : IsQuote q)
    (h : QuotedAs q c piece) : Spells [q] piece [c] := by
  cases h with
  | simple escape _ =>
      refine spells_escape [] [_] hq.ne_backslash ?_
      intro tail
      simp [readEscape?, escape]
  | plain quote backslash printable =>
      obtain ⟨feed, ret⟩ := ne_lineBreak_of_isPrintable printable
      exact spells_plain [] quote backslash feed ret
  | number simple width fits =>
      exact spells_escape [] _ hq.ne_backslash (readEscape?_hexDigits simple width fits)

/-- The first character of a quoted character is no quote of its text. -/
theorem QuotedAs.head_ne {q c : Char} {piece : List Char} (hq : IsQuote q)
    (h : QuotedAs q c piece) : ∃ d rest, piece = d :: rest ∧ d ≠ q := by
  cases h with
  | simple escape _ => exact ⟨_, _, rfl, Ne.symm hq.ne_backslash⟩
  | plain quote _ _ => exact ⟨_, _, rfl, quote⟩
  | number _ _ _ => exact ⟨_, _, rfl, Ne.symm hq.ne_backslash⟩

/-- After its first quote, a quoted text does not go on with two more of them, unless one follows
the text. -/
theorem isPrefixOf_quoted {q : Char} (hq : IsQuote q) (cs : List Char) {tail : List Char}
    (h : ∀ rest, tail ≠ q :: rest) :
    [q, q].isPrefixOf (cs.flatMap (quotedChar q) ++ ([q] ++ tail)) = false := by
  cases cs with
  | nil =>
      cases tail with
      | nil => simp [List.isPrefixOf]
      | cons d rest =>
          have hd : q ≠ d := fun heq => h rest (heq ▸ rfl)
          simp [List.isPrefixOf, hd]
  | cons c cs =>
      obtain ⟨d, rest, heq, hd⟩ := (quotedAs_quotedChar hq c).head_ne hq
      rw [List.flatMap_cons, heq]
      exact isPrefixOf_of_ne hd _ _

/-- **A quoted text is one literal**, and it stands for the text, whatever follows that is no
quote. -/
theorem readLiteral?_quotedChars (cs : List Char) {tail : List Char}
    (h : ∀ rest, tail ≠ quoteFor cs :: rest) :
    readLiteral? (quotedChars cs ++ tail) = some ⟨[quoteFor cs], cs, tail⟩ := by
  have hq := isQuote_quoteFor cs
  have spells : Spells [quoteFor cs] (cs.flatMap (quotedChar (quoteFor cs))) cs :=
    .flatMap fun c _ => (quotedAs_quotedChar hq c).spells hq
  have opened : quoteFor cs = '"' ∨ quoteFor cs = '\'' := Or.symm hq
  rw [quotedChars_eq, List.cons_append, List.append_assoc, readLiteral?, if_pos opened,
    isPrefixOf_quoted hq cs h]
  simp only [Bool.false_eq_true, if_false, List.length_singleton, Nat.sub_self, List.drop_zero]
  rw [spells.read (List.cons_ne_nil _ _)]
  rfl

/-- Quoted texts are the same only if the texts are. -/
theorem quoted_injective : Function.Injective quoted := by
  intro s s' same
  have chars : quotedChars s.toList = quotedChars s'.toList := String.ofList_injective same
  have read (cs : List Char) : readLiteral? (quotedChars cs ++ []) =
      some ⟨[quoteFor cs], cs, []⟩ := readLiteral?_quotedChars cs fun _ none => by cases none
  have one := read s.toList
  rw [chars, read] at one
  exact String.toList_injective (congrArg Literal.value (Option.some.inj one)).symm

/-! ### Quoted text inside of three double quotes -/

/-- The marks of texts in three double quotes. -/
def longMarks : List Char := ['"', '"', '"']

/-- A character with a backslash before it if it is a double quote. -/
def guardedChar (c : Char) : List Char := if c = '"' then ['\\', '"'] else [c]

/-- Without double quotes nothing is guarded. -/
theorem flatMap_guardedChar {l : List Char} (h : '"' ∉ l) : l.flatMap guardedChar = l := by
  induction l with
  | nil => rfl
  | cons c rest ih =>
      rw [List.mem_cons, not_or] at h
      rw [List.flatMap_cons, ih h.2, guardedChar, if_neg (Ne.symm h.1)]
      rfl

/-- A guarded character that is written as it is spells itself. -/
theorem spells_guardedChar {c : Char} (backslash : c ≠ '\\') (feed : c ≠ '\n') (ret : c ≠ '\r') :
    Spells longMarks (guardedChar c) [c] := by
  rw [guardedChar]
  split
  · next h =>
      subst h
      exact spells_escape _ ['"'] (by decide) fun tail => rfl
  · next h => exact spells_plain _ h backslash feed ret

/-- No number is written with double quotes. -/
theorem not_mem_hexDigits (k n : Nat) : '"' ∉ hexDigits k n := by
  intro h
  obtain ⟨d, hd, heq⟩ := exists_digit_of_mem_hexDigits h
  have all : ∀ d < 16, '"' ≠ hexDigit d := by decide
  exact all d hd heq

/-- **A quoted character in three double quotes** spells itself once its double quotes are guarded.
A double quote that has a backslash already would get another one and lose it again, so it must not
be the quote that was chosen. -/
theorem QuotedAs.spells_guarded {q c : Char} {piece : List Char} (h : QuotedAs q c piece)
    (apart : q = '"' → c ≠ '"') : Spells longMarks (piece.flatMap guardedChar) [c] := by
  cases h with
  | @simple d escape chosen =>
      have hd : d ≠ '"' := fun heq => apart (chosen heq).1 (chosen heq).2
      have same : ['\\', d].flatMap guardedChar = ['\\', d] :=
        flatMap_guardedChar (by simp [Ne.symm hd])
      rw [same]
      refine spells_escape _ [d] (by decide) ?_
      intro tail
      simp [readEscape?, escape]
  | plain quote backslash printable =>
      obtain ⟨feed, ret⟩ := ne_lineBreak_of_isPrintable printable
      rw [List.flatMap_singleton]
      exact spells_guardedChar backslash feed ret
  | @number x k simple width fits =>
      have hx : x ≠ '"' := by
        rintro rfl
        cases simple
      have same : ('\\' :: x :: hexDigits k c.toNat).flatMap guardedChar =
          '\\' :: x :: hexDigits k c.toNat :=
        flatMap_guardedChar (by simp [Ne.symm hx, not_mem_hexDigits])
      rw [same]
      exact spells_escape _ _ (by decide) (readEscape?_hexDigits simple width fits)

/-- **A quoted text in three double quotes** spells the text between two quotes, once its double
quotes are guarded. -/
theorem spells_guarded_quotedChars (cs : List Char) :
    Spells longMarks ((quotedChars cs).flatMap guardedChar)
      (quoteFor cs :: (cs ++ [quoteFor cs])) := by
  have hq := isQuote_quoteFor cs
  have quote : Spells longMarks (guardedChar (quoteFor cs)) [quoteFor cs] := by
    rcases hq with heq | heq
    all_goals
      rw [heq]
      exact spells_guardedChar (by decide) (by decide) (by decide)
  -- where double quotes were chosen, the text has none
  have apart : ∀ c ∈ cs, quoteFor cs = '"' → c ≠ '"' := by
    rintro c hc chosen rfl
    rw [quoteFor] at chosen
    split at chosen
    · next h => exact h.2 hc
    · cases chosen
  have inner : Spells longMarks
      (cs.flatMap fun c => (quotedChar (quoteFor cs) c).flatMap guardedChar) cs :=
    .flatMap fun c hc => (quotedAs_quotedChar hq c).spells_guarded (apart c hc)
  rw [quotedChars_eq, List.flatMap_cons, List.flatMap_append, List.flatMap_assoc,
    List.flatMap_singleton]
  exact quote.append (inner.append quote)

end ProcessStubs.Text
