import IntentGateway.Json.Reader
import IntentGateway.Proofs.Json.Form
import IntentGateway.Proofs.Numeral.Decimal
import Mathlib.Data.List.TakeWhile
import Mathlib.Tactic.IntervalCases

/-! # The tokens of what is written

The text of a value is taken apart into the tokens that the value consists of, whatever stands
behind it: the machine that finds tokens is followed through a word, through a string and through
lists and maps. What may stand behind a value is the end, a comma or a closing bracket or brace, so
a word ends where it was written to end.
-/

namespace IntentGateway.Json

/-- The reader that stops at integers with too many digits. -/
abbrev standardDigits : Option ℕ := some Numeral.digitLimit

/-- Whether what stands behind a value ends it. -/
def Delimited (rest : List Char) : Prop :=
  ∀ c ∈ rest.head?, c = ',' ∨ c = ']' ∨ c = '\x7d'

theorem delimited_nil : Delimited [] := by
  simp [Delimited]

theorem delimited_comma (rest : List Char) : Delimited (',' :: rest) := by
  simp [Delimited]

theorem delimited_closeList (rest : List Char) : Delimited (']' :: rest) := by
  simp [Delimited]

theorem delimited_closeMap (rest : List Char) : Delimited ('\x7d' :: rest) := by
  simp [Delimited]

/-! ## Single steps -/

theorem tokensFrom_char {position next : Position} {c : Char} {tokens done : List Token}
    {text : List Char} (h : stepChar standardDigits position c = some (next, tokens)) :
    tokensFrom standardDigits position done (Text.pointsOf (c :: text))
      = tokensFrom standardDigits next (tokens.reverse ++ done) (Text.pointsOf text) := by
  rw [Text.pointsOf, List.map_cons, tokensFrom, step, h]
  rfl

/-- A punctuation character between values is a token of its own. -/
theorem tokensFrom_punctuation {c : Char} {t : Token}
    (h : stepBetween c = some (.between, [t])) (done : List Token) (text : List Char) :
    tokensFrom standardDigits .between done (Text.pointsOf (c :: text))
      = tokensFrom standardDigits .between (t :: done) (Text.pointsOf text) := by
  have hstep : stepChar standardDigits .between c = some (.between, [t]) := h
  exact tokensFrom_char hstep

/-! ## Words -/

theorem stepBetween_of_isWordChar {c : Char} (h : isWordChar c = true) :
    stepBetween c = some (.word [c], []) := by
  have hwhite : isWhite c = false := by
    rw [Bool.eq_false_iff, isWhite]
    intro hw
    simp only [Bool.or_eq_true, beq_iff_eq] at hw
    rcases hw with ((rfl | rfl) | rfl) | rfl <;> exact absurd h (by decide)
  have hquote : (c == '"') = false := by
    rw [beq_eq_false_iff_ne]
    rintro rfl
    exact absurd h (by decide)
  rw [stepBetween, hwhite, hquote, h]
  rfl

/-- What ends a value ends a word. -/
theorem stepChar_word_of_delimiter {c : Char} (hc : c = ',' ∨ c = ']' ∨ c = '\x7d')
    {read : List Char} {token : Token} (h : wordToken? standardDigits read.reverse = some token) :
    ∃ delimiter, stepBetween c = some (.between, [delimiter])
      ∧ stepChar standardDigits (.word read) c = some (.between, [token, delimiter]) := by
  have hword : isWordChar c = false := by rcases hc with rfl | rfl | rfl <;> decide
  have hbetween : ∃ delimiter, stepBetween c = some (.between, [delimiter]) := by
    rcases hc with rfl | rfl | rfl <;> exact ⟨_, rfl⟩
  obtain ⟨delimiter, hdelimiter⟩ := hbetween
  refine ⟨delimiter, hdelimiter, ?_⟩
  rw [stepChar, hword, if_neg (by simp), h, hdelimiter]

theorem tokensFrom_word {read word rest : List Char} {token : Token}
    (hword : ∀ c ∈ word, isWordChar c = true)
    (h : wordToken? standardDigits (read.reverse ++ word) = some token) (hrest : Delimited rest)
    (done : List Token) :
    tokensFrom standardDigits (.word read) done (Text.pointsOf (word ++ rest))
      = tokensFrom standardDigits .between (token :: done) (Text.pointsOf rest) := by
  induction word generalizing read with
  | nil =>
    rw [List.append_nil] at h
    rw [List.nil_append]
    -- the word is complete at the end of the text, or at the character that ends the value
    cases rest with
    | nil => simp [Text.pointsOf, tokensFrom, finish, h]
    | cons c rest =>
      obtain ⟨delimiter, hbetween, hstep⟩ := stepChar_word_of_delimiter (hrest c rfl) h
      rw [tokensFrom_char hstep, tokensFrom_punctuation hbetween]
      rfl
  | cons c word ih =>
    obtain ⟨hc, hword⟩ := List.forall_mem_cons.mp hword
    have hstep : stepChar standardDigits (.word read) c = some (.word (c :: read), []) := by
      rw [stepChar, if_pos hc]
    rw [List.cons_append, tokensFrom_char hstep]
    exact ih hword (by simpa using h)

/-- A word is one token. -/
theorem tokens_of_word {word rest : List Char} {token : Token} (hne : word ≠ [])
    (hword : ∀ c ∈ word, isWordChar c = true)
    (h : wordToken? standardDigits word = some token) (hrest : Delimited rest)
    (done : List Token) :
    tokensFrom standardDigits .between done (Text.pointsOf (word ++ rest))
      = tokensFrom standardDigits .between (token :: done) (Text.pointsOf rest) := by
  obtain ⟨c, word, rfl⟩ := List.exists_cons_of_ne_nil hne
  obtain ⟨hc, hword⟩ := List.forall_mem_cons.mp hword
  have hstep : stepChar standardDigits .between c = some (.word [c], []) :=
    stepBetween_of_isWordChar hc
  have hread : wordToken? standardDigits ([c].reverse ++ word) = some token := h
  rw [List.cons_append, tokensFrom_char hstep]
  exact tokensFrom_word hword hread hrest done

/-! ## Numbers -/

theorem isWordChar_of_isDigit {c : Char} (h : c.isDigit = true) : isWordChar c = true := by
  simp [isWordChar, Char.isAlphanum, h]

/-- Whether a text begins with a digit and is one word, as a number without a sign is. -/
structure NumberText (text : List Char) : Prop where
  lead : ∃ d rest, text = d :: rest ∧ d.isDigit = true
  chars : ∀ c ∈ text, isWordChar c = true

theorem numberText_of_isDigit {digits : List Char} (h : ∀ c ∈ digits, c.isDigit = true)
    (hne : digits ≠ []) : NumberText digits := by
  obtain ⟨d, rest, rfl⟩ := List.exists_cons_of_ne_nil hne
  exact ⟨⟨d, rest, rfl, h d List.mem_cons_self⟩, fun c hc => isWordChar_of_isDigit (h c hc)⟩

/-- A text, behind a minus if it is negative. -/
def signedText (negative : Bool) (text : List Char) : List Char :=
  if negative then '-' :: text else text

theorem isWordChar_of_mem_signedText {text : List Char} (h : NumberText text) {negative : Bool}
    {c : Char} (hc : c ∈ signedText negative text) : isWordChar c = true := by
  rw [signedText] at hc
  split at hc
  · rcases List.mem_cons.mp hc with rfl | hc
    · rfl
    · exact h.chars c hc
  · exact h.chars c hc

/-- Behind a sign or at the start, a number has a digit, and a literal a letter. -/
theorem literals_find?_signedText {text : List Char} (h : NumberText text) (negative : Bool) :
    literals.find? (fun literal => literal.1.toList == signedText negative text) = none := by
  obtain ⟨⟨d, rest, rfl, hd⟩, -⟩ := h
  have hne : ∀ c, c.isDigit = false → c ≠ d := by
    rintro c hc rfl
    rw [hd] at hc
    cases hc
  simp only [literals, List.find?_eq_none, List.mem_cons, List.not_mem_nil, or_false, signedText]
  rintro literal (rfl | rfl | rfl | rfl | rfl | rfl) <;> split <;>
    simp [hne 'n' rfl, hne 't' rfl, hne 'f' rfl, hne 'N' rfl, hne 'I' rfl, hne '-' rfl]

theorem number?_signedText {text : List Char} (h : NumberText text) (negative : Bool) :
    number? standardDigits (signedText negative text)
      = unsignedNumber? standardDigits negative text := by
  cases negative with
  | true => rfl
  | false =>
    -- a digit is no sign
    obtain ⟨⟨d, rest, rfl, hd⟩, -⟩ := h
    rw [signedText, if_neg (by simp)]
    unfold number?
    split
    · rename_i heq
      cases heq
      exact absurd hd (by decide)
    · rfl

/-- The token of a number behind its sign is what the number is read as. -/
theorem wordToken?_signedText {text : List Char} (h : NumberText text) {negative : Bool} {v : Value}
    (hv : unsignedNumber? standardDigits negative text = some v) :
    wordToken? standardDigits (signedText negative text) = some (.scalar v) := by
  rw [wordToken?, literals_find?_signedText h, number?_signedText h, hv]
  rfl

/-! ## The parts of a number -/

/-- Whether a text consists of digits, the first of which is no zero. -/
structure LeadingDigits (digits : List Char) : Prop where
  isDigit : ∀ c ∈ digits, c.isDigit = true
  ne_nil : digits ≠ []
  head : digits.head? ≠ some '0'

theorem leadingDigits_toDigits {n : ℕ} (h : n ≠ 0) : LeadingDigits (Nat.toDigits 10 n) :=
  ⟨fun _ hc => Numeral.isDigit_of_mem_toDigits hc, Nat.toDigits_ne_nil,
    Numeral.head_toDigits_ne_zero (Nat.pos_of_ne_zero h)⟩

/-- Digits are split off up to what is no digit. -/
theorem splitDigits_append {digits rest : List Char} (h : ∀ c ∈ digits, c.isDigit = true)
    (hrest : ∀ c ∈ rest.head?, c.isDigit = false) :
    splitDigits (digits ++ rest) = (digits, rest) := by
  have hsplit : rest.takeWhile Char.isDigit = [] ∧ rest.dropWhile Char.isDigit = rest := by
    cases rest with
    | nil => exact ⟨rfl, rfl⟩
    | cons c rest =>
      have hc : ¬ c.isDigit = true := by simp [hrest c rfl]
      exact ⟨List.takeWhile_cons_of_neg hc, List.dropWhile_cons_of_neg hc⟩
  rw [splitDigits, List.takeWhile_append_of_pos h, List.dropWhile_append_of_pos h, hsplit.1,
    hsplit.2, List.append_nil]

/-- The integer part of a number is all digits up to what is no digit. -/
theorem wholePart?_append {whole rest : List Char} (h : LeadingDigits whole)
    (hrest : ∀ c ∈ rest.head?, c.isDigit = false) :
    wholePart? (whole ++ rest) = some (whole, rest) := by
  obtain ⟨d, digits, rfl⟩ := List.exists_cons_of_ne_nil h.ne_nil
  unfold wholePart?
  split
  · rename_i heq
    cases heq
    exact absurd rfl h.head
  · rw [splitDigits_append h.isDigit hrest]
    rfl

theorem wholePart?_toDigits (n : ℕ) :
    wholePart? (Nat.toDigits 10 n) = some (Nat.toDigits 10 n, []) := by
  by_cases hn : n = 0
  · rw [hn]
    rfl
  · have hwhole : wholePart? (Nat.toDigits 10 n ++ []) = some (Nat.toDigits 10 n, []) :=
      wholePart?_append (leadingDigits_toDigits hn) (by simp)
    rwa [List.append_nil] at hwhole

/-! ## Integers -/

theorem unsignedNumber?_toDigits {negative : Bool} {n : ℕ} (h : Numeral.fits n = true) :
    unsignedNumber? standardDigits negative (Nat.toDigits 10 n)
      = some (.int (Numeral.signed negative n)) := by
  have hlength : (Nat.toDigits 10 n).length ≤ Numeral.digitLimit := by
    simpa [Numeral.fits] using h
  rw [unsignedNumber?, wholePart?_toDigits]
  simp [fractionPart?, Numeral.ofAsciiDigits_toDigits, Nat.not_lt.mpr hlength]

theorem numberText_toDigits (n : ℕ) : NumberText (Nat.toDigits 10 n) :=
  numberText_of_isDigit (fun _ hc => Numeral.isDigit_of_mem_toDigits hc) Nat.toDigits_ne_nil

theorem decimalChars_eq (n : Int) :
    Numeral.decimalChars n = signedText (decide (n < 0)) (Nat.toDigits 10 n.natAbs) := by
  simp [Numeral.decimalChars, signedText]

theorem signed_natAbs (n : Int) : Numeral.signed (decide (n < 0)) n.natAbs = n := by
  by_cases hn : n < 0
  · rw [Numeral.signed, decide_eq_true hn, if_pos rfl]
    omega
  · rw [Numeral.signed, decide_eq_false hn, if_neg (by simp)]
    omega

/-- The digits of an integer are read as that integer. -/
theorem unsignedNumber?_natAbs {n : Int} (h : Numeral.fits n = true) :
    unsignedNumber? standardDigits (decide (n < 0)) (Nat.toDigits 10 n.natAbs)
      = some (.int n) := by
  have habs : Numeral.fits n.natAbs = true :=
    Numeral.fits_of_natAbs_le h (by rw [Int.natAbs_natCast])
  rw [unsignedNumber?_toDigits habs, signed_natAbs]

/-! ## Strings -/

/-- A control character is written by its number, and read back by it. -/
theorem tokensFrom_control {n : ℕ} (h : n < 0x20) (read : List Text.Point) (done : List Token)
    (rest : List Char) :
    tokensFrom standardDigits (.inString read) done
        (Text.pointsOf ('\\' :: 'u' :: Text.hexPadded 4 n ++ rest))
      = tokensFrom standardDigits (.inString (.char (Char.ofNat n) :: read)) done
        (Text.pointsOf rest) := by
  interval_cases n <;> rfl

/-- However a character stands in a string, it is read back. -/
theorem tokensFrom_escapeChar (c : Char) (read : List Text.Point) (done : List Token)
    (rest : List Char) :
    tokensFrom standardDigits (.inString read) done (Text.pointsOf (escapeChar c ++ rest))
      = tokensFrom standardDigits (.inString (.char c :: read)) done (Text.pointsOf rest) := by
  unfold escapeChar
  split
  case h_8 hquote hbackslash _ _ _ _ _ =>
    split
    · rename_i hcontrol
      rw [tokensFrom_control hcontrol, Char.ofNat_toNat]
    · rename_i hcontrol
      have hstep : stepChar standardDigits (.inString read) c
          = some (.inString (.char c :: read), []) := by
        rw [stepChar, stepInString, if_neg (by simpa using hquote),
          if_neg (by simpa using hbackslash), if_neg hcontrol]
      exact tokensFrom_char hstep
  all_goals rfl

theorem tokensFrom_content (chars : List Char) (read : List Text.Point) (done : List Token)
    (rest : List Char) :
    tokensFrom standardDigits (.inString read) done
        (Text.pointsOf (chars.flatMap escapeChar ++ rest))
      = tokensFrom standardDigits (.inString ((Text.pointsOf chars).reverse ++ read)) done
        (Text.pointsOf rest) := by
  induction chars generalizing read with
  | nil => rfl
  | cons c chars ih =>
    rw [List.flatMap_cons, List.append_assoc, tokensFrom_escapeChar, ih]
    simp [Text.pointsOf]

/-- A string is one token. -/
theorem tokens_of_writeString (s : String) (done : List Token) (rest : List Char) :
    tokensFrom standardDigits .between done (Text.pointsOf (writeString s ++ rest))
      = tokensFrom standardDigits .between (.text (.text s) :: done) (Text.pointsOf rest) := by
  have hopen : stepChar standardDigits .between '"' = some (.inString [], []) := rfl
  have hclose : ∀ read, stepChar standardDigits (.inString read) '"'
      = some (.between, [stringToken read]) := fun read => rfl
  have htoken : stringToken (Text.pointsOf s.toList).reverse = .text (.text s) := by
    rw [stringToken, List.reverse_reverse, RawText.ofPoints_pointsOf, String.ofList_toList]
  simp only [writeString, List.cons_append, List.append_assoc, List.nil_append]
  rw [tokensFrom_char hopen, tokensFrom_content, tokensFrom_char (hclose _), List.append_nil,
    htoken]
  rfl

end IntentGateway.Json
