import IntentGateway.Proofs.Binary64.Range
import IntentGateway.Proofs.Value.Shown
import Mathlib.Data.List.TakeWhile

/-! # What is read can be shown

The integers of a document that is read have few enough digits to be written, and its
floating-point numbers are in range. The machine that finds the tokens and the one that builds the
value both keep this step by step. So a value that was received can always be shown in a message.
-/

namespace IntentGateway

/-- A value as it may be read: its numbers are not beyond the limits, and there are no bytes in it.
-/
inductive Value.Readable : Value → Prop where
  | null : Readable .null
  | bool (b : Bool) : Readable (.bool b)
  | int {n : Int} (h : Numeral.fits n = true) : Readable (.int n)
  | float {x : Binary64} (h : x.InRange) : Readable (.float x)
  | str (s : String) : Readable (.str s)
  | illFormed (points : List Text.Point) : Readable (.illFormed points)
  | list {items : List Value} (h : ∀ item ∈ items, Readable item) : Readable (.list items)
  | map {entries : Value.Entries} (h : ∀ entry ∈ entries, Readable entry.2) :
      Readable (.map entries)

namespace Value

theorem Readable.ofRaw (raw : RawText) : Readable (.ofRaw raw) := by
  cases raw with
  | text s => exact .str s
  | illFormed points => exact .illFormed points

/-- The values of a map may be read if the map may. -/
theorem Readable.of_find? {entries : Entries} (h : (Value.map entries).Readable) {key : String}
    {v : Value} (hv : entries.find? key = some v) : v.Readable := by
  obtain ⟨entry, hmem, rfl⟩ := Option.map_eq_some_iff.mp hv
  cases h with
  | map hentries => exact hentries entry (List.mem_of_find?_eq_some hmem)

theorem Readable.getD_find? {entries : Entries} (h : (Value.map entries).Readable)
    (key : String) : ((entries.find? key).getD .null).Readable := by
  cases hfind : entries.find? key with
  | none => exact .null
  | some v => exact h.of_find? hfind

/-- What all entries share is shared when one of them is set to what shares it. -/
theorem Entries.forall_insert {P : RawText × Value → Prop} {entries : Entries} {key : RawText}
    {v : Value} (hv : P (key, v)) (h : ∀ entry ∈ entries, P entry) :
    ∀ entry ∈ entries.insert key v, P entry := by
  induction entries with
  | nil => simpa [Entries.insert] using hv
  | cons entry entries ih =>
    obtain ⟨k, w⟩ := entry
    obtain ⟨hw, hrest⟩ := List.forall_mem_cons.mp h
    rw [Entries.insert]
    split
    · rename_i hk
      exact List.forall_mem_cons.mpr ⟨hk ▸ hv, hrest⟩
    · exact List.forall_mem_cons.mpr ⟨hw, ih hrest⟩

/-- What all pairs share is shared by the entries that they amount to. -/
theorem Entries.forall_ofPairs {P : RawText × Value → Prop} {pairs : List (RawText × Value)}
    (h : ∀ pair ∈ pairs, P pair) : ∀ entry ∈ Entries.ofPairs pairs, P entry := by
  -- the entries that are there already are carried along
  have hfold : ∀ entries : Entries, (∀ entry ∈ entries, P entry) →
      ∀ entry ∈ pairs.foldl (fun entries pair => Entries.insert pair.1 pair.2 entries) entries,
        P entry := by
    induction pairs with
    | nil => exact fun entries he => he
    | cons pair pairs ih =>
      obtain ⟨hpair, hrest⟩ := List.forall_mem_cons.mp h
      exact fun entries he => ih hrest _ (Entries.forall_insert hpair he)
  exact hfold [] (by simp)

/-! ## Showing a value -/

/-- No integer of a value that may be read has too many digits. -/
theorem Readable.not_hasLong {v : Value} (h : v.Readable) : ¬ v.HasLong := by
  induction h with
  | int hn =>
    rw [hasLong_int, Nat.not_le]
    exact Numeral.fits_iff.mp hn
  | list _ ih =>
    rw [hasLong_list]
    rintro ⟨item, hmem, hlong⟩
    exact ih item hmem hlong
  | map _ ih =>
    rw [hasLong_map]
    rintro ⟨entry, hmem, hlong⟩
    exact ih entry hmem hlong
  | _ => rintro ⟨⟩

section Shown

variable [Nesting] {v : Value}

/-- A value that may be read can be shown in messages, if it is nested no more often than what is
read. -/
theorem Readable.quoted (h : v.Readable) (hv : v.Within Nesting.read) : ∃ s, v.quoted = .ok s :=
  quotedWithin_eq_ok_iff.mpr ⟨h.not_hasLong, hv.layers Nesting.read_lt_shown⟩

theorem Readable.shown (h : v.Readable) (hv : v.Within Nesting.read) : ∃ s, v.shown = .ok s := by
  obtain ⟨s, hs⟩ := h.quoted hv
  exact ⟨s, by rw [Value.shown, hs]; rfl⟩

theorem Readable.text (h : v.Readable) (hv : v.Within Nesting.read) : ∃ raw, v.text = .ok raw := by
  obtain ⟨s, hs⟩ := h.quoted hv
  rw [Value.text]
  cases v.raw? with
  | some raw => exact ⟨raw, rfl⟩
  | none => exact ⟨_, by rw [hs]⟩

end Shown

end Value

namespace Json

/-! ## Words -/

theorem isDigit_of_wholePart? {text whole rest : List Char}
    (h : wholePart? text = some (whole, rest)) : ∀ c ∈ whole, c.isDigit = true := by
  unfold wholePart? at h
  split at h
  · cases h
    exact List.forall_mem_singleton.mpr rfl
  · dsimp only [splitDigits] at h
    by_cases hempty : (text.takeWhile Char.isDigit).isEmpty = true
    · rw [if_pos hempty] at h
      cases h
    · rw [if_neg hempty] at h
      cases h
      exact fun c hc => List.mem_takeWhile_imp hc

theorem readable_unsignedNumber? {negative : Bool} {text : List Char} {v : Value}
    (h : unsignedNumber? (some Numeral.digitLimit) negative text = some v) :
    v.Readable ∧ v.isScalar = true := by
  have hdecimal : ∀ digits exponent,
      (Value.float (Binary64.ofDecimal negative digits exponent)).Readable
        ∧ (Value.float (Binary64.ofDecimal negative digits exponent)).isScalar = true :=
    fun digits exponent => ⟨.float (Binary64.inRange_ofDecimal negative digits exponent), rfl⟩
  rw [unsignedNumber?] at h
  split at h
  · cases h
  · rename_i whole rest hwhole
    split at h
    · cases h
    · rename_i fraction rest' _
      dsimp only at h
      split at h
      · split at h
        · split at h
          · cases h
          · rename_i hlength
            cases h
            refine ⟨.int ?_, rfl⟩
            rw [Numeral.fits_signed]
            exact Numeral.fits_ofAsciiDigits (isDigit_of_wholePart? hwhole) (by simpa using hlength)
        · cases h
          exact hdecimal _ _
      · obtain ⟨exponent, _, rfl⟩ := Option.map_eq_some_iff.mp h
        exact hdecimal _ _
      · obtain ⟨exponent, _, rfl⟩ := Option.map_eq_some_iff.mp h
        exact hdecimal _ _
      · cases h

theorem readable_of_mem_literals {literal : String × Value} (h : literal ∈ literals) :
    literal.2.Readable ∧ literal.2.isScalar = true := by
  simp only [literals, List.mem_cons, List.not_mem_nil, or_false] at h
  rcases h with rfl | rfl | rfl | rfl | rfl | rfl
  · exact ⟨.null, rfl⟩
  · exact ⟨.bool true, rfl⟩
  · exact ⟨.bool false, rfl⟩
  · exact ⟨.float trivial, rfl⟩
  · exact ⟨.float trivial, rfl⟩
  · exact ⟨.float trivial, rfl⟩

/-! ## Tokens -/

/-- Whether a token holds a value that may be read and is no list or map, if it holds one. -/
def Token.Readable : Token → Prop
  | .scalar v => v.Readable ∧ v.isScalar = true
  | _ => True

/-- A word is a literal or a number, and neither is beyond the limits. -/
theorem readable_wordToken? {word : List Char} {token : Token}
    (h : wordToken? (some Numeral.digitLimit) word = some token) : token.Readable := by
  rw [wordToken?] at h
  split at h
  · rename_i literal hliteral
    cases h
    exact readable_of_mem_literals (List.mem_of_find?_eq_some hliteral)
  · obtain ⟨v, hv, rfl⟩ := Option.map_eq_some_iff.mp h
    rw [number?.eq_def] at hv
    split at hv <;> exact readable_unsignedNumber? hv

theorem readable_punctuation? {c : Char} {token : Token} (h : punctuation? c = some token) :
    token.Readable := by
  rw [punctuation?.eq_def] at h
  split at h <;> cases h <;> trivial

theorem readable_stepBetween {c : Char} {next : Position} {tokens : List Token}
    (h : stepBetween c = some (next, tokens)) : ∀ token ∈ tokens, token.Readable := by
  rw [stepBetween] at h
  split at h
  · cases h
    simp
  · split at h
    · cases h
      simp
    · split at h
      · cases h
        simp
      · obtain ⟨token, htoken, heq⟩ := Option.map_eq_some_iff.mp h
        cases heq
        simpa using readable_punctuation? htoken

theorem readable_stepInString {read : List Text.Point} {c : Char} {next : Position}
    {tokens : List Token} (h : stepInString read c = some (next, tokens)) :
    ∀ token ∈ tokens, token.Readable := by
  rw [stepInString] at h
  split at h
  · cases h
    simp [stringToken, Token.Readable]
  · split at h
    · cases h
      simp
    · split at h <;> cases h
      simp

theorem readable_stepEscape {read : List Text.Point} {c : Char} {next : Position}
    {tokens : List Token} (h : stepEscape read c = some (next, tokens)) :
    ∀ token ∈ tokens, token.Readable := by
  rw [stepEscape] at h
  split at h
  · cases h
    simp
  · obtain ⟨d, _, heq⟩ := Option.map_eq_some_iff.mp h
    cases heq
    simp

/-- What one character completes may be read. -/
theorem readable_stepChar {position next : Position} {c : Char} {tokens : List Token}
    (h : stepChar (some Numeral.digitLimit) position c = some (next, tokens)) :
    ∀ token ∈ tokens, token.Readable := by
  cases position with
  | between => exact readable_stepBetween h
  | word read =>
    rw [stepChar] at h
    split at h
    · cases h
      simp
    · split at h
      · -- the character ends the word, and may be a token of its own
        rename_i token next' tokens' htoken hbetween
        cases h
        exact List.forall_mem_cons.mpr ⟨readable_wordToken? htoken, readable_stepBetween hbetween⟩
      · cases h
  | inString read => exact readable_stepInString h
  | escape read => exact readable_stepEscape h
  | unit read high value digitsLeft =>
    rw [stepChar] at h
    split at h
    · cases h
    · split at h <;> cases h <;> simp
  | pairMark read high =>
    rw [stepChar] at h
    split at h
    · cases h
      simp
    · exact readable_stepInString h
  | pairLetter read high =>
    rw [stepChar] at h
    split at h
    · cases h
      simp
    · exact readable_stepEscape h

theorem readable_step {position next : Position} {point : Text.Point} {tokens : List Token}
    (h : step (some Numeral.digitLimit) position point = some (next, tokens)) :
    ∀ token ∈ tokens, token.Readable := by
  cases point with
  | char c => exact readable_stepChar h
  | surrogate place =>
    rw [step, stepSurrogate.eq_def] at h
    split at h <;> cases h <;> simp

theorem readable_finish {position : Position} {tokens : List Token}
    (h : finish (some Numeral.digitLimit) position = some tokens) :
    ∀ token ∈ tokens, token.Readable := by
  rw [finish.eq_def] at h
  split at h
  · cases h
    simp
  · obtain ⟨token, htoken, rfl⟩ := Option.map_eq_some_iff.mp h
    simpa using readable_wordToken? htoken
  · cases h

/-- All tokens of a text may be read. -/
theorem readable_tokensFrom {position : Position} {done : List Token} {text : List Text.Point}
    (hdone : ∀ token ∈ done, token.Readable) :
    ∀ token ∈ tokensFrom (some Numeral.digitLimit) position done text, token.Readable := by
  induction text generalizing position done with
  | nil =>
    rw [tokensFrom]
    cases hfinish : finish (some Numeral.digitLimit) position with
    | none => simpa [Token.Readable, or_imp, forall_and] using hdone
    | some tokens =>
      have htokens := readable_finish hfinish
      simpa [or_imp, forall_and] using ⟨hdone, htokens⟩
  | cons point text ih =>
    rw [tokensFrom]
    cases hstep : step (some Numeral.digitLimit) position point with
    | none => simpa [Token.Readable, or_imp, forall_and] using hdone
    | some result =>
      obtain ⟨next, tokens⟩ := result
      have htokens := readable_step hstep
      refine ih ?_
      simpa [or_imp, forall_and] using ⟨htokens, hdone⟩

/-! ## The value of tokens -/

/-- Whether all that an open list or map holds so far may be read. -/
def Frame.Readable : Frame → Prop
  | .list items => ∀ item ∈ items, item.Readable
  | .map pairs _ => ∀ pair ∈ pairs, pair.2.Readable

/-- Whether all that the machine holds may be read. -/
def Progress.Readable : Progress → Prop
  | .value frames => ∀ frame ∈ frames, frame.Readable
  | .firstItem frames => ∀ frame ∈ frames, frame.Readable
  | .firstKey frames => ∀ frame ∈ frames, frame.Readable
  | .key frames pairs => (∀ frame ∈ frames, frame.Readable) ∧ ∀ pair ∈ pairs, pair.2.Readable
  | .colon frames pairs _ => (∀ frame ∈ frames, frame.Readable) ∧ ∀ pair ∈ pairs, pair.2.Readable
  | .complete frames v => (∀ frame ∈ frames, frame.Readable) ∧ v.Readable

theorem opening_eq_ok {limits : Limits} {frames : List Frame} {container : Container}
    {inside progress : Progress} (h : limits.opening frames container inside = .ok progress) :
    progress = inside := by
  rw [Limits.opening] at h
  split at h
  · cases h
  · cases h
    rfl

theorem readable_beginValue {limits : Limits} {frames : List Frame} {token : Token}
    {progress : Progress} (hframes : ∀ frame ∈ frames, frame.Readable) (htoken : token.Readable)
    (h : beginValue limits frames token = .ok progress) : progress.Readable := by
  cases token with
  | openList =>
    rw [opening_eq_ok h]
    exact hframes
  | openMap =>
    rw [opening_eq_ok h]
    exact hframes
  | text raw =>
    cases h
    exact ⟨hframes, .ofRaw raw⟩
  | scalar v =>
    cases h
    exact ⟨hframes, htoken.1⟩
  | _ => cases h

theorem readable_continueFrame {frames : List Frame} {v : Value} {token : Token}
    {progress : Progress} (hframes : ∀ frame ∈ frames, frame.Readable) (hv : v.Readable)
    (h : continueFrame frames v token = .ok progress) : progress.Readable := by
  rw [continueFrame.eq_def] at h
  split at h
  · cases h
    obtain ⟨hitems, houter⟩ := List.forall_mem_cons.mp hframes
    exact List.forall_mem_cons.mpr ⟨List.forall_mem_cons.mpr ⟨hv, hitems⟩, houter⟩
  · cases h
    obtain ⟨hitems, houter⟩ := List.forall_mem_cons.mp hframes
    refine ⟨houter, .list fun item hmem => ?_⟩
    exact (List.forall_mem_cons.mpr ⟨hv, hitems⟩) item (List.mem_reverse.mp hmem)
  · cases h
    obtain ⟨hpairs, houter⟩ := List.forall_mem_cons.mp hframes
    exact ⟨houter, List.forall_mem_cons.mpr ⟨hv, hpairs⟩⟩
  · cases h
    rename_i pairs key outer
    obtain ⟨hpairs, houter⟩ := List.forall_mem_cons.mp hframes
    refine ⟨houter, .map (Value.Entries.forall_ofPairs (P := fun entry => entry.2.Readable)
      fun pair hmem => ?_)⟩
    have hall : ∀ pair ∈ (key, v) :: pairs, pair.2.Readable :=
      List.forall_mem_cons.mpr ⟨hv, hpairs⟩
    exact hall pair (List.mem_reverse.mp hmem)
  · cases h

/-- What the machine holds after a token that may be read may be read. -/
theorem readable_advance {limits : Limits} {progress next : Progress} {token : Token}
    (hprogress : progress.Readable) (htoken : token.Readable)
    (h : advance limits progress token = .ok next) : next.Readable := by
  cases progress with
  | value frames => exact readable_beginValue hprogress htoken h
  | firstItem frames =>
    rw [advance.eq_def] at h
    dsimp only at h
    split at h
    · cases h
      exact ⟨hprogress, .list (by simp)⟩
    · refine readable_beginValue (List.forall_mem_cons.mpr ⟨?_, hprogress⟩) htoken h
      intro item hitem
      cases hitem
  | firstKey frames =>
    rw [advance.eq_def] at h
    dsimp only at h
    split at h
    · cases h
      exact ⟨hprogress, .map (by simp)⟩
    · cases h
      exact ⟨hprogress, by simp⟩
    · cases h
  | key frames pairs =>
    rw [advance.eq_def] at h
    dsimp only at h
    split at h <;> cases h
    exact hprogress
  | colon frames pairs key =>
    rw [advance.eq_def] at h
    dsimp only at h
    split at h <;> cases h
    exact List.forall_mem_cons.mpr ⟨hprogress.2, hprogress.1⟩
  | complete frames v => exact readable_continueFrame hprogress.1 hprogress.2 h

/-- What every token that may be read preserves holds after a run of such tokens. -/
theorem foldlM_advance_preserves {P : Progress → Prop} {limits : Limits}
    (hstep : ∀ {progress next : Progress} {token : Token}, P progress → token.Readable →
      advance limits progress token = .ok next → P next)
    {tokens : List Token} {progress last : Progress} (hprogress : P progress)
    (htokens : ∀ token ∈ tokens, token.Readable)
    (h : tokens.foldlM (advance limits) progress = .ok last) : P last := by
  induction tokens generalizing progress with
  | nil =>
    cases h
    exact hprogress
  | cons token tokens ih =>
    obtain ⟨htoken, hrest⟩ := List.forall_mem_cons.mp htokens
    rw [List.foldlM_cons] at h
    cases hadvance : advance limits progress token with
    | error e =>
      rw [hadvance] at h
      cases h
    | ok next =>
      rw [hadvance] at h
      exact ih (hstep hprogress htoken hadvance) hrest h

/-- A value that is read is complete behind a run of tokens that may be read. -/
theorem exists_run_of_read [Nesting] {bytes : List UInt8} {v : Value} (h : read bytes = .ok v) :
    ∃ tokens : List Token, (∀ token ∈ tokens, token.Readable)
      ∧ tokens.foldlM (advance .standard) (.value []) = .ok (.complete [] v) := by
  rw [read] at h
  split at h
  · rename_i points _
    rw [readPoints, ofTokens] at h
    refine ⟨tokens Limits.standard.digits points, readable_tokensFrom (by simp), ?_⟩
    cases hrun : (tokens Limits.standard.digits points).foldlM (advance .standard) (.value []) with
    | error e =>
      rw [hrun] at h
      cases h
    | ok last =>
      rw [hrun] at h
      change result last = .ok v at h
      rw [result.eq_def] at h
      split at h <;> cases h
      rfl
  · cases h

/-- What is read from bytes may be read. -/
theorem readable_of_read [Nesting] {bytes : List UInt8} {v : Value} (h : read bytes = .ok v) :
    v.Readable := by
  obtain ⟨tokens, htokens, hrun⟩ := exists_run_of_read h
  have hstart : (Progress.value []).Readable := by simp [Progress.Readable]
  exact (foldlM_advance_preserves readable_advance hstart htokens hrun).2

end Json

end IntentGateway
