import IntentGateway.Proofs.Json.Floating
import IntentGateway.Proofs.Json.Nesting
import Mathlib.Data.List.Nodup

/-! # Reading back what was written

A value of null, truth values, integers, finite numbers, texts, and lists and maps of them comes
back as it was from its JSON text in UTF-8, if no integer in it has too many digits, it is not
nested too deep and no key stands twice in a map. The text is taken apart into the tokens of the
value, and the tokens build the value up again inside whatever frames are open.
-/

namespace IntentGateway

/-! ## Values that come back -/

/-- Whether a value comes back as it was, being nested so many times at most. -/
inductive Value.Faithful : ℕ → Value → Prop where
  | null {depth : ℕ} : Faithful depth .null
  | bool {depth : ℕ} (b : Bool) : Faithful depth (.bool b)
  | int {depth : ℕ} {n : Int} (h : Numeral.fits n = true) : Faithful depth (.int n)
  | float {depth : ℕ} {x : Binary64} (h : x.Canonical) : Faithful depth (.float x)
  | str {depth : ℕ} (s : String) : Faithful depth (.str s)
  | list {depth : ℕ} {items : List Value} (h : ∀ item ∈ items, Faithful depth item) :
      Faithful (depth + 1) (.list items)
  | map {depth : ℕ} {entries : Value.Entries} (h : ∀ entry ∈ entries, Faithful depth entry.2)
      (texts : ∀ entry ∈ entries, ∃ s, entry.1 = .text s) (keys : (entries.map (·.1)).Nodup) :
      Faithful (depth + 1) (.map entries)

/-- Whether a value is one of a document, whatever its size: it consists of null, truth values,
integers, finite numbers and texts, and lists and maps of them in which no key stands twice. -/
inductive Value.Document : Value → Prop where
  | null : Document .null
  | bool (b : Bool) : Document (.bool b)
  | int (n : Int) : Document (.int n)
  | float {x : Binary64} (h : x.Canonical) : Document (.float x)
  | str (s : String) : Document (.str s)
  | list {items : List Value} (h : ∀ item ∈ items, Document item) : Document (.list items)
  | map {entries : Value.Entries} (h : ∀ entry ∈ entries, Document entry.2)
      (texts : ∀ entry ∈ entries, ∃ s, entry.1 = .text s) (keys : (entries.map (·.1)).Nodup) :
      Document (.map entries)

namespace Value

theorem Faithful.ofOption {α : Type} {encode : α → Value} {depth : ℕ} {given : Option α}
    (h : ∀ a, given = some a → (encode a).Faithful depth) :
    (ofOption encode given).Faithful depth := by
  cases given with
  | none => exact .null
  | some a => exact h a rfl

/-- What comes back has been written. -/
theorem Faithful.hasForm {depth : ℕ} {v : Value} (h : v.Faithful depth) :
    Json.HasForm depth v := by
  induction h with
  | null => exact Json.hasForm_null
  | bool b => exact Json.hasForm_bool b
  | int hn => exact Json.hasForm_int.mpr hn
  | float hx => exact Json.hasForm_float.mpr hx.isSome_toRat?
  | str s => exact Json.hasForm_str s
  | list _ ih => exact Json.hasForm_list.mpr ih
  | map _ texts _ ih =>
    exact Json.hasForm_map.mpr fun entry hmem => ⟨texts entry hmem, ih entry hmem⟩

/-- What comes back is a value of a document. -/
theorem Faithful.document {depth : ℕ} {v : Value} (h : v.Faithful depth) : v.Document := by
  induction h with
  | null => exact .null
  | bool b => exact .bool b
  | int _ => exact .int _
  | float hx => exact .float hx
  | str s => exact .str s
  | list _ ih => exact .list ih
  | map _ texts keys ih => exact .map ih texts keys

/-- A value of a document comes back if it can be written. -/
theorem Document.faithful {v : Value} (hv : v.Document) {depth : ℕ} (hform : Json.HasForm depth v) :
    v.Faithful depth := by
  induction hv generalizing depth with
  | null => exact .null
  | bool b => exact .bool b
  | int n => exact .int (Json.hasForm_int.mp hform)
  | float hx => exact .float hx
  | str s => exact .str s
  | list _ ih =>
    cases depth with
    | zero => exact absurd hform (Json.not_hasForm_list_zero _)
    | succ depth => exact .list fun item hmem => ih item hmem (Json.hasForm_list.mp hform item hmem)
  | map _ texts keys ih =>
    cases depth with
    | zero => exact absurd hform (Json.not_hasForm_map_zero _)
    | succ depth =>
      have hforms := Json.hasForm_map.mp hform
      exact .map (fun entry hmem => ih entry hmem (hforms entry hmem).2) texts keys

/-- A value of a document comes back wherever it can be written and there is room for it. -/
theorem Faithful.of_within {depth room : ℕ} {v : Value} (h : v.Faithful depth)
    (hv : v.Within room) : v.Faithful room :=
  h.document.faithful (h.hasForm.of_within hv)

theorem Faithful.mono {depth room : ℕ} {v : Value} (h : v.Faithful depth) (hle : depth ≤ room) :
    v.Faithful room :=
  h.of_within (h.hasForm.within.mono hle)

namespace Entries

/-- A new key goes to the end. -/
theorem insert_of_not_mem {entries : Entries} {key : RawText} {v : Value}
    (h : key ∉ entries.map (·.1)) : entries.insert key v = entries ++ [(key, v)] := by
  induction entries with
  | nil => rfl
  | cons entry entries ih =>
    obtain ⟨k, w⟩ := entry
    simp only [List.map_cons, List.mem_cons, not_or] at h
    rw [insert, if_neg (Ne.symm h.1), ih h.2]
    rfl

/-- Pairs with different keys are the entries that they amount to. -/
theorem ofPairs_of_nodup {pairs : List (RawText × Value)} (h : (pairs.map (·.1)).Nodup) :
    ofPairs pairs = pairs := by
  -- stated for entries that are there before, whose keys none of the pairs has
  have hfold : ∀ entries : Entries, ((entries ++ pairs).map (·.1)).Nodup →
      pairs.foldl (fun entries pair => Entries.insert pair.1 pair.2 entries) entries
        = entries ++ pairs := by
    induction pairs with
    | nil => intro entries _; simp
    | cons pair pairs ih =>
      intro entries hn
      have hnew : pair.1 ∉ entries.map (·.1) := by
        rw [List.map_append, List.map_cons, List.nodup_middle, List.nodup_cons] at hn
        exact fun hmem => hn.1 (List.mem_append_left _ hmem)
      have hrest : ((entries ++ [(pair.1, pair.2)]) ++ pairs).map (·.1)
          = (entries ++ pair :: pairs).map (·.1) := by
        simp
      rw [List.foldl_cons, insert_of_not_mem hnew, ih (List.nodup_cons.mp h).2 _ (hrest ▸ hn)]
      simp
  exact hfold [] h

/-- Setting a key adds it, unless it is there. -/
theorem keys_insert (key : RawText) (v : Value) (entries : Entries) :
    (entries.insert key v).map (·.1) = if key ∈ entries.map (·.1) then entries.map (·.1)
      else entries.map (·.1) ++ [key] := by
  induction entries with
  | nil => rfl
  | cons entry entries ih =>
    obtain ⟨k, w⟩ := entry
    by_cases hk : k = key
    · -- the key is there, and keeps its place
      subst hk
      simp [insert]
    · rw [insert, if_neg hk, List.map_cons, ih]
      simp only [List.map_cons, List.mem_cons, Ne.symm hk, false_or]
      split <;> rfl

theorem nodup_insert {entries : Entries} (h : (entries.map (·.1)).Nodup) (key : RawText)
    (v : Value) : ((entries.insert key v).map (·.1)).Nodup := by
  rw [keys_insert]
  split
  · exact h
  · rename_i hnew
    exact List.nodup_append.mpr ⟨h, List.nodup_singleton _,
      fun k hk other hother heq => hnew (List.mem_singleton.mp hother ▸ heq ▸ hk)⟩

/-- In the entries that pairs amount to no key stands twice. -/
theorem nodup_ofPairs (pairs : List (RawText × Value)) : ((ofPairs pairs).map (·.1)).Nodup :=
  List.foldlRecOn (motive := fun entries : Entries => (entries.map Prod.fst).Nodup) pairs
    (fun entries pair => entries.insert pair.1 pair.2) List.nodup_nil
    fun _ h pair _ => nodup_insert h pair.1 pair.2

/-- Entries made of names hold under each of them what was made of it. -/
theorem find?_ofPairs_map (make : String → Value) {names : List String} {name : String}
    (h : name ∈ names) :
    find? (ofPairs (names.map fun name => (.text name, make name))) name = some (make name) := by
  induction names using List.reverseRecOn with
  | nil => cases h
  | append_singleton names last ih =>
    have hlast : ofPairs ((names ++ [last]).map fun name => (.text name, make name))
        = (ofPairs (names.map fun name => (.text name, make name))).insert (.text last)
          (make last) := by
      rw [ofPairs, List.map_append, List.foldl_append]
      rfl
    rw [hlast]
    -- a name that stands again at the end is set again, to the same
    obtain rfl | hne := eq_or_ne name last
    · exact find?_insert_self _ _ _
    · rw [find?_insert_of_ne _ _ hne]
      exact ih ((List.mem_append.mp h).resolve_right (by simpa using hne))

end Entries

end Value

namespace Json

/-! ## From text to tokens -/

mutual

/-- The tokens that a value consists of. -/
def tokensOf : Value → List Token
  | .str s => [.text (.text s)]
  | .list items => .openList :: tokensOfItems items ++ [.closeList]
  | .map entries => .openMap :: tokensOfEntries entries ++ [.closeMap]
  | v => [.scalar v]

/-- The tokens of items with commas between them. -/
def tokensOfItems : List Value → List Token
  | [] => []
  | [item] => tokensOf item
  | item :: items => tokensOf item ++ .comma :: tokensOfItems items

/-- The tokens of entries with commas between them. -/
def tokensOfEntries : List (RawText × Value) → List Token
  | [] => []
  | [(key, v)] => .text key :: .colon :: tokensOf v
  | (key, v) :: entries => .text key :: .colon :: tokensOf v ++ .comma :: tokensOfEntries entries

end

/-- Whether a text is taken apart into tokens, whatever ends it. -/
def LexesTo (text : List Char) (tokens : List Token) : Prop :=
  ∀ rest, Delimited rest → ∀ done,
    tokensFrom standardDigits .between done (Text.pointsOf (text ++ rest))
      = tokensFrom standardDigits .between (tokens.reverse ++ done) (Text.pointsOf rest)

theorem lexesTo_nil : LexesTo [] [] :=
  fun _ _ _ => rfl

theorem lexesTo_writeString (s : String) : LexesTo (writeString s) [.text (.text s)] :=
  fun rest _ done => tokens_of_writeString s done rest

theorem LexesTo.comma {text more : List Char} {tokens others : List Token}
    (h : LexesTo text tokens) (h' : LexesTo more others) :
    LexesTo (text ++ ',' :: more) (tokens ++ .comma :: others) := by
  intro rest hrest done
  rw [List.append_assoc, List.cons_append, h _ (delimited_comma _),
    tokensFrom_punctuation (t := .comma) rfl, h' rest hrest]
  simp

/-- Behind a key and its colon stands the value. -/
theorem LexesTo.entry {text : List Char} {tokens : List Token} (h : LexesTo text tokens)
    (s : String) :
    LexesTo (writeString s ++ ':' :: text) (.text (.text s) :: .colon :: tokens) := by
  intro rest hrest done
  rw [List.append_assoc, List.cons_append, tokens_of_writeString,
    tokensFrom_punctuation (t := .colon) rfl, h rest hrest]
  simp

theorem LexesTo.inList {text : List Char} {tokens : List Token} (h : LexesTo text tokens) :
    LexesTo ('[' :: text ++ [']']) (.openList :: tokens ++ [.closeList]) := by
  intro rest _ done
  rw [List.cons_append, List.cons_append, tokensFrom_punctuation (t := .openList) rfl,
    List.append_assoc, List.singleton_append, h _ (delimited_closeList rest),
    tokensFrom_punctuation (t := .closeList) rfl]
  simp

theorem LexesTo.inMap {text : List Char} {tokens : List Token} (h : LexesTo text tokens) :
    LexesTo ('\x7b' :: text ++ ['\x7d']) (.openMap :: tokens ++ [.closeMap]) := by
  intro rest _ done
  rw [List.cons_append, List.cons_append, tokensFrom_punctuation (t := .openMap) rfl,
    List.append_assoc, List.singleton_append, h _ (delimited_closeMap rest),
    tokensFrom_punctuation (t := .closeMap) rfl]
  simp

/-! ## The text of a value -/

/-- What is known of the text of a value: it is taken apart into the tokens of the value, begins
with an ASCII character, and holds no zero. -/
structure Written (text : List Char) (tokens : List Token) : Prop where
  lexes : LexesTo text tokens
  lead : ∃ c rest, text = c :: rest ∧ c.toNat < 0x80
  noNul : '\x00' ∉ text

theorem Written.ne_nil {text : List Char} {tokens : List Token} (h : Written text tokens) :
    text ≠ [] := by
  obtain ⟨c, rest, rfl, _⟩ := h.lead
  exact List.cons_ne_nil c rest

theorem isDigit_ascii {c : Char} (h : c.isDigit = true) : c.toNat < 0x80 ∧ c ≠ '\x00' := by
  have hc := Numeral.toNat_of_isDigit h
  refine ⟨by omega, ?_⟩
  rintro rfl
  exact absurd h (by decide)

/-- A number behind its sign is one token. -/
theorem written_signedText {text : List Char} (h : NumberText text) {negative : Bool} {v : Value}
    (hv : unsignedNumber? standardDigits negative text = some v) :
    Written (signedText negative text) [.scalar v] := by
  obtain ⟨d, rest, rfl, hd⟩ := h.lead
  refine ⟨fun more hmore done => ?_, ?_, fun hmem => ?_⟩
  · refine tokens_of_word ?_ (fun c hc => isWordChar_of_mem_signedText h hc)
      (wordToken?_signedText h hv) hmore done
    cases negative <;> exact List.cons_ne_nil _ _
  · cases negative with
    | true => exact ⟨'-', _, rfl, by decide⟩
    | false => exact ⟨d, rest, rfl, (isDigit_ascii hd).1⟩
  · exact absurd (isWordChar_of_mem_signedText h hmem) (by decide)

theorem written_int {n : Int} (h : Numeral.fits n = true) :
    Written (Numeral.decimalChars n) [.scalar (.int n)] := by
  rw [decimalChars_eq]
  exact written_signedText (numberText_toDigits _) (unsignedNumber?_natAbs h)

theorem written_float {x : Binary64} (h : x.Canonical) :
    Written (looseFloat x) [.scalar (.float x)] := by
  obtain ⟨negative, text, hform, htext, hread⟩ := exists_signedText_of_canonical h
  rw [hform]
  exact written_signedText htext hread

/-- A literal is one token. -/
theorem written_literal {word : String} {v : Value}
    (h : (word, v) ∈ [("null", .null), ("true", .bool true), ("false", .bool false)]) :
    Written word.toList [.scalar v] := by
  simp only [List.mem_cons, List.not_mem_nil, or_false, Prod.mk.injEq] at h
  rcases h with ⟨rfl, rfl⟩ | ⟨rfl, rfl⟩ | ⟨rfl, rfl⟩
  all_goals
    refine ⟨fun rest hrest done => ?_, ⟨_, _, rfl, by decide⟩, by decide⟩
    exact tokens_of_word (by decide) (List.all_eq_true.mp rfl) rfl hrest done

theorem nul_not_mem_escapeChar (c : Char) : '\x00' ∉ escapeChar c := by
  unfold escapeChar
  split
  case h_8 =>
    -- a control character is written by its number, and zero is one of them
    split
    · rename_i hcontrol
      generalize c.toNat = n at hcontrol
      interval_cases n <;> decide
    · rename_i hcontrol
      rw [List.mem_singleton]
      rintro rfl
      exact absurd hcontrol (by decide)
  all_goals decide

theorem nul_not_mem_writeString (s : String) : '\x00' ∉ writeString s := by
  simp only [writeString, List.cons_append, List.mem_cons, List.mem_append, List.mem_flatMap,
    List.not_mem_nil, or_false]
  rintro (hquote | ⟨c, _, hmem⟩ | hquote)
  · exact absurd hquote (by decide)
  · exact nul_not_mem_escapeChar c hmem
  · exact absurd hquote (by decide)

theorem written_str (s : String) : Written (writeString s) [.text (.text s)] :=
  ⟨lexesTo_writeString s, ⟨'"', _, rfl, by decide⟩, nul_not_mem_writeString s⟩

variable {room : ℕ}

theorem separated_nil (text : List Char) : separated text [] = text :=
  rfl

theorem separated_of_ne_nil {text rest : List Char} (h : rest ≠ []) :
    separated text rest = text ++ ',' :: rest := by
  rw [separated, if_neg (by simpa using h)]

/-- The text of items is taken apart into their tokens. Only no items are written as nothing, so the
text of an item is followed by a comma exactly if other items follow. -/
theorem written_items {items : List Value}
    (hitems : ∀ item ∈ items, ∀ text, writeWithin false room item = .ok text →
      Written text (tokensOf item))
    {text : List Char} (h : writeItems false room items = .ok text) :
    LexesTo text (tokensOfItems items) ∧ '\x00' ∉ text ∧ (text = [] → items = []) := by
  induction items generalizing text with
  | nil =>
    cases h
    exact ⟨lexesTo_nil, by simp, fun _ => rfl⟩
  | cons item items ih =>
    obtain ⟨hitem, hrest⟩ := List.forall_mem_cons.mp hitems
    obtain ⟨first, rest, hfirst, hmore, rfl⟩ := joined_eq_ok_iff.mp h
    have hw := hitem first hfirst
    cases items with
    | nil =>
      -- the last item: nothing is written behind it
      cases hmore
      rw [separated_nil, tokensOfItems]
      exact ⟨hw.lexes, hw.noNul, fun hnil => absurd hnil hw.ne_nil⟩
    | cons next others =>
      -- something is written behind it, so there is a comma between
      obtain ⟨hlexes, hnul, hempty⟩ := ih hrest hmore
      rw [separated_of_ne_nil fun hnil => nomatch hempty hnil]
      refine ⟨by rw [tokensOfItems]; exact hw.lexes.comma hlexes; simp, ?_, by simp⟩
      simp [hw.noNul, hnul]

/-- The same holds of entries, each of which is a key, a colon and a value. -/
theorem written_entries {entries : List (RawText × Value)}
    (hentries : ∀ entry ∈ entries, ∀ text, writeWithin false room entry.2 = .ok text →
      Written text (tokensOf entry.2))
    {text : List Char} (h : writeEntries false room entries = .ok text) :
    LexesTo text (tokensOfEntries entries) ∧ '\x00' ∉ text ∧ (text = [] → entries = []) := by
  induction entries generalizing text with
  | nil =>
    cases h
    exact ⟨lexesTo_nil, by simp, fun _ => rfl⟩
  | cons entry entries ih =>
    obtain ⟨key, v⟩ := entry
    obtain ⟨hentry, hrest⟩ := List.forall_mem_cons.mp hentries
    obtain ⟨_, rest, hfirst, hmore, rfl⟩ := joined_eq_ok_iff.mp h
    obtain ⟨_, value, hname, hvalue, rfl⟩ := joined_eq_ok_iff.mp hfirst
    have hw := hentry value hvalue
    cases key with
    | illFormed points => cases hname
    | text s =>
      cases hname
      -- behind the key and the colon it is as with items
      have hnul := nul_not_mem_writeString s
      cases entries with
      | nil =>
        cases hmore
        rw [separated_nil, tokensOfEntries, keyed]
        refine ⟨hw.lexes.entry s, ?_, by simp⟩
        simp [hw.noNul, hnul]
      | cons next others =>
        obtain ⟨hlexes, hnul', hempty⟩ := ih hrest hmore
        rw [separated_of_ne_nil fun hnil => nomatch hempty hnil]
        refine ⟨by rw [tokensOfEntries]; exact (hw.lexes.entry s).comma hlexes; simp, ?_, by simp⟩
        simp [keyed, hw.noNul, hnul, hnul']

/-- The text of a value that comes back is taken apart into the tokens of the value. -/
theorem written_of_faithful {depth : ℕ} {v : Value} (hv : v.Faithful depth) {text : List Char}
    (h : writeWithin false room v = .ok text) : Written text (tokensOf v) := by
  induction hv generalizing room text with
  | null =>
    cases h
    exact written_literal (by simp)
  | bool b =>
    cases h
    cases b with
    | true => exact written_literal (by simp)
    | false => exact written_literal (by simp)
  | int hn =>
    rw [writeWithin, if_pos hn, Except.ok.injEq] at h
    subst h
    exact written_int hn
  | float hx =>
    rw [writeWithin, hx.isSome_toRat?, Bool.true_or, if_pos rfl, Except.ok.injEq] at h
    subst h
    exact written_float hx
  | str s =>
    cases h
    exact written_str s
  | list _ ih =>
    -- what is inside has one level less, and its text stands between the brackets
    cases room with
    | zero => cases h
    | succ room =>
      rw [writeWithin, map_eq_ok_iff] at h
      obtain ⟨inner, hinner, rfl⟩ := h
      obtain ⟨hlexes, hnul, _⟩ := written_items (fun item hmem text => ih item hmem) hinner
      refine ⟨by rw [tokensOf]; exact hlexes.inList, ⟨'[', _, rfl, by decide⟩, ?_⟩
      simp [hnul]
  | map _ _ _ ih =>
    cases room with
    | zero => cases h
    | succ room =>
      rw [writeWithin, map_eq_ok_iff] at h
      obtain ⟨inner, hinner, rfl⟩ := h
      obtain ⟨hlexes, hnul, _⟩ := written_entries (fun entry hmem text => ih entry hmem) hinner
      refine ⟨by rw [tokensOf]; exact hlexes.inMap, ⟨'\x7b', _, rfl, by decide⟩, ?_⟩
      simp [hnul]

/-! ## From tokens to the value -/

theorem tokensOfItems_cons (item : Value) (items : List Value) :
    tokensOfItems (item :: items)
      = tokensOf item ++ items.flatMap fun next => .comma :: tokensOf next := by
  induction items generalizing item with
  | nil => simp [tokensOfItems]
  | cons next items ih =>
    rw [tokensOfItems, ih next, List.flatMap_cons, List.cons_append]
    simp

theorem tokensOfEntries_cons (key : RawText) (v : Value) (entries : List (RawText × Value)) :
    tokensOfEntries ((key, v) :: entries)
      = .text key :: .colon :: tokensOf v
        ++ entries.flatMap fun next => .comma :: .text next.1 :: .colon :: tokensOf next.2 := by
  induction entries generalizing key v with
  | nil => simp [tokensOfEntries]
  | cons next entries ih =>
    obtain ⟨k, w⟩ := next
    rw [tokensOfEntries, ih k w, List.flatMap_cons, List.cons_append]
    · simp
    · simp

/-- Tokens that lead from one place to another lead on from there. -/
theorem foldlM_append_of_eq {limits : Limits} {tokens more : List Token} {start middle : Progress}
    (h : tokens.foldlM (advance limits) start = .ok middle) :
    (tokens ++ more).foldlM (advance limits) start = more.foldlM (advance limits) middle := by
  rw [List.foldlM_append, h]
  rfl

theorem foldlM_cons_of_eq {limits : Limits} {token : Token} {more : List Token}
    {start middle : Progress} (h : advance limits start token = .ok middle) :
    (token :: more).foldlM (advance limits) start = more.foldlM (advance limits) middle := by
  rw [List.foldlM_cons, h]
  rfl

section Building

variable [Nesting]

/-- Whether tokens build a value up wherever a value is due. -/
def Builds (depth : ℕ) (tokens : List Token) (v : Value) : Prop :=
  ∀ frames : List Frame, frames.length + depth ≤ Nesting.read →
    tokens.foldlM (advance .standard) (.value frames) = .ok (.complete frames v)

/-- A list or a map may be opened while there is room for what it holds. -/
theorem opening_of_le {depth : ℕ} {frames : List Frame}
    (h : frames.length + (depth + 1) ≤ Nesting.read) (container : Container) (inside : Progress) :
    Limits.standard.opening frames container inside = .ok inside := by
  have hroom : Limits.standard.depth.any (· ≤ frames.length) = false := by
    simp only [Limits.standard, Option.any_some, decide_eq_false_iff_not]
    omega
  rw [Limits.opening, hroom]
  rfl

/-- Behind the bracket of a list, the first item begins as behind a comma. -/
theorem foldlM_firstItem {depth : ℕ} {tokens : List Token} {item : Value} {frames : List Frame}
    (h : Builds depth tokens item) (hroom : frames.length + (depth + 1) ≤ Nesting.read) :
    tokens.foldlM (advance .standard) (.firstItem frames)
      = .ok (.complete (.list [] :: frames) item) := by
  have hvalue := h (.list [] :: frames) (by rw [List.length_cons]; omega)
  cases tokens with
  | nil => cases hvalue
  | cons token tokens =>
    rw [List.foldlM_cons] at hvalue ⊢
    cases token with
    | closeList => cases hvalue
    | _ => exact hvalue

/-- Behind an item, the other items follow, and the bracket closes the list. -/
theorem foldlM_items {depth : ℕ} {items : List Value}
    (hitems : ∀ item ∈ items, Builds depth (tokensOf item) item) {frames : List Frame}
    (hroom : frames.length + (depth + 1) ≤ Nesting.read) (before : List Value) (item : Value) :
    ((items.flatMap fun next => Token.comma :: tokensOf next) ++ [Token.closeList]).foldlM
        (advance .standard) (.complete (.list before :: frames) item)
      = .ok (.complete frames (.list (before.reverse ++ item :: items))) := by
  induction items generalizing before item with
  | nil =>
    -- the bracket takes the items from the frame, where they stand backwards
    have hclose : advance .standard (.complete (.list before :: frames) item) .closeList
        = .ok (.complete frames (.list (item :: before).reverse)) := rfl
    rw [List.flatMap_nil, List.nil_append, foldlM_cons_of_eq hclose, List.reverse_cons]
    rfl
  | cons next items ih =>
    obtain ⟨hnext, hrest⟩ := List.forall_mem_cons.mp hitems
    -- the comma puts the item into the frame, and the next value is due
    have hcomma : advance .standard (.complete (.list before :: frames) item) .comma
        = .ok (.value (.list (item :: before) :: frames)) := rfl
    have hroom' : (Frame.list (item :: before) :: frames).length + depth ≤ Nesting.read := by
      rw [List.length_cons]
      omega
    rw [List.flatMap_cons, List.cons_append, List.cons_append, foldlM_cons_of_eq hcomma,
      List.append_assoc, foldlM_append_of_eq (hnext _ hroom'), ih hrest]
    simp

/-- Behind an entry, the other entries follow, and the brace closes the map. -/
theorem foldlM_entries {depth : ℕ} {entries : List (RawText × Value)}
    (hentries : ∀ entry ∈ entries, Builds depth (tokensOf entry.2) entry.2) {frames : List Frame}
    (hroom : frames.length + (depth + 1) ≤ Nesting.read) (before : List (RawText × Value))
    (key : RawText) (v : Value) :
    ((entries.flatMap fun next : RawText × Value =>
        Token.comma :: .text next.1 :: .colon :: tokensOf next.2)
        ++ [Token.closeMap]).foldlM (advance .standard) (.complete (.map before key :: frames) v)
      = .ok (.complete frames
        (.map (Value.Entries.ofPairs (before.reverse ++ (key, v) :: entries)))) := by
  induction entries generalizing before key v with
  | nil =>
    -- the brace takes the pairs from the frame, and makes the entries of them
    have hclose : advance .standard (.complete (.map before key :: frames) v) .closeMap
        = .ok (.complete frames
          (.map (Value.Entries.ofPairs ((key, v) :: before).reverse))) := rfl
    rw [List.flatMap_nil, List.nil_append, foldlM_cons_of_eq hclose, List.reverse_cons]
    rfl
  | cons next entries ih =>
    obtain ⟨k, w⟩ := next
    obtain ⟨hnext, hrest⟩ := List.forall_mem_cons.mp hentries
    -- a comma, the key and a colon, and the next value is due
    have hcomma : advance .standard (.complete (.map before key :: frames) v) .comma
        = .ok (.key frames ((key, v) :: before)) := rfl
    have hkey : advance .standard (.key frames ((key, v) :: before)) (.text k)
        = .ok (.colon frames ((key, v) :: before) k) := rfl
    have hcolon : advance .standard (.colon frames ((key, v) :: before) k) .colon
        = .ok (.value (.map ((key, v) :: before) k :: frames)) := rfl
    have hroom' : (Frame.map ((key, v) :: before) k :: frames).length + depth ≤ Nesting.read := by
      rw [List.length_cons]
      omega
    simp only [List.flatMap_cons, List.cons_append, List.append_assoc]
    rw [foldlM_cons_of_eq hcomma, foldlM_cons_of_eq hkey, foldlM_cons_of_eq hcolon,
      foldlM_append_of_eq (hnext _ hroom'), ih hrest]
    simp

/-- The tokens of a value build it up. -/
theorem builds_of_faithful {depth : ℕ} {v : Value} (hv : v.Faithful depth) :
    Builds depth (tokensOf v) v := by
  induction hv with
  | null => exact fun frames _ => by simp [tokensOf, advance, beginValue]
  | bool b => exact fun frames _ => by simp [tokensOf, advance, beginValue]
  | int hn => exact fun frames _ => by simp [tokensOf, advance, beginValue]
  | float hx => exact fun frames _ => by simp [tokensOf, advance, beginValue]
  | str s => exact fun frames _ => by rw [tokensOf]; rfl
  | @list depth items _ ih =>
    intro frames hroom
    have hopen : advance .standard (.value frames) .openList = .ok (.firstItem frames) :=
      opening_of_le hroom .list (.firstItem frames)
    rw [tokensOf, List.cons_append, foldlM_cons_of_eq hopen]
    -- the machine expects the first item elsewhere than those behind a comma
    cases items with
    | nil => rfl
    | cons item items =>
      obtain ⟨hitem, hrest⟩ := List.forall_mem_cons.mp ih
      rw [tokensOfItems_cons, List.append_assoc, foldlM_append_of_eq (foldlM_firstItem hitem hroom),
        foldlM_items hrest hroom]
      rfl
  | @map depth entries _ _ keys ih =>
    intro frames hroom
    have hopen : advance .standard (.value frames) .openMap = .ok (.firstKey frames) :=
      opening_of_le hroom .map (.firstKey frames)
    rw [tokensOf, List.cons_append, foldlM_cons_of_eq hopen]
    -- so it does the first key
    cases entries with
    | nil => rfl
    | cons entry entries =>
      obtain ⟨key, v⟩ := entry
      obtain ⟨hentry, hrest⟩ := List.forall_mem_cons.mp ih
      have hkey : advance .standard (.firstKey frames) (.text key)
          = .ok (.colon frames [] key) := rfl
      have hcolon : advance .standard (.colon frames [] key) .colon
          = .ok (.value (.map [] key :: frames)) := rfl
      have hroom' : (Frame.map [] key :: frames).length + depth ≤ Nesting.read := by
        rw [List.length_cons]
        omega
      simp only [tokensOfEntries_cons, List.cons_append, List.append_assoc]
      rw [foldlM_cons_of_eq hkey, foldlM_cons_of_eq hcolon, foldlM_append_of_eq (hentry _ hroom'),
        foldlM_entries hrest hroom, List.reverse_nil, List.nil_append,
        Value.Entries.ofPairs_of_nodup keys]

end Building

/-! ## From bytes to text -/

theorem utf8EncodeChar_of_ascii {c : Char} (h : c.toNat < 0x80) :
    String.utf8EncodeChar c = [UInt8.ofNat c.toNat] := by
  have hle : c.val.toNat ≤ 0x7f := Nat.le_of_lt_succ h
  simp only [String.utf8EncodeChar, if_pos hle]
  rfl

theorem ofNat_ne_zero {n : ℕ} (h : 0 < n) (h' : n < 256) : UInt8.ofNat n ≠ 0 := by
  intro hzero
  have hn := congrArg UInt8.toNat hzero
  rw [UInt8.toNat_ofNat_of_lt' h'] at hn
  exact absurd hn (Nat.pos_iff_ne_zero.mp h)

/-- Only the character zero has a zero among its bytes. -/
theorem zero_not_mem_utf8EncodeChar {c : Char} (h : c ≠ '\x00') :
    0 ∉ String.utf8EncodeChar c := by
  have hpos : 0 < c.val.toNat := by
    refine Nat.pos_of_ne_zero fun hzero => h ?_
    rw [← Char.ofNat_toNat c, Char.toNat, hzero]
  simp only [String.utf8EncodeChar]
  -- a leading byte has its mark, and so has each byte behind it
  split_ifs
  all_goals
    simp only [List.mem_cons, List.not_mem_nil, or_false, not_or]
    and_intros
    all_goals exact (ofNat_ne_zero (by omega) (by omega)).symm

theorem zero_not_mem_utf8Bytes {text : List Char} (h : '\x00' ∉ text) :
    0 ∉ Text.utf8Bytes text := by
  rw [Text.utf8Bytes, List.mem_flatMap]
  rintro ⟨c, hc, hmem⟩
  refine zero_not_mem_utf8EncodeChar ?_ hmem
  rintro rfl
  exact h hc

/-- Bytes that begin with ASCII and hold no zero are taken for UTF-8. -/
theorem detectEncoding_of_ascii {byte : UInt8} {bytes : List UInt8} (hascii : byte < 0x80)
    (h : 0 ∉ byte :: bytes) : Text.detectEncoding (byte :: bytes) = (.utf8, byte :: bytes) := by
  obtain ⟨hbyte, hbytes⟩ : 0 ≠ byte ∧ 0 ∉ bytes := by simpa [not_or] using h
  have hzeros : Text.encodingByZeros (byte :: bytes) = .utf8 := by
    unfold Text.encodingByZeros
    split <;> simp_all
  unfold Text.detectEncoding
  split
  case h_1 => simp_all
  case h_6 => rw [hzeros]
  -- the marks of the encodings are no ASCII
  all_goals
    rename_i heq
    cases heq
    exact absurd hascii (by decide)

/-- A text that begins with ASCII and holds no zero is found in its bytes. -/
theorem decode?_utf8Bytes {c : Char} {rest : List Char} (hc : c.toNat < 0x80)
    (h : '\x00' ∉ c :: rest) :
    Text.decode? (Text.utf8Bytes (c :: rest)) = some (Text.pointsOf (c :: rest)) := by
  have hbytes : Text.utf8Bytes (c :: rest) = UInt8.ofNat c.toNat :: Text.utf8Bytes rest := by
    rw [Text.utf8Bytes, List.flatMap_cons, utf8EncodeChar_of_ascii hc]
    rfl
  have hascii : UInt8.ofNat c.toNat < 0x80 := by
    rw [UInt8.lt_iff_toNat_lt, UInt8.toNat_ofNat_of_lt' (lt_trans hc (by decide))]
    exact hc
  have hzero := zero_not_mem_utf8Bytes h
  rw [hbytes] at hzero
  rw [Text.decode?, hbytes, detectEncoding_of_ascii hascii hzero, ← hbytes]
  exact Text.ofUtf8?_utf8Bytes (c :: rest)

/-! ## The round trip -/

section RoundTrip

variable [Nesting] {v : Value}

/-- A value that is not nested too deep comes back as it was from the bytes of its text. -/
theorem read_of_write (hv : v.Faithful Nesting.read) {text : List Char} (h : write v = .ok text) :
    read (Text.utf8Bytes text) = .ok v := by
  have hw := written_of_faithful hv h
  -- the text begins with ASCII and holds no zero, so it is found in its bytes
  obtain ⟨c, rest, rfl, hc⟩ := hw.lead
  have htokens : tokens standardDigits (Text.pointsOf (c :: rest)) = tokensOf v := by
    have hlex := hw.lexes [] delimited_nil []
    rw [List.append_nil, List.append_nil] at hlex
    rw [tokens, hlex, Text.pointsOf, List.map_nil, tokensFrom, List.reverse_reverse]
    simp [finish]
  -- no frames are open around the whole document
  have hbuild : (tokensOf v).foldlM (advance .standard) (.value []) = .ok (.complete [] v) :=
    builds_of_faithful hv [] (by simp)
  rw [read, decode?_utf8Bytes hc hw.noNul]
  simp only [readPoints]
  rw [show Limits.standard.digits = standardDigits from rfl, htokens, ofTokens, hbuild]
  rfl

/-- So where there is room for it, a value that comes back is written, and read back from what was
written. -/
theorem exists_write_of_faithful {depth : ℕ} (hv : v.Faithful depth)
    (hread : depth ≤ Nesting.read) (hwritten : depth ≤ Nesting.written) :
    ∃ text, write v = .ok text ∧ read (Text.utf8Bytes text) = .ok v := by
  obtain ⟨text, htext⟩ := hv.hasForm.mono hwritten
  exact ⟨text, htext, read_of_write (hv.mono hread) htext⟩

end RoundTrip

end Json

end IntentGateway
