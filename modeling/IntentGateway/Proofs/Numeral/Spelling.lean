import IntentGateway.Proofs.Numeral.Decimal
import IntentGateway.Proofs.Text.Hex
import Mathlib.Data.Bool.AllAny
import Mathlib.Data.List.Forall2
import Mathlib.Data.List.TakeWhile

/-! # The texts of an integer

An integer is spelled by digits with single underscores between them, behind a sign and, in base
sixteen, behind a marker, with white space around all that (`Numeral.Spells`). A text is read as an
integer exactly if it spells that integer, in base ten with few enough digits
(`Numeral.readAs_eq_ok_iff`): of the five parts of a text each begins where none of the parts before
it can go on. What is written for an integer spells it in either base, and so is read back
(`Numeral.spells_decimalChars`, `Numeral.spells_hexText`).
-/

namespace IntentGateway

namespace Text

/-! ## Digits and white space -/

/-- The code points of decimal digits, one range for each script. -/
def decimalRanges : List (ℕ × ℕ) :=
  zeroPoints.map fun start => (start, start + 9)

/-- A sign that shows a digit is in one of the tables. -/
theorem exists_range_of_isDigitSign {c : Char} (h : isDigitSign c = true) :
    ∃ range ∈ decimalRanges ++ digitSignRanges, range.1 ≤ c.toNat ∧ c.toNat ≤ range.2 := by
  rw [isDigitSign, Bool.or_eq_true] at h
  obtain hdecimal | hsign := h
  · rw [decimalValue?, Option.isSome_map] at hdecimal
    obtain ⟨start, hstart⟩ := Option.isSome_iff_exists.mp hdecimal
    have hwithin := List.find?_some hstart
    simp only [Bool.and_eq_true, decide_eq_true_iff] at hwithin
    refine ⟨(start, start + 9), List.mem_append_left _ ?_, hwithin.1, by omega⟩
    exact List.mem_map_of_mem (List.mem_of_find?_eq_some hstart)
  · obtain ⟨range, hrange, hwithin⟩ := List.any_eq_true.mp hsign
    simp only [Bool.and_eq_true, decide_eq_true_iff] at hwithin
    exact ⟨range, List.mem_append_right _ hrange, hwithin⟩

/-- No white space shows a digit. -/
theorem isSpace_of_isDigitSign {c : Char} (h : isDigitSign c = true) : isSpace c = false := by
  obtain ⟨range, hrange, hlow, hhigh⟩ := exists_range_of_isDigitSign h
  have htables : ∀ range ∈ decimalRanges ++ digitSignRanges, ∀ space ∈ spaceRanges,
      range.2 < space.1 ∨ space.2 < range.1 := by decide +kernel
  rw [isSpace, inRanges, Bool.eq_false_iff]
  intro hspace
  obtain ⟨space, hmem, hwithin⟩ := List.any_eq_true.mp hspace
  simp only [Bool.and_eq_true, decide_eq_true_iff] at hwithin
  have hapart := htables range hrange space hmem
  omega

theorem isDigitSign_of_decimalValue? {c : Char} {d : ℕ} (h : decimalValue? c = some d) :
    isDigitSign c = true := by
  rw [isDigitSign, h]
  rfl

end Text

namespace Numeral

/-- A digit in a base is a decimal digit of some script or, in base sixteen, a hexadecimal one. -/
theorem digitValue?_eq_some {base : ℕ} {c : Char} {d : ℕ} (h : digitValue? base c = some d) :
    Text.decimalValue? c = some d ∨ base = 16 ∧ Text.hexValue? c = some d := by
  rw [digitValue?] at h
  split at h
  · rename_i hdecimal
    exact Or.inl (hdecimal.trans h)
  · split at h
    · rename_i hbase
      exact Or.inr ⟨hbase, h⟩
    · cases h

/-- A digit is no white space. -/
theorem isSpace_of_digitValue? {base : ℕ} {c : Char} {d : ℕ} (h : digitValue? base c = some d) :
    Text.isSpace c = false := by
  obtain hdecimal | ⟨-, hhex⟩ := digitValue?_eq_some h
  · exact Text.isSpace_of_isDigitSign (Text.isDigitSign_of_decimalValue? hdecimal)
  · have hdigits : ∀ k : Fin 16, Text.isSpace (Nat.digitChar k) = false
        ∧ Text.isSpace (Nat.digitChar k).toUpper = false := by decide
    obtain ⟨hd, rfl | rfl⟩ := Text.hexValue?_eq_some_iff.mp hhex
    · exact (hdigits ⟨d, hd⟩).1
    · exact (hdigits ⟨d, hd⟩).2

/-- The characters with a meaning of their own in the text of an integer. -/
def marks : List Char :=
  ['_', '+', '-', 'x', 'X']

/-- A digit is none of the marks. -/
theorem not_mem_marks {base : ℕ} {c : Char} {d : ℕ} (h : digitValue? base c = some d) :
    c ∉ marks := by
  have hmarks : ∀ c ∈ marks, Text.decimalValue? c = none ∧ Text.hexValue? c = none :=
    List.all_iff_forall_prop.mp (by decide)
  intro hc
  obtain ⟨hdecimal, hhex⟩ := hmarks c hc
  obtain h | ⟨-, h⟩ := digitValue?_eq_some h
  · rw [hdecimal] at h
    cases h
  · rw [hhex] at h
    cases h

/-- White space is none of the marks. -/
theorem isSpace_of_mem_marks : ∀ c ∈ marks, Text.isSpace c = false :=
  List.all_iff_forall_prop.mp (by decide)

/-- What is none of the marks is no sign. -/
theorem ne_sign_of_not_mem_marks {c : Char} (h : c ∉ marks) : c ≠ '+' ∧ c ≠ '-' := by
  refine ⟨?_, ?_⟩
  · rintro rfl
    exact h (by decide)
  · rintro rfl
    exact h (by decide)

/-! ## Digits with underscores -/

/-- Digits of a base with at most one underscore between any two of them, and their values. -/
inductive Grouped (base : ℕ) : List Char → List ℕ → Prop
  | last {c : Char} {d : ℕ} (digit : digitValue? base c = some d) : Grouped base [c] [d]
  | next {c : Char} {d : ℕ} {text : List Char} {digits : List ℕ}
      (digit : digitValue? base c = some d) (rest : Grouped base text digits) :
      Grouped base (c :: text) (d :: digits)
  | apart {c : Char} {d : ℕ} {text : List Char} {digits : List ℕ}
      (digit : digitValue? base c = some d) (rest : Grouped base text digits) :
      Grouped base (c :: '_' :: text) (d :: digits)

/-- What may follow a digit: nothing, further digits, or an underscore in front of them. -/
def Continued (base : ℕ) (text : List Char) (digits : List ℕ) : Prop :=
  text = [] ∧ digits = [] ∨ Grouped base text digits
    ∨ ∃ grouped, text = '_' :: grouped ∧ Grouped base grouped digits

/-- Digits end here: neither a digit nor an underscore follows. -/
def Ended (base : ℕ) (rest : List Char) : Prop :=
  ∀ c ∈ rest.head?, digitValue? base c = none ∧ c ≠ '_'

variable {base : ℕ}

theorem Grouped.of_continued {c : Char} {d : ℕ} {text : List Char} {digits : List ℕ}
    (hc : digitValue? base c = some d) (h : Continued base text digits) :
    Grouped base (c :: text) (d :: digits) := by
  obtain ⟨rfl, rfl⟩ | hgrouped | ⟨grouped, rfl, hgrouped⟩ := h
  · exact .last hc
  · exact .next hc hgrouped
  · exact .apart hc hgrouped

/-- Digits begin with one. -/
theorem Grouped.exists_cons {text : List Char} {digits : List ℕ} (h : Grouped base text digits) :
    ∃ c d rest, text = c :: rest ∧ digitValue? base c = some d := by
  cases h with
  | last hc => exact ⟨_, _, _, rfl, hc⟩
  | next hc _ => exact ⟨_, _, _, rfl, hc⟩
  | apart hc _ => exact ⟨_, _, _, rfl, hc⟩

/-- Digits without underscores are digits with at most one between any two. -/
theorem Grouped.of_forall₂ {text : List Char} {digits : List ℕ}
    (h : List.Forall₂ (fun c d => digitValue? base c = some d) text digits) (hne : text ≠ []) :
    Grouped base text digits := by
  induction h with
  | nil => exact absurd rfl hne
  | @cons c d text digits hc hrest ih =>
    cases hrest with
    | nil => exact .last hc
    | cons hd hmore => exact .next hc (ih (List.cons_ne_nil _ _))

/-- If there is no underscore among them, each character is a digit. -/
theorem Grouped.forall₂ {text : List Char} {digits : List ℕ} (h : Grouped base text digits)
    (hplain : '_' ∉ text) :
    List.Forall₂ (fun c d => digitValue? base c = some d) text digits := by
  induction h with
  | last hc => exact .cons hc .nil
  | next hc _ ih => exact .cons hc (ih fun hmem => hplain (List.mem_cons_of_mem _ hmem))
  | apart hc _ _ => exact absurd (by simp) hplain

theorem readDigits?_of_ended {rest : List Char} (h : Ended base rest) :
    readDigits? base false rest = some ([], rest) := by
  cases rest with
  | nil => rfl
  | cons c rest =>
    obtain ⟨hc, hunderscore⟩ := h c rfl
    rw [readDigits?, hc]
    exact if_neg hunderscore

/-- Digits are read to where they end. -/
theorem Grouped.readDigits? {text : List Char} {digits : List ℕ} (h : Grouped base text digits)
    {rest : List Char} (hrest : Ended base rest) (due : Bool) :
    readDigits? base due (text ++ rest) = some (digits, rest) := by
  have hunderscore : digitValue? base '_' = none := by
    cases hvalue : digitValue? base '_' with
    | none => rfl
    | some d => exact absurd (by decide) (not_mem_marks hvalue)
  induction h generalizing due with
  | last hc =>
    rw [List.singleton_append, Numeral.readDigits?, hc]
    simp only [readDigits?_of_ended hrest, Option.map_some]
  | next hc _ ih =>
    rw [List.cons_append, Numeral.readDigits?, hc]
    simp only [ih, Option.map_some]
  | apart hc _ ih =>
    rw [List.cons_append, List.cons_append, Numeral.readDigits?, hc, Numeral.readDigits?,
      hunderscore]
    simp only [Bool.false_eq_true, if_false, if_true, ih, Option.map_some]

/-- Whatever digits are read stand there, and end where the rest begins. -/
theorem grouped_of_readDigits? {due : Bool} {text rest : List Char} {digits : List ℕ}
    (h : readDigits? base due text = some (digits, rest)) :
    Ended base rest ∧ ∃ front, text = front ++ rest
      ∧ (Grouped base front digits ∨ due = false ∧ Continued base front digits) := by
  induction text generalizing due digits with
  | nil =>
    cases due with
    | true => cases h
    | false =>
      cases h
      exact ⟨nofun, [], rfl, Or.inr ⟨rfl, Or.inl ⟨rfl, rfl⟩⟩⟩
  | cons c text ih =>
    rw [readDigits?] at h
    cases hc : digitValue? base c with
    | some d =>
      rw [hc] at h
      obtain ⟨⟨more, rest'⟩, hmore, heq⟩ := Option.map_eq_some_iff.mp h
      cases heq
      obtain ⟨hended, front, rfl, hfront⟩ := ih hmore
      have hcontinued : Continued base front more := hfront.elim (Or.inr ∘ Or.inl) (·.2)
      exact ⟨hended, c :: front, rfl, Or.inl (.of_continued hc hcontinued)⟩
    | none =>
      rw [hc] at h
      simp only at h
      split_ifs at h with hdue hunderscore
      · -- behind an underscore a digit is due
        subst hunderscore
        obtain ⟨hended, front, rfl, hfront⟩ := ih h
        have hgrouped : Grouped base front digits := hfront.resolve_right (by simp)
        exact ⟨hended, '_' :: front, rfl,
          Or.inr ⟨by simpa using hdue, Or.inr (Or.inr ⟨front, rfl, hgrouped⟩)⟩⟩
      · cases h
        refine ⟨?_, [], rfl, Or.inr ⟨by simpa using hdue, Or.inl ⟨rfl, rfl⟩⟩⟩
        rintro _ ⟨⟩
        exact ⟨hc, hunderscore⟩

/-! ## The parts of a text -/

/-- The signs of an integer, and whether they make it negative. -/
def signs : List (List Char × Bool) :=
  [([], false), (['+'], false), (['-'], true)]

/-- What may stand between the sign and the digits. -/
def markersOf (base : ℕ) : List (List Char) :=
  if base = 16 then [[], ['0', 'x'], ['0', 'X'], ['0', 'x', '_'], ['0', 'X', '_']] else [[]]

/-- Whether a text spells a number without a sign, in base ten with few enough digits. White space
may follow. -/
def SpellsMagnitude (base : ℕ) (text : List Char) (n : ℕ) : Prop :=
  ∃ marker ∈ markersOf base, ∃ body digits after, text = marker ++ (body ++ after)
    ∧ Grouped base body digits ∧ (∀ c ∈ after, Text.isSpace c = true)
    ∧ (base = 10 → digits.length ≤ digitLimit) ∧ n = ofDigits base digits

/-- Whether a text spells an integer, perhaps with a sign, and perhaps with white space around. -/
def Spells (base : ℕ) (text : List Char) (n : Int) : Prop :=
  ∃ before, (∀ c ∈ before, Text.isSpace c = true) ∧ ∃ sign ∈ signs, ∃ rest m,
    text = before ++ (sign.1 ++ rest) ∧ SpellsMagnitude base rest m ∧ n = signed sign.2 m

theorem ended_of_isSpace {rest : List Char} (h : ∀ c ∈ rest, Text.isSpace c = true) :
    Ended base rest := by
  intro c hc
  have hspace := h c (List.mem_of_mem_head? hc)
  refine ⟨?_, ?_⟩
  · cases hvalue : digitValue? base c with
    | none => rfl
    | some d =>
      rw [isSpace_of_digitValue? hvalue] at hspace
      cases hspace
  · rintro rfl
    exact absurd hspace (by decide)

/-- A sign is split off what begins with no sign. -/
theorem splitSign_append {sign : List Char × Bool} (hsign : sign ∈ signs) {c : Char}
    {text : List Char} (hplus : c ≠ '+') (hminus : c ≠ '-') :
    splitSign (sign.1 ++ (c :: text)) = (sign.2, c :: text) := by
  simp only [signs, List.mem_cons, List.not_mem_nil, or_false] at hsign
  obtain rfl | rfl | rfl := hsign
  · rw [List.nil_append, splitSign] <;> simp [hplus, hminus]
  · rfl
  · rfl

/-- What is split off is a sign. -/
theorem exists_sign (text : List Char) :
    ∃ sign ∈ signs, text = sign.1 ++ (splitSign text).2 ∧ sign.2 = (splitSign text).1 := by
  rw [splitSign.eq_def]
  split
  · exact ⟨(['-'], true), by simp [signs], rfl, rfl⟩
  · exact ⟨(['+'], false), by simp [signs], rfl, rfl⟩
  · exact ⟨([], false), by simp [signs], rfl, rfl⟩

/-- The second character tells that there is no marker. -/
theorem hasHexMarker_cons {c : Char} {text : List Char} (h : ∀ d ∈ text.head?, d ∉ ['x', 'X']) :
    Text.hasHexMarker (c :: text) = false := by
  rw [Text.hasHexMarker.eq_def]
  split
  · rename_i heq
    obtain ⟨-, rfl⟩ := List.cons.inj heq
    exact absurd (by simp) (h 'x' rfl)
  · rename_i heq
    obtain ⟨-, rfl⟩ := List.cons.inj heq
    exact absurd (by simp) (h 'X' rfl)
  · rfl

/-- Digits do not look like a marker, whatever white space follows them. -/
theorem Grouped.hasHexMarker_append {body after : List Char} {digits : List ℕ}
    (h : Grouped base body digits) (hafter : ∀ c ∈ after, Text.isSpace c = true) :
    Text.hasHexMarker (body ++ after) = false := by
  have hletters : ['x', 'X'] ⊆ marks := List.subset_append_right ['_', '+', '-'] _
  cases h with
  | last hc =>
    refine hasHexMarker_cons fun d hd hletter => ?_
    have hspace := hafter d (List.mem_of_mem_head? hd)
    rw [isSpace_of_mem_marks d (hletters hletter)] at hspace
    cases hspace
  | next hc hrest =>
    obtain ⟨d, _, rest, rfl, hd⟩ := hrest.exists_cons
    refine hasHexMarker_cons ?_
    rintro _ ⟨⟩ hletter
    exact not_mem_marks hd (hletters hletter)
  | apart hc hrest =>
    refine hasHexMarker_cons ?_
    rintro _ ⟨⟩
    decide

/-- Behind the two letters of a marker only an underscore is dropped. -/
theorem dropBaseMarker_of_cons {text rest : List Char} {c : Char}
    (hmarker : Text.hasHexMarker text = true) (hrest : Text.dropHexMarker text = c :: rest)
    (hc : c ≠ '_') : dropBaseMarker 16 text = c :: rest := by
  have hlook : (decide (16 = 16) && true) = true := rfl
  rw [dropBaseMarker, hmarker, hrest, if_pos hlook]
  split
  · rename_i heq
    exact absurd (List.cons.inj heq).1 hc
  · rfl

/-- A marker is dropped in front of digits. -/
theorem Grouped.dropBaseMarker_append {marker body after : List Char} {digits : List ℕ}
    (h : Grouped base body digits) (hmarker : marker ∈ markersOf base)
    (hafter : ∀ c ∈ after, Text.isSpace c = true) :
    dropBaseMarker base (marker ++ (body ++ after)) = body ++ after := by
  have hnone : dropBaseMarker base (body ++ after) = body ++ after := by
    rw [dropBaseMarker, h.hasHexMarker_append hafter, Bool.and_false]
    exact if_neg Bool.false_ne_true
  rw [markersOf] at hmarker
  split at hmarker
  · rename_i hbase
    subst hbase
    obtain ⟨c, _, rest, rfl, hc⟩ := h.exists_cons
    have hunderscore : c ≠ '_' := by
      rintro rfl
      exact absurd (by decide) (not_mem_marks hc)
    simp only [List.mem_cons, List.not_mem_nil, or_false] at hmarker
    obtain rfl | rfl | rfl | rfl | rfl := hmarker
    · exact hnone
    · exact dropBaseMarker_of_cons rfl rfl hunderscore
    · exact dropBaseMarker_of_cons rfl rfl hunderscore
    · rfl
    · rfl
  · rw [List.mem_singleton] at hmarker
    subst hmarker
    exact hnone

/-- What is dropped in front of digits is a marker. -/
theorem exists_marker (base : ℕ) (text : List Char) :
    ∃ marker ∈ markersOf base, text = marker ++ dropBaseMarker base text := by
  rw [dropBaseMarker]
  split
  · rename_i h
    obtain ⟨hbase, hmarker⟩ := Bool.and_eq_true_iff.mp h
    rw [markersOf, if_pos (of_decide_eq_true hbase)]
    rw [Text.hasHexMarker.eq_def] at hmarker
    split at hmarker
    · rename_i rest
      rw [Text.dropHexMarker]
      split
      · exact ⟨['0', 'x', '_'], by simp, rfl⟩
      · exact ⟨['0', 'x'], by simp, rfl⟩
    · rename_i rest
      rw [Text.dropHexMarker]
      split
      · exact ⟨['0', 'X', '_'], by simp, rfl⟩
      · exact ⟨['0', 'X'], by simp, rfl⟩
    · cases hmarker
  · refine ⟨[], ?_, rfl⟩
    rw [markersOf]
    split <;> simp

/-! ## Reading -/

/-- A number without a sign begins with a digit, be it the zero of a marker. -/
theorem SpellsMagnitude.exists_cons {text : List Char} {n : ℕ} (h : SpellsMagnitude base text n) :
    ∃ c d rest, text = c :: rest ∧ digitValue? base c = some d := by
  obtain ⟨marker, hmarker, body, digits, after, rfl, hbody, -⟩ := h
  have hzero : Text.decimalValue? '0' = some 0 := by decide
  obtain rfl | ⟨rest, rfl⟩ : marker = [] ∨ ∃ rest, marker = '0' :: rest := by
    rw [markersOf] at hmarker
    split at hmarker
    · simp only [List.mem_cons, List.not_mem_nil, or_false] at hmarker
      obtain rfl | rfl | rfl | rfl | rfl := hmarker <;> simp
    · exact Or.inl (List.mem_singleton.mp hmarker)
  · obtain ⟨c, d, rest, rfl, hc⟩ := hbody.exists_cons
    exact ⟨c, d, rest ++ after, rfl, hc⟩
  · exact ⟨'0', 0, _, rfl, by rw [digitValue?, hzero]⟩

/-- A number without a sign is what is read behind a marker, up to white space. -/
theorem spellsMagnitude_iff {text : List Char} {n : ℕ} :
    SpellsMagnitude base text n ↔ ∃ digits after,
      readDigits? base true (dropBaseMarker base text) = some (digits, after)
        ∧ (∀ c ∈ after, Text.isSpace c = true)
        ∧ (base = 10 → digits.length ≤ digitLimit) ∧ n = ofDigits base digits := by
  constructor
  · rintro ⟨marker, hmarker, body, digits, after, rfl, hbody, hafter, hfew⟩
    refine ⟨digits, after, ?_, hafter, hfew⟩
    rw [hbody.dropBaseMarker_append hmarker hafter, hbody.readDigits? (ended_of_isSpace hafter)]
  · rintro ⟨digits, after, hdigits, hafter, hfew⟩
    obtain ⟨marker, hmarker, htext⟩ := exists_marker base text
    obtain ⟨-, body, hbody, hgrouped⟩ := grouped_of_readDigits? hdigits
    rw [hbody] at htext
    exact ⟨marker, hmarker, body, digits, after, htext, hgrouped.resolve_right (by simp), hafter,
      hfew⟩

/-- What spells an integer is read as it. -/
theorem Spells.readAs {text : List Char} {n : Int} (h : Spells base text n) (shown : List Char) :
    readAs base shown text = .ok n := by
  obtain ⟨before, hbefore, sign, hsign, rest, m, rfl, hrest, rfl⟩ := h
  obtain ⟨c, d, behind, rfl, hc⟩ := hrest.exists_cons
  obtain ⟨digits, after, hdigits, hafter, hfew, rfl⟩ := spellsMagnitude_iff.mp hrest
  obtain ⟨hplus, hminus⟩ := ne_sign_of_not_mem_marks (not_mem_marks hc)
  have hdrop : (before ++ (sign.1 ++ (c :: behind))).dropWhile Text.isSpace
      = sign.1 ++ (c :: behind) := by
    rw [List.dropWhile_append_of_pos hbefore]
    simp only [signs, List.mem_cons, List.not_mem_nil, or_false] at hsign
    obtain rfl | rfl | rfl := hsign
    · exact List.dropWhile_cons_of_neg (by simp [isSpace_of_digitValue? hc])
    · exact List.dropWhile_cons_of_neg (by decide)
    · exact List.dropWhile_cons_of_neg (by decide)
  rw [Numeral.readAs, hdrop, splitSign_append hsign hplus hminus]
  simp only [hdigits, List.all_eq_true.mpr hafter, if_true]
  refine if_neg ?_
  rintro ⟨hbase, hmany⟩
  exact absurd (hfew hbase) (by omega)

/-- What is read as an integer spells it. -/
theorem spells_of_readAs {shown text : List Char} {n : Int}
    (h : readAs base shown text = .ok n) : Spells base text n := by
  obtain ⟨sign, hsign, hunsigned, hnegative⟩ := exists_sign (text.dropWhile Text.isSpace)
  rw [Numeral.readAs] at h
  simp only at h
  split at h
  · cases h
  · rename_i digits after hdigits
    split_ifs at h with hmany hafter
    cases h
    refine ⟨text.takeWhile Text.isSpace, fun c hc => List.mem_takeWhile_imp hc, sign, hsign, _, _,
      ?_, spellsMagnitude_iff.mpr
        ⟨digits, after, hdigits, List.all_eq_true.mp hafter, fun hbase => ?_, rfl⟩,
      by rw [hnegative]⟩
    · rw [← hunsigned, List.takeWhile_append_dropWhile]
    · by_contra hlong
      exact hmany ⟨hbase, by omega⟩

/-- A text is read as an integer exactly if it spells it. -/
theorem readAs_eq_ok_iff {shown text : List Char} {n : Int} :
    readAs base shown text = .ok n ↔ Spells base text n :=
  ⟨spells_of_readAs, fun h => h.readAs shown⟩

/-- A text that begins neither with white space nor with a sign spells a number without a sign. -/
theorem spells_cons_iff {c : Char} {rest : List Char} {n : Int} (hspace : Text.isSpace c = false)
    (hplus : c ≠ '+') (hminus : c ≠ '-') :
    Spells base (c :: rest) n ↔ ∃ m : ℕ, SpellsMagnitude base (c :: rest) m ∧ n = m := by
  constructor
  · rintro ⟨before, hbefore, sign, hsign, text, m, htext, h, rfl⟩
    cases before with
    | cons b before =>
      obtain ⟨rfl, -⟩ := List.cons.inj htext
      rw [hbefore c List.mem_cons_self] at hspace
      cases hspace
    | nil =>
      simp only [signs, List.mem_cons, List.not_mem_nil, or_false] at hsign
      obtain rfl | rfl | rfl := hsign
      · exact ⟨m, htext ▸ h, rfl⟩
      · exact absurd (List.cons.inj htext).1 hplus
      · exact absurd (List.cons.inj htext).1 hminus
  · rintro ⟨m, h, rfl⟩
    exact ⟨[], nofun, ([], false), by simp [signs], _, m, rfl, h, rfl⟩

/-! ## Writing -/

theorem ofDigits_concat (digits : List ℕ) (d : ℕ) :
    ofDigits base (digits ++ [d]) = base * ofDigits base digits + d := by
  rw [ofDigits, List.foldl_append]
  rfl

/-- The digits of a natural number stand for it. -/
theorem exists_digits_toDigits (hbase : base = 10 ∨ base = 16) (n : ℕ) :
    ∃ digits, List.Forall₂ (fun c d => digitValue? base c = some d) (Nat.toDigits base n) digits
      ∧ ofDigits base digits = n := by
  have hdigit {d : ℕ} (hd : d < base) : digitValue? base (Nat.digitChar d) = some d := by
    have hten : ∀ k : Fin 10, digitValue? 10 (Nat.digitChar k) = some k.val := by decide
    have hsixteen : ∀ k : Fin 16, digitValue? 16 (Nat.digitChar k) = some k.val := by decide
    obtain rfl | rfl := hbase
    · exact hten ⟨d, hd⟩
    · exact hsixteen ⟨d, hd⟩
  have hmany : 1 < base := by omega
  induction n using Nat.strong_induction_on with
  | _ n ih =>
    rw [Nat.toDigits_eq_if hmany]
    split
    · rename_i hn
      exact ⟨[n], .cons (hdigit hn) .nil, by simp [ofDigits]⟩
    · rename_i hn
      obtain ⟨digits, hdigits, hvalue⟩ := ih (n / base) (Nat.div_lt_self (by omega) hmany)
      refine ⟨digits ++ [n % base], ?_, ?_⟩
      · exact List.rel_append hdigits (.cons (hdigit (Nat.mod_lt n (by omega))) .nil)
      · rw [ofDigits_concat, hvalue, Nat.div_add_mod]

/-- The sign that is written for an integer. -/
theorem exists_sign_of_int (n : Int) :
    ∃ sign ∈ signs, sign.1 = (if n < 0 then ['-'] else []) ∧ signed sign.2 n.natAbs = n := by
  by_cases hn : n < 0
  · refine ⟨(['-'], true), by simp [signs], by rw [if_pos hn], ?_⟩
    rw [signed, if_pos rfl]
    omega
  · refine ⟨([], false), by simp [signs], by rw [if_neg hn], ?_⟩
    rw [signed, if_neg Bool.false_ne_true]
    omega

/-- The digits of an integer behind its sign and a marker spell it. -/
theorem spells_digits (hbase : base = 10 ∨ base = 16) (marker : List Char)
    (hmarker : marker ∈ markersOf base) {n : Int} (hfew : base = 10 → fits n = true) :
    Spells base ((if n < 0 then ['-'] else []) ++ (marker ++ Nat.toDigits base n.natAbs)) n := by
  obtain ⟨digits, hdigits, hvalue⟩ := exists_digits_toDigits hbase n.natAbs
  obtain ⟨sign, hsign, htext, hsigned⟩ := exists_sign_of_int n
  have hmagnitude : SpellsMagnitude base (marker ++ Nat.toDigits base n.natAbs) n.natAbs := by
    refine ⟨marker, hmarker, _, digits, [], by rw [List.append_nil],
      .of_forall₂ hdigits Nat.toDigits_ne_nil, nofun, fun hten => ?_, hvalue.symm⟩
    subst hten
    rw [← hdigits.length_eq]
    exact of_decide_eq_true (hfew rfl)
  exact ⟨[], nofun, sign, hsign, _, n.natAbs, by rw [List.nil_append, htext], hmagnitude,
    hsigned.symm⟩

/-- The decimal text of an integer spells it, if it has few enough digits. -/
theorem spells_decimalChars {n : Int} (h : fits n = true) : Spells 10 (decimalChars n) n := by
  have htext : decimalChars n
      = (if n < 0 then ['-'] else []) ++ ([] ++ Nat.toDigits 10 n.natAbs) := by
    rw [decimalChars]
    split <;> rfl
  rw [htext]
  exact spells_digits (Or.inl rfl) [] (by decide) fun _ => h

/-- The hexadecimal text of an integer spells it, whatever its size. -/
theorem spells_hexText (n : Int) : Spells 16 (hexText n).toList n := by
  rw [hexText, String.toList_ofList]
  exact spells_digits (Or.inr rfl) ['0', 'x'] (by decide) nofun

end Numeral

end IntentGateway
