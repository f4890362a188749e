import IntentGateway.Proofs.Address.Spelling

/-! # Addresses in normal form

A string holds an address if it consists of forty hexadecimal digits, behind at most one marker and
between blanks (`Address.Holds`). These are the strings that are taken as addresses. What is made of
one depends on the lower case of its digits only, and keeps them up to their case, so it is a normal
form: two strings have the same one exactly if their digits differ in letter case at most, and it is
its own (`Address.normal_form`).
-/

namespace IntentGateway

namespace Text

/-- The code points of a text are those whose characters make up the text. -/
theorem mapM_char?_eq_some_iff {points : List Point} {text : List Char} :
    points.mapM Point.char? = some text ↔ points = pointsOf text := by
  refine ⟨fun h => ?_, fun h => h ▸ mapM_char?_pointsOf text⟩
  induction points generalizing text with
  | nil =>
    cases h
    rfl
  | cons point points ih =>
    rw [List.mapM_cons] at h
    cases point with
    | surrogate place => cases h
    | char c =>
      change (points.mapM Point.char?).bind (fun rest => some (c :: rest)) = some text at h
      obtain ⟨rest, hrest, heq⟩ := Option.bind_eq_some_iff.mp h
      cases heq
      rw [ih hrest]
      rfl

end Text

namespace Address

open Text (hexDigits hexMarkers)

/-- Whether a string consists of the digits of an address, perhaps behind a marker, and perhaps with
blanks around. -/
def Holds (points : List Text.Point) (digits : List Char) : Prop :=
  digits.length = digitCount ∧ (∀ c ∈ digits, c ∈ hexDigits) ∧ ∃ before marker after,
    points = Text.pointsOf (before ++ (marker ++ digits) ++ after)
      ∧ (∀ c ∈ before, Text.isBlank c = true) ∧ (∀ c ∈ after, Text.isBlank c = true)
      ∧ marker ∈ hexMarkers

/-- Whether digits are the same up to their letter case. -/
def SameDigits (digits other : List Char) : Prop :=
  digits.map Char.toLower = other.map Char.toLower

instance (digits other : List Char) : Decidable (SameDigits digits other) :=
  inferInstanceAs (Decidable (_ = _))

/-- The digits that are read of a string are those that it holds. -/
theorem holds_iff {points : List Text.Point} {digits : List Char} :
    Holds points digits ↔ ∃ text, points = Text.pointsOf text ∧ digits? text = some digits := by
  constructor
  · rintro ⟨hlength, hdigits, before, marker, after, rfl, hbefore, hafter, hmarker⟩
    exact ⟨_, rfl, digits?_eq_some_of hbefore hafter hmarker hlength hdigits⟩
  · rintro ⟨text, rfl, h⟩
    obtain ⟨hlength, hdigits⟩ := digits?_eq_some h
    obtain ⟨before, marker, after, rfl, haround⟩ := exists_of_digits? h
    exact ⟨hlength, hdigits, before, marker, after, rfl, haround⟩

/-! ## Taking a string as an address -/

section

variable [Nesting]

/-- A string that holds an address is taken as it, in its canonical spelling. -/
theorem normalize_of_holds {points : List Text.Point} {digits : List Char}
    (h : Holds points digits) (field : String) :
    normalize field (.ofRaw (.ofPoints points))
      = .ok (String.ofList ('0' :: 'x' :: checksummed digits)) := by
  obtain ⟨text, rfl, hdigits⟩ := holds_iff.mp h
  rw [RawText.ofPoints_pointsOf]
  refine normalize_of_canonical? ?_ field
  rw [canonical?, String.toList_ofList, hdigits]
  rfl

/-- Any other string is refused, with the field that it was given in. -/
theorem normalize_of_not_holds {points : List Text.Point} (h : ∀ digits, ¬ Holds points digits)
    (field : String) :
    normalize field (.ofRaw (.ofPoints points))
      = .error (.worded .invalidAddress (field ++ " is not a valid address")
        [(field, .ofRaw (.ofPoints points))]) := by
  have hnone : (RawText.ofPoints points).text?.bind canonical? = none := by
    rw [RawText.ofPoints]
    cases htext : points.mapM Text.Point.char? with
    | none => rfl
    | some text =>
      have hpoints := Text.mapM_char?_eq_some_iff.mp htext
      have hdigits : digits? text = none := Option.eq_none_iff_forall_ne_some.mpr
        fun digits hread => h digits (holds_iff.mpr ⟨text, hpoints, hread⟩)
      change canonical? (String.ofList text) = none
      rw [canonical?, String.toList_ofList, hdigits]
      rfl
  simp only [normalize, Value.raw?_ofRaw, hnone]

omit [Nesting] in
/-- The canonical spelling holds the digits with their checksum. -/
theorem holds_canonical {digits : List Char} (hlength : digits.length = digitCount)
    (hdigits : ∀ c ∈ digits, c ∈ hexDigits) :
    Holds (Text.pointsOf ('0' :: 'x' :: checksummed digits)) (checksummed digits) :=
  holds_iff.mpr ⟨_, rfl, digits?_checksummed hdigits hlength⟩

omit [Nesting] in
/-- Digits have the same checksum exactly if they are the same up to their letter case. -/
theorem checksummed_eq_iff_sameDigits {digits other : List Char}
    (hdigits : ∀ c ∈ digits, c ∈ hexDigits) (hother : ∀ c ∈ other, c ∈ hexDigits) :
    checksummed digits = checksummed other ↔ SameDigits digits other :=
  (checksummed_eq_iff hdigits hother).trans (map_toLower_eq_iff hdigits hother).symm

/-- A string is taken as an address exactly if it holds one, and refused as none otherwise. What is
made of it consists of the marker and the same digits up to their letter case, and stays as it is
when it is taken as an address again. Two strings become the same exactly if their digits are the
same up to letter case. The fields that they are given in do not matter to that. -/
theorem normal_form (field : String) (points : List Text.Point) :
    ((∃ address, normalize field (.ofRaw (.ofPoints points)) = .ok address)
        ↔ ∃ digits, Holds points digits)
      ∧ ((∀ digits, ¬ Holds points digits) →
        normalize field (.ofRaw (.ofPoints points))
          = .error (.worded .invalidAddress (field ++ " is not a valid address")
            [(field, .ofRaw (.ofPoints points))]))
      ∧ ∀ digits, Holds points digits →
        (∃ normal, SameDigits normal digits
          ∧ normalize field (.ofRaw (.ofPoints points))
            = .ok (String.ofList ('0' :: 'x' :: normal))
          ∧ ∀ field', normalize field' (.str (String.ofList ('0' :: 'x' :: normal)))
            = .ok (String.ofList ('0' :: 'x' :: normal)))
        ∧ ∀ field' points' digits', Holds points' digits' →
          (normalize field' (.ofRaw (.ofPoints points'))
              = normalize field (.ofRaw (.ofPoints points)) ↔ SameDigits digits' digits) := by
  refine ⟨⟨fun haccepted => ?_, fun hholds => ?_⟩, fun h => normalize_of_not_holds h field,
    fun digits h => ⟨⟨checksummed digits, map_toLower_checksummed h.2.1,
      normalize_of_holds h field, fun field' => ?_⟩, fun field' points' digits' h' => ?_⟩⟩
  · obtain ⟨address, haddress⟩ := haccepted
    by_contra hnone
    rw [normalize_of_not_holds (fun digits h => hnone ⟨digits, h⟩)] at haddress
    cases haddress
  · obtain ⟨digits, h⟩ := hholds
    exact ⟨_, normalize_of_holds h field⟩
  · have hself := normalize_of_holds (holds_canonical h.1 h.2.1) field'
    rwa [RawText.ofPoints_pointsOf, checksummed_checksummed h.2.1] at hself
  · rw [normalize_of_holds h', normalize_of_holds h, Except.ok.injEq, String.ofList_inj,
      List.cons_inj_right, List.cons_inj_right]
    exact checksummed_eq_iff_sameDigits h'.2.1 h.2.1

end

/-- A spelling in capitals with blanks around it has the normal form of the spelling with the right
checksum, and that is the spelling itself. -/
theorem normal_form_of_capitals :
    let capitals := " \t0XFB6916095CA1DF60BB79CE92CE3EA74C37C5D359\n"
    let checked := "0xfB6916095ca1df60bB79Ce92cE3Ea74c37c5d359"
    normalize "payer" (.ofRaw (.ofPoints (Text.pointsOf capitals.toList)))
        = normalize "merchant" (.ofRaw (.ofPoints (Text.pointsOf checked.toList)))
      ∧ normalize "merchant" (.str checked) = .ok checked := by
  intro capitals checked
  have hcapitals : Holds (Text.pointsOf capitals.toList)
      "FB6916095CA1DF60BB79CE92CE3EA74C37C5D359".toList :=
    holds_iff.mpr ⟨_, rfl, by decide +kernel⟩
  have hchecked : Holds (Text.pointsOf checked.toList)
      "fB6916095ca1df60bB79Ce92cE3Ea74c37c5d359".toList :=
    holds_iff.mpr ⟨_, rfl, by decide +kernel⟩
  have hsame := ((normal_form "merchant" (Text.pointsOf checked.toList)).2.2 _ hchecked).2
    "payer" _ _ hcapitals
  exact ⟨hsame.mpr (by decide +kernel), normalize_of_canonical? (by decide +kernel) "merchant"⟩

end Address

end IntentGateway
