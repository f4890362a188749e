import IntentGateway.Proofs.Json.Reading
import IntentGateway.Refusal.Received

/-! # What an endpoint's error amounts to

Whatever an endpoint sends as the error of a reply, it is to be told as a refusal under the
protocol. That is so but for maps whose code is none of those listed, and whose number either cannot
be looked up or names a reason that is not built with a code.
-/

namespace IntentGateway.Refusal

open Value (Readable)

/-- The reasons that are named by a number but take no code. -/
def takingNoCode : List Reason :=
  [.unreadable, .invalidRequest, .methodNotFound, .invalidParams]

/-- Whether no refusal is built for a number: it cannot be looked up, or its reason takes no code.
-/
def BuildsNone (number : Value) : Prop :=
  (∃ items, number = .list items) ∨ (∃ entries, number = .map entries)
    ∨ ∃ reason ∈ takingNoCode, number.equalsInt reason.number = true

/-- Whether an error member is told as no refusal: it is a map, its code is none of those listed,
and no refusal is built for its number. -/
def Untold [Nesting] (error : Value) : Prop :=
  ∃ entries code details, error = .map entries
    ∧ receivedData (Value.Entries.find? entries "data") = .ok (code, details)
    ∧ reasonOfCode? code = none
    ∧ BuildsNone ((Value.Entries.find? entries "code").getD .null)

/-! ## Members -/

/-- A member that was read has a text. -/
theorem textOr_of_readable [Nesting] (default : String) (member : Option Value)
    (h : ∀ v, member = some v → v.Readable ∧ v.Within Nesting.read) :
    ∃ raw, textOr default member = .ok raw := by
  cases member with
  | none => exact ⟨_, rfl⟩
  | some v =>
    obtain ⟨hread, hwithin⟩ := h v rfl
    obtain ⟨raw, hraw⟩ := hread.text hwithin
    rw [textOr]
    split
    · exact ⟨raw, by rw [hraw]; rfl⟩
    · exact ⟨_, rfl⟩

/-- The data of an error that was read have a code and details. -/
theorem receivedData_of_readable [Nesting] (data : Option Value)
    (h : ∀ v, data = some v → v.Readable ∧ v.Within Nesting.read) :
    ∃ code details, receivedData data = .ok (code, details) := by
  rw [receivedData.eq_def]
  split
  · rename_i entries
    obtain ⟨code, hcode⟩ := textOr_of_readable "" (Value.Entries.find? entries "error_code")
      fun v hv => ⟨(h _ rfl).1.of_find? hv, (h _ rfl).2.of_find? hv⟩
    rw [hcode]
    exact ⟨code, _, rfl⟩
  · exact ⟨_, _, rfl⟩

/-! ## Reasons -/

/-- Every reason that is named by a code or a number stands under the protocol. -/
theorem isUnder_protocol_of_named {reason : Reason}
    (h : reason ∈ namedByCode ∨ reason ∈ namedByNumber ∨ reason = .protocol) :
    reason.isUnder .protocol = true := by
  rcases h with h | h | rfl
  · revert reason
    decide
  · revert reason
    decide
  · rfl

/-- The reason of a number that can be looked up. -/
def numbered (number : Value) : Reason :=
  (namedByNumber.find? fun reason => number.equalsInt reason.number).getD .protocol

theorem numbered_named (number : Value) :
    numbered number ∈ namedByNumber ∨ numbered number = .protocol := by
  rw [numbered]
  cases h : namedByNumber.find? fun reason => number.equalsInt reason.number with
  | none => exact Or.inr rfl
  | some reason => exact Or.inl (List.mem_of_find?_eq_some h)

/-- The reason of a number takes a code unless the number is that of one that does not. -/
theorem takesCode_numbered (number : Value) :
    (numbered number).takesCode = true ↔
      ¬ ∃ reason ∈ takingNoCode, number.equalsInt reason.number = true := by
  -- the reasons that take no code are looked at first
  have happend : namedByNumber
      = takingNoCode ++ [.internal, .validation, .notFound, .stateConflict] := rfl
  have hnone : ∀ reason ∈ takingNoCode, reason.takesCode = false := by decide
  have hrest : ∀ reason ∈ ([.internal, .validation, .notFound, .stateConflict] : List Reason),
      reason.takesCode = true := by decide
  rw [numbered, happend, List.find?_append]
  cases hfind : takingNoCode.find? fun reason => number.equalsInt reason.number with
  | some reason =>
    have hmem := List.mem_of_find?_eq_some hfind
    have hequal := List.find?_some hfind
    rw [Option.some_or, Option.getD_some, hnone reason hmem]
    exact iff_of_false Bool.false_ne_true fun h => h ⟨reason, hmem, hequal⟩
  | none =>
    have hmissing := List.find?_eq_none.mp hfind
    rw [Option.none_or]
    refine iff_of_true ?_ fun ⟨reason, hmem, hequal⟩ => hmissing reason hmem hequal
    cases hother : List.find? (fun reason : Reason => number.equalsInt reason.number)
        [.internal, .validation, .notFound, .stateConflict] with
    | none => rfl
    | some reason => exact hrest reason (List.mem_of_find?_eq_some hother)

/-! ## The refusal -/

/-- A refusal is built for a reason and words exactly if the reason takes a code. -/
theorem build_with_code (reason : Reason) (message code : RawText) (details : Value.Entries) :
    (reason.takesCode = true ∧ ∃ refusal, refusal.reason = reason
        ∧ build reason (some message) (some code) details none = .ok refusal)
      ∨ (reason.takesCode = false
        ∧ build reason (some message) (some code) details none
          = .error (.codeNotTaken reason)) := by
  cases h : reason.takesCode with
  | false =>
    right
    simp [build, h]
  | true =>
    left
    simp [build, h]

/-- A number that was read is looked up, unless it is a list or a map. -/
theorem reasonOfNumber_cases {number : Value} (h : number.Readable) :
    (((∃ items, number = .list items) ∨ ∃ entries, number = .map entries)
        ∧ ∃ kind, reasonOfNumber number = .error (.noKey kind))
      ∨ ((∀ items, number ≠ .list items) ∧ (∀ entries, number ≠ .map entries)
        ∧ reasonOfNumber number = .ok (numbered number)) := by
  cases h with
  | list _ => exact Or.inl ⟨Or.inl ⟨_, rfl⟩, _, rfl⟩
  | map _ => exact Or.inl ⟨Or.inr ⟨_, rfl⟩, _, rfl⟩
  | _ => exact Or.inr ⟨fun _ heq => (nomatch heq), fun _ heq => (nomatch heq), rfl⟩

/-- What an error amounts to whose code is not listed. -/
def toldByNumber (number : Value) (message code : RawText) (details : Value.Entries) : Failure :=
  match reasonOfNumber number with
  | .error failure => failure
  | .ok reason =>
    match build reason (some message) (some code) details none with
    | .ok refusal => .refused refusal
    | .error misuse => .misuse misuse

/-- What the members of an error amount to. -/
theorem received_map [Nesting] {entries : Value.Entries} {message code : RawText}
    {details : Value.Entries}
    (hmessage : textOr "Unknown error" (Value.Entries.find? entries "message") = .ok message)
    (hdata : receivedData (Value.Entries.find? entries "data") = .ok (code, details)) :
    received (.map entries) =
      match reasonOfCode? code with
      | some reason => .refused (ofReason reason message details)
      | none =>
        toldByNumber ((Value.Entries.find? entries "code").getD .null) message code details := by
  rw [received, ofEntries, hmessage, hdata]
  simp only [bind, Except.bind, toldByNumber]
  cases reasonOfCode? code with
  | some reason => rfl
  | none =>
    dsimp only
    cases reasonOfNumber ((Value.Entries.find? entries "code").getD .null) with
    | error failure => rfl
    | ok reason =>
      dsimp only
      cases build reason (some message) (some code) details none <;> rfl

/-- An error whose code is not listed is told by its number, if a refusal is built for that. -/
theorem toldByNumber_cases {number : Value} (h : number.Readable) (message code : RawText)
    (details : Value.Entries) :
    (BuildsNone number ∧ (toldByNumber number message code details).reason? = none)
      ∨ (¬ BuildsNone number
        ∧ (toldByNumber number message code details).isRefusalUnder .protocol = true) := by
  rw [toldByNumber]
  rcases reasonOfNumber_cases h with ⟨hcontainer, kind, hlookup⟩ | ⟨hlist, hmap, hlookup⟩
  · rw [hlookup]
    exact Or.inl ⟨hcontainer.elim Or.inl fun hentries => Or.inr (Or.inl hentries), rfl⟩
  · have hbuilds : ¬ BuildsNone number ↔ (numbered number).takesCode = true := by
      rw [takesCode_numbered, not_iff_not]
      simp [BuildsNone, hlist, hmap]
    rw [hlookup]
    dsimp only
    rcases build_with_code (numbered number) message code details with
      ⟨htakes, refusal, hreason, hbuild⟩ | ⟨htakes, hbuild⟩
    · rw [hbuild]
      refine Or.inr ⟨hbuilds.mpr htakes, ?_⟩
      change refusal.reason.isUnder .protocol = true
      rw [hreason]
      exact isUnder_protocol_of_named (Or.inr (numbered_named number))
    · rw [hbuild]
      refine Or.inl ⟨?_, rfl⟩
      by_contra hnone
      rw [hbuilds.mp hnone] at htakes
      cases htakes

/-- An error member is told as a refusal under the protocol, unless it is told as no refusal. -/
theorem received_cases [Nesting] {error : Value} (h : error.Readable)
    (hv : error.Within Nesting.read) :
    (Untold error ∧ (received error).reason? = none)
      ∨ (¬ Untold error ∧ (received error).isRefusalUnder .protocol = true) := by
  by_cases hmap : ∃ entries, error = .map entries
  · obtain ⟨entries, rfl⟩ := hmap
    obtain ⟨message, hmessage⟩ := textOr_of_readable "Unknown error"
      (Value.Entries.find? entries "message")
      fun _ hfind => ⟨h.of_find? hfind, hv.of_find? hfind⟩
    obtain ⟨code, details, hdata⟩ := receivedData_of_readable
      (Value.Entries.find? entries "data") fun _ hfind => ⟨h.of_find? hfind, hv.of_find? hfind⟩
    have huntold : Untold (.map entries) ↔ reasonOfCode? code = none
        ∧ BuildsNone ((Value.Entries.find? entries "code").getD .null) := by
      constructor
      · rintro ⟨_, _, _, ⟨⟩, hdata', hcode, hbuilds⟩
        rw [hdata] at hdata'
        cases hdata'
        exact ⟨hcode, hbuilds⟩
      · rintro ⟨hcode, hbuilds⟩
        exact ⟨entries, code, details, rfl, hdata, hcode, hbuilds⟩
    rw [huntold, received_map hmessage hdata]
    cases hcode : reasonOfCode? code with
    | some reason =>
      refine Or.inr ⟨fun hnone => (nomatch hnone.1), ?_⟩
      exact isUnder_protocol_of_named (Or.inl (List.mem_of_find?_eq_some hcode))
    | none =>
      rw [eq_self_iff_true, true_and]
      exact toldByNumber_cases (h.getD_find? "code") message code details
  · right
    constructor
    · rintro ⟨entries, _, _, rfl, _⟩
      exact hmap ⟨entries, rfl⟩
    · obtain ⟨s, hshown⟩ := h.shown hv
      rw [received.eq_def]
      split
      · exact absurd ⟨_, rfl⟩ hmap
      · rw [hshown]
        rfl

end IntentGateway.Refusal
