import IntentGateway.Proofs.Json.RoundTrip
import IntentGateway.Proofs.Refusal.Received
import IntentGateway.Rpc.Envelope

/-! # Refusals that come back as themselves

An endpoint answers with the error object of a refusal, in a response that is written as JSON, and a
caller reads the response and makes a refusal of its error. The reason travels as a code, or, if it
carries another code than its own, as a number. For every reason that the caller knows by its code,
and for the heads of the three families by their numbers, the caller is told exactly the refusal
that the endpoint had, if its details can travel: no integer in them may have too many digits, and
they must leave room for the three maps around them.

On the way there, what is built up around details that can travel can travel itself, three maps
deeper (`faithful_response`), and the reader gives it back. On the way back, the code or the number
names the reason again and the data gives the code and the details (`received_toPayload`). The
converse does not depend on the reason: details that a caller is told have been read, inside three
maps (`details_of_received`, `Json.within_of_read`), and details that have been written have no
integer that is too long.
-/

namespace IntentGateway.Refusal

open Rpc (RequestId ErrorObject Response)

/-- What a caller makes of the answer that refuses a request with this id: the error object is
checked, the response is written and read, and the error in it is told. -/
def relayed [Nesting] (refusal : Refusal) (id : Option RequestId) : Option Failure :=
  match ErrorObject.decode refusal.toError with
  | .invalid _ => none
  | .valid error =>
    match Json.write (Response.toPayload ⟨.null, some error, id⟩) with
    | .error _ => none
    | .ok text =>
      match Json.read (Text.utf8Bytes text) with
      | .error _ => none
      | .ok payload => (payload.field? "error").map received

/-- The heads of the families, whose refusals may carry codes of their own. -/
def familyHeads : List Reason :=
  [.validation, .stateConflict, .notFound]

/-- Whether a refusal for a reason, given a code or none, is known to a caller: the reason is listed
by its own code, or it heads a family and is given a code that is not listed. -/
def Known (reason : Reason) (code : Option String) : Prop :=
  (reason ∈ namedByCode ∧ code = none)
    ∨ (reason ∈ familyHeads
      ∧ ∃ given, code = some given ∧ given ≠ "" ∧ reasonOfCode? (.text given) = none)

/-- The refusal for a known reason in some words. -/
def known (reason : Reason) (code : Option String) (message : String) (details : Value.Entries) :
    Refusal where
  reason := reason
  message := .text message
  code := .text (code.getD reason.code)
  details := details
  status := none

variable {reason : Reason} {code : Option String} {message : String} {details : Value.Entries}
  {id : Option RequestId}

/-! ## The reason -/

theorem reasonOfCode?_code (h : reason ∈ namedByCode) :
    reasonOfCode? (.text reason.code) = some reason := by
  revert reason
  decide

theorem takesCode_of_mem_familyHeads (h : reason ∈ familyHeads) : reason.takesCode = true := by
  revert reason
  decide

theorem numbered_number_of_mem_familyHeads (h : reason ∈ familyHeads) :
    numbered (.int reason.number) = reason := by
  revert reason
  decide

/-- A known refusal can be built. -/
theorem build_of_known (h : Known reason code) :
    build reason (some (.text message)) (code.map .text) details none
      = .ok (known reason code message details) := by
  rcases h with ⟨hreason, rfl⟩ | ⟨hreason, given, rfl, hgiven, -⟩
  · simp [build, known]
  · have hempty : (RawText.text given).isEmpty = false := by
      simpa [RawText.isEmpty] using hgiven
    simp [build, known, takesCode_of_mem_familyHeads hreason, hempty]

/-- The code of a known refusal names its reason, or no reason while its number does. -/
theorem named_of_known (h : Known reason code) :
    code.getD reason.code ≠ "" ∧
      (reasonOfCode? (.text (code.getD reason.code)) = some reason
          ∧ code.getD reason.code = reason.code
        ∨ reasonOfCode? (.text (code.getD reason.code)) = none
          ∧ numbered (.int reason.number) = reason ∧ reason.takesCode = true) := by
  rcases h with ⟨hreason, rfl⟩ | ⟨hreason, given, rfl, hgiven, hnone⟩
  · have hcode : reason.code ≠ "" := by
      cases reason <;> decide
    exact ⟨hcode, Or.inl ⟨reasonOfCode?_code hreason, rfl⟩⟩
  · exact ⟨hgiven, Or.inr ⟨hnone, numbered_number_of_mem_familyHeads hreason,
      takesCode_of_mem_familyHeads hreason⟩⟩

/-! ## The way there -/

/-- The error object of a known refusal is a proper one. -/
theorem decode_toError (reason : Reason) (code : Option String) (message : String)
    (details : Value.Entries) :
    ErrorObject.decode (known reason code message details).toError
      = .valid (.ofRefusal (known reason code message details)) := by
  rfl

/-- An id that can be written comes back. -/
theorem faithful_id {room : ℕ} (h : Json.HasForm room (.ofOption RequestId.toValue id))
    (depth : ℕ) :
    (Value.ofOption RequestId.toValue id).Faithful depth := by
  cases id with
  | none => exact .null
  | some id =>
    cases id with
    | number n => exact .int (Json.hasForm_int.mp h)
    | text raw =>
      obtain ⟨s, rfl⟩ := Json.hasForm_ofRaw.mp h
      exact .str s

theorem faithful_data {depth : ℕ} (h : (Value.map details).Faithful depth) :
    (Value.map (known reason code message details).data).Faithful (depth + 1) := by
  by_cases hempty : details.isEmpty = true
  · simp only [data, known, hempty, if_true, List.append_nil]
    exact .map (by simp [Value.ofRaw, Value.Faithful.str]) (by simp) (by simp)
  · simp only [data, known, hempty, List.cons_append, List.nil_append]
    exact .map (by simp [Value.ofRaw, Value.Faithful.str, h]) (by simp) (by simp)

/-- Around the details of a refusal there are three maps. -/
theorem faithful_response {depth room : ℕ} (h : (Value.map details).Faithful depth)
    (hid : Json.HasForm room (.ofOption RequestId.toValue id)) :
    (Response.toPayload ⟨.null, some (.ofRefusal (known reason code message details)), id⟩).Faithful
      (depth + 3) := by
  have hdata : (Value.map (known reason code message details).data).Faithful (depth + 1) :=
    faithful_data h
  have hnumber : Numeral.fits reason.number = true := by
    cases reason <;> decide
  have herror : (ErrorObject.toPayload (.ofRefusal (known reason code message details))).Faithful
      (depth + 2) := by
    refine .map ?_ (by simp [ErrorObject.ofRefusal]) (by simp [ErrorObject.ofRefusal])
    show ∀ entry ∈ ([("code", .int reason.number), ("message", .str message),
      ("data", .map (known reason code message details).data)] : Value.Entries),
        entry.2.Faithful (depth + 1)
    simp only [List.forall_mem_cons]
    exact ⟨.int hnumber, .str message, hdata, nofun⟩
  refine .map ?_ (by simp) (by simp)
  simp only [List.forall_mem_cons]
  exact ⟨.str _, faithful_id hid _, herror, nofun⟩

/-! ## The way back -/

theorem textOr_str [Nesting] {default s : String} (h : s ≠ "") :
    textOr default (some (.str s)) = .ok (.text s) := by
  have htruthy : (Value.str s).isTruthy = true := by
    simpa [Value.isTruthy] using h
  rw [textOr, if_pos htruthy]
  rfl

theorem receivedData_data [Nesting] (hcode : code.getD reason.code ≠ "") :
    receivedData (some (.map (known reason code message details).data))
      = .ok (.text (code.getD reason.code), details) := by
  have hfound : Value.Entries.find? (known reason code message details).data "error_code"
      = some (.str (code.getD reason.code)) := rfl
  rw [receivedData, hfound, textOr_str hcode]
  -- no details are told as none
  cases details <;> rfl

/-- The error of a known refusal is told as the refusal. -/
theorem received_toPayload [Nesting] (h : Known reason code) (hmessage : message ≠ "") :
    received (ErrorObject.toPayload (.ofRefusal (known reason code message details)))
      = .refused (known reason code message details) := by
  obtain ⟨hcode, hnamed⟩ := named_of_known h
  let entries : Value.Entries := [("code", .int reason.number), ("message", .str message),
    ("data", .map (known reason code message details).data)]
  have hwords : textOr "Unknown error" (entries.find? "message") = .ok (.text message) :=
    textOr_str hmessage
  have hdata : receivedData (entries.find? "data")
      = .ok (.text (code.getD reason.code), details) := receivedData_data hcode
  have hnumber : (entries.find? "code").getD .null = .int reason.number := rfl
  change received (.map entries) = _
  rw [received_map hwords hdata, hnumber]
  rcases hnamed with ⟨hreason, hown⟩ | ⟨hnone, hnumbered, htakes⟩
  · rw [hreason]
    simp [ofReason, known, hown]
  · have hempty : (RawText.text (code.getD reason.code)).isEmpty = false := by
      simpa [RawText.isEmpty] using hcode
    have hlookup : reasonOfNumber (.int reason.number) = .ok (numbered (.int reason.number)) := rfl
    rw [hnone]
    simp [toldByNumber, hlookup, hnumbered, build, htakes, hempty, known]

/-! ## What else the caller may be told -/

theorem only_textOr [Nesting] (default : String) (member : Option Value) :
    Failure.Only (·.reason? = none) (textOr default member) := by
  rw [textOr.eq_def]
  split
  · rename_i v
    split
    · cases v.text with
      | ok raw => exact Failure.only_ok raw
      | error e => exact Failure.only_error.mpr (Failure.reason?_ofUnshowable e)
    · exact Failure.only_ok _
  · exact Failure.only_ok _

theorem only_receivedData [Nesting] (data : Option Value) :
    Failure.Only (·.reason? = none) (receivedData data) := by
  rw [receivedData.eq_def]
  split
  · exact Failure.only_bind.mpr ⟨only_textOr _ _, fun code _ => Failure.only_ok _⟩
  · exact Failure.only_ok _

theorem only_reasonOfNumber (number : Value) :
    Failure.Only (·.reason? = none) (reasonOfNumber number) := by
  rw [reasonOfNumber.eq_def]
  split
  · exact Failure.only_error.mpr rfl
  · exact Failure.only_error.mpr rfl
  · exact Failure.only_error.mpr rfl
  · exact Failure.only_ok _

/-- An error object that cannot be read is told as no refusal. -/
theorem only_ofEntries [Nesting] (entries : Value.Entries) :
    Failure.Only (·.reason? = none) (ofEntries entries) := by
  refine Failure.only_bind.mpr ⟨only_textOr _ _, fun message _ => ?_⟩
  refine Failure.only_bind.mpr ⟨only_receivedData _, fun found _ => ?_⟩
  obtain ⟨code, details⟩ := found
  dsimp only
  split
  · exact Failure.only_ok _
  · refine Failure.only_bind.mpr ⟨only_reasonOfNumber _, fun reason _ => ?_⟩
    split <;> exact Failure.only_ok _

theorem details_of_build {words given : Option RawText} {status : Option (Option Int)}
    {refusal : Refusal} (h : build reason words given details status = .ok refusal) :
    refusal.details = details := by
  rw [build.eq_def] at h
  split at h
  · cases h
  · split at h
    · cases h
    · split at h <;> cases h
      rfl

theorem find?_details_of_receivedData [Nesting] {data : Option Value} {code : RawText}
    (h : receivedData data = .ok (code, details)) (hne : details ≠ []) :
    ∃ entries, data = some (.map entries)
      ∧ Value.Entries.find? entries "details" = some (.map details) := by
  rw [receivedData.eq_def] at h
  split at h
  · rename_i entries
    obtain ⟨code', -, hfound⟩ := Failure.bind_eq_ok h
    refine ⟨entries, rfl, ?_⟩
    rw [Except.ok.injEq, Prod.mk.injEq] at hfound
    obtain ⟨-, hdetails⟩ := hfound
    split at hdetails
    · rename_i given hgiven
      rw [hgiven, hdetails]
    · exact absurd hdetails.symm hne
  · cases h
    exact absurd rfl hne

/-- The details of a refusal that an error object tells are those in its data. -/
theorem details_of_ofEntries [Nesting] {entries : Value.Entries} {refusal : Refusal}
    (h : ofEntries entries = .ok (.refused refusal)) (hne : refusal.details ≠ []) :
    ∃ data, Value.Entries.find? entries "data" = some (.map data)
      ∧ Value.Entries.find? data "details" = some (.map refusal.details) := by
  obtain ⟨message, -, htold⟩ := Failure.bind_eq_ok h
  obtain ⟨⟨code, details⟩, hdata, htold⟩ := Failure.bind_eq_ok htold
  have hdetails : refusal.details = details := by
    dsimp only at htold
    split at htold
    · cases htold
      rfl
    · obtain ⟨reason, -, htold⟩ := Failure.bind_eq_ok htold
      split at htold
      · rename_i built hbuilt
        cases htold
        exact details_of_build hbuilt
      · cases htold
  rw [hdetails] at hne ⊢
  exact find?_details_of_receivedData hdata hne

/-- The details of a refusal that a caller is told are those in the data of the error. -/
theorem details_of_received [Nesting] {error : Value} {refusal : Refusal}
    (h : received error = .refused refusal) (hne : refusal.details ≠ []) :
    ∃ entries data, error = .map entries ∧ Value.Entries.find? entries "data" = some (.map data)
      ∧ Value.Entries.find? data "details" = some (.map refusal.details) := by
  rw [received.eq_def] at h
  split at h
  · rename_i entries
    split at h
    · rename_i failure htold
      subst h
      obtain ⟨data, hdata, hdetails⟩ := details_of_ofEntries htold hne
      exact ⟨entries, data, rfl, hdata, hdetails⟩
    · rename_i failure hfails
      have hnone := only_ofEntries entries failure hfails
      rw [h] at hnone
      cases hnone
  · -- what is no map is told without details
    split at h
    · cases h
      exact absurd rfl hne
    · rename_i v _ failure hfails
      have hnone := Value.reason?_of_shown_eq_error hfails
      rw [h] at hnone
      cases hnone

/-! ## There and back -/

/-- What a caller is told in details was in three maps. -/
theorem within_details_of_received [Nesting] {payload error : Value} {refusal : Refusal} {depth : ℕ}
    (hpayload : payload.Within (depth + 3)) (herror : payload.field? "error" = some error)
    (h : received error = .refused refusal) (hdepth : 0 < depth) :
    (Value.map refusal.details).Within depth := by
  by_cases hne : refusal.details = []
  · obtain ⟨rest, rfl⟩ : ∃ rest, depth = rest + 1 := ⟨depth - 1, by omega⟩
    rw [hne]
    exact .map (by simp)
  · obtain ⟨entries, data, rfl, hdata, hgiven⟩ := details_of_received h hne
    obtain ⟨members, rfl⟩ : ∃ members, payload = .map members := by
      cases payload with
      | map members => exact ⟨members, rfl⟩
      | _ => cases herror
    exact ((hpayload.of_find?_succ herror).of_find?_succ hdata).of_find?_succ hgiven

/-- The details of a refusal that is written can be written in what the three maps leave. -/
theorem hasForm_details {room : ℕ}
    (h : Json.HasForm (room + 4) (Response.toPayload
      ⟨.null, some (.ofRefusal (known reason code message details)), id⟩)) :
    Json.HasForm (room + 1) (.map details) := by
  by_cases hempty : details.isEmpty = true
  · rw [List.isEmpty_iff] at hempty
    rw [hempty]
    exact Json.hasForm_map.mpr (by simp)
  · have herror : Json.HasForm (room + 3)
        (ErrorObject.toPayload (.ofRefusal (known reason code message details))) :=
      (Json.hasForm_map.mp h _ (.tail _ (.tail _ (.head _)))).2
    have hdata : Json.HasForm (room + 2) (.map (known reason code message details).data) :=
      (Json.hasForm_map.mp herror _ (.tail _ (.tail _ (.head _)))).2
    exact (Json.hasForm_map.mp hdata (.text "details", _) (by simp [data, known, hempty])).2

/-- How often lists and maps may be nested in details that are written and read: around them there
are three maps. -/
def detailsRoom [Nesting] : ℕ :=
  min Nesting.read Nesting.written - 3

/-- A known refusal comes back as itself exactly if its details can travel inside three maps. -/
theorem relayed_known_iff [Nesting] (h : Known reason code) (hmessage : message ≠ "")
    (hdetails : (Value.map details).Document)
    (hid : Json.Writable (.ofOption RequestId.toValue id)) :
    (known reason code message details).relayed id
        = some (.refused (known reason code message details))
      ↔ (Value.map details).Faithful detailsRoom := by
  have hdecode := decode_toError reason code message details
  have hread := Nesting.eight_le_read
  have hwritten := Nesting.eight_le_written
  constructor
  · intro hrelayed
    rw [relayed, hdecode] at hrelayed
    dsimp only at hrelayed
    split at hrelayed
    · cases hrelayed
    · rename_i text hwrite
      split at hrelayed
      · cases hrelayed
      · rename_i payload hpayload
        obtain ⟨error, herror, htold⟩ := Option.map_eq_some_iff.mp hrelayed
        -- the details were written, and what the caller was told of them was read
        obtain ⟨spare, hspare⟩ := Nesting.exists_written
        have hform : Json.HasForm (spare + 5) (.map details) := by
          have hresponse := Json.writable_iff.mp ⟨text, hwrite⟩
          rw [hspare] at hresponse
          exact hasForm_details hresponse
        obtain ⟨rest, hrest⟩ := Nat.exists_eq_add_of_le' hread
        have hwithin : (Value.map details).Within (rest + 5) := by
          have hall := Json.within_of_read hpayload
          rw [hrest] at hall
          exact within_details_of_received hall herror htold (Nat.succ_pos _)
        have hboth : (Value.map details).Within detailsRoom := by
          rcases Nat.le_total rest spare with hle | hle
          · exact hwithin.mono (by unfold detailsRoom; omega)
          · exact hform.within.mono (by unfold detailsRoom; omega)
        exact hdetails.faithful (hform.of_within hboth)
  · intro hfaithful
    have hroom : detailsRoom + 3 = min Nesting.read Nesting.written := by
      unfold detailsRoom
      omega
    obtain ⟨text, hwrite, hback⟩ := Json.exists_write_of_faithful
      (faithful_response hfaithful (Json.writable_iff.mp hid)) (by omega) (by omega)
    rw [relayed, hdecode]
    dsimp only
    rw [hwrite]
    dsimp only
    rw [hback]
    exact congrArg some (received_toPayload h hmessage)

/-- For every reason that a caller knows by its code, and for the heads of the families with any
other code, in all words and with all details, the refusal is built as asked for, and a caller is
told exactly that refusal, whatever request it answers, if and only if no integer in the details has
too many digits and they leave room for the three maps around them. -/
theorem relayed_as_itself [Nesting] (h : Known reason code) (hmessage : message ≠ "")
    (hdetails : (Value.map details).Document)
    (hid : Json.Writable (.ofOption RequestId.toValue id)) :
    ∃ refusal, build reason (some (.text message)) (code.map .text) details none = .ok refusal
      ∧ refusal.reason = reason ∧ refusal.message = .text message
      ∧ refusal.code = .text (code.getD reason.code) ∧ refusal.details = details
      ∧ (refusal.relayed id = some (.refused refusal)
        ↔ (Value.map details).Faithful detailsRoom) :=
  ⟨known reason code message details, build_of_known h, rfl, rfl, rfl, rfl,
    relayed_known_iff h hmessage hdetails hid⟩

/-- Details with an entry that is null, a number with a fraction and an empty list. -/
def someDetails : Value.Entries :=
  [("payer", .null), ("share", .float (.finite false 0x10000000000000 (-53))), ("rows", .list [])]

theorem faithful_someDetails (depth : ℕ) : (Value.map someDetails).Faithful (depth + 2) := by
  have hshare : (Binary64.finite false 0x10000000000000 (-53)).Canonical :=
    ⟨by decide, by decide, by decide, Or.inl (by decide)⟩
  refine .map ?_ (by simp [someDetails]) (by decide)
  simp only [someDetails, List.forall_mem_cons]
  exact ⟨.null, .float hshare, .list (by simp), nofun⟩

/-- A refusal of a transfer, with such details, comes back as itself. -/
theorem relayed_as_itself_insufficient :
    ∃ refusal, build .insufficientAmount (some "too little") none someDetails none = .ok refusal
      ∧ refusal.relayed (some (.number 7)) = some (.refused refusal) := by
  have hknown : Known .insufficientAmount none := Or.inl ⟨by decide, rfl⟩
  have hfaithful : (Value.map someDetails).Faithful detailsRoom :=
    (faithful_someDetails 0).mono (by decide)
  have hid : Json.Writable (.ofOption RequestId.toValue (some (.number 7))) := ⟨_, rfl⟩
  obtain ⟨refusal, hbuild, -, -, -, -, hrelayed⟩ :=
    relayed_as_itself hknown (by decide : "too little" ≠ "") hfaithful.document hid
  exact ⟨refusal, hbuild, hrelayed.mpr hfaithful⟩

/-- Null in so many lists. -/
def nested : ℕ → Value
  | 0 => .null
  | k + 1 => .list [nested k]

theorem document_nested (k : ℕ) : (nested k).Document := by
  induction k with
  | zero => exact .null
  | succ k ih => exact .list (by simpa using ih)

theorem le_of_within_nested {k depth : ℕ} (h : (nested k).Within depth) : k ≤ depth := by
  induction k generalizing depth with
  | zero => exact Nat.zero_le depth
  | succ k ih =>
    cases h with
    | scalar h => cases h
    | list hitems => exact Nat.succ_le_succ (ih (hitems _ List.mem_cons_self))

/-- Details with the least integer that has too many digits. -/
def tooLarge : Value.Entries :=
  [("n", .int (10 ^ Numeral.digitLimit))]

/-- Details that are nested once too often. -/
def tooDeep [Nesting] : Value.Entries :=
  [("n", nested detailsRoom)]

/-- Whether the details are those of a document, but a refusal of an amount that is built of these
words and them does not come back. -/
def Lost [Nesting] (words : RawText) (details : Value.Entries) : Prop :=
  (Value.map details).Document
    ∧ ∃ refusal, build .invalidAmount (some words) none details none = .ok refusal
      ∧ refusal.relayed none ≠ some (.refused refusal)

theorem lost_of_not_faithful [Nesting] {details : Value.Entries}
    (hdetails : (Value.map details).Document)
    (hnot : ¬ (Value.map details).Faithful detailsRoom) : Lost "x" details := by
  have hknown : Known .invalidAmount none := Or.inl ⟨by decide, rfl⟩
  have hid : Json.Writable (.ofOption RequestId.toValue none) :=
    Json.writable_iff.mpr Json.hasForm_null
  refine ⟨hdetails, _, build_of_known hknown, fun hrelayed => hnot ?_⟩
  exact (relayed_known_iff hknown (by decide) hdetails hid).mp hrelayed

/-- Words that are no text make no error object. -/
theorem lost_of_illFormed [Nesting] (points : List Text.Point) : Lost (.illFormed points) [] := by
  let refusal : Refusal := ofReason .invalidAmount (.illFormed points) []
  obtain ⟨issues, hdecode⟩ : ∃ issues, ErrorObject.decode refusal.toError = .invalid issues :=
    ⟨_, rfl⟩
  refine ⟨.map (by simp) (by simp) (by simp), refusal, rfl, ?_⟩
  rw [relayed, hdecode]
  exact (Option.some_ne_none _).symm

/-- Details that leave no room for the three maps around them do not come back. -/
theorem lost_tooDeep [Nesting] : Lost "x" tooDeep := by
  refine lost_of_not_faithful (.map ?_ (by simp [tooDeep]) (by simp [tooDeep])) ?_
  · simpa [tooDeep] using document_nested detailsRoom
  · intro hfaithful
    have hfound : Value.Entries.find? tooDeep "n" = some (nested detailsRoom) := rfl
    have hread := Nesting.eight_le_read
    have hwritten := Nesting.eight_le_written
    obtain ⟨rest, hrest⟩ : ∃ rest, detailsRoom = rest + 1 := ⟨detailsRoom - 1, by
      unfold detailsRoom
      omega⟩
    have hwithin := hfaithful.hasForm.within
    rw [hrest] at hwithin hfound
    have hle := le_of_within_nested (hwithin.of_find?_succ hfound)
    omega

/-- Details beyond either limit do not come back, and neither do words with a surrogate in them. -/
theorem not_relayed_beyond_limits :
    Lost "x" tooLarge ∧ Lost "x" tooDeep ∧ Lost (.illFormed [.surrogate 0]) [] := by
  refine ⟨?_, lost_tooDeep, lost_of_illFormed _⟩
  refine lost_of_not_faithful (.map ?_ (by simp [tooLarge]) (by simp [tooLarge])) ?_
  · simpa [tooLarge] using Value.Document.int (10 ^ Numeral.digitLimit)
  · intro hfaithful
    have hform := hfaithful.hasForm.of_mem_map List.mem_cons_self
    have hfits := Numeral.fits_iff.mp (Json.hasForm_int.mp hform)
    have habs : (10 : Int).natAbs = 10 := rfl
    rw [Int.natAbs_pow, habs] at hfits
    exact lt_irrefl _ hfits

end IntentGateway.Refusal
