import IntentGateway.Proofs.Rpc.Failing
import IntentGateway.Proofs.Rpc.Stage
import IntentGateway.Proofs.Rpc.Visit

/-! # Amounts in requests

A request gives the amount of a new intent as a text. With the blanks around it stripped, that is a
run of ASCII digits, or the amount is refused. A run of digits is read as its value, but only up to
the limit of all decimal texts: a longer one ends neither in a value nor in a refusal
(`Amount.ofRequest_of_digits`). Nothing else that a request can give makes the creation of an intent
fail without a refusal, as long as there is room for the row (`Gateway.onlyInvalid_create`).
-/

namespace IntentGateway

/-! ## Reading an amount -/

/-- Whether characters are a run of ASCII digits. -/
def Text.IsDigits (chars : List Char) : Prop :=
  chars ≠ [] ∧ ∀ c ∈ chars, c.isDigit = true

/-- A digit is no blank. -/
theorem Text.strip_of_isDigit {chars : List Char} (h : ∀ c ∈ chars, c.isDigit = true) :
    strip chars = chars := by
  refine strip_of_forall fun c hc => ?_
  have hplace := Numeral.toNat_of_isDigit (h c hc)
  have hseparator : inRanges [(0x1C, 0x1F)] c.toNat = false := by
    rw [Bool.eq_false_iff]
    simp only [inRanges, List.any_cons, List.any_nil, Bool.or_false, Bool.and_eq_true,
      decide_eq_true_iff, ne_eq]
    omega
  rw [isBlank, (Numeral.not_special_of_isDigit (h c hc)).2.2, hseparator]
  rfl

namespace Amount

/-- The refusal of a text that is no amount. -/
def refusal (raw : RawText) : Failure :=
  .worded .invalidAmount "Amount must be a decimal integer string" [("amount", .ofRaw raw)]

/-- Whether the amount of a request has more digits than are read. -/
def TooLong (raw : RawText) : Prop :=
  Text.IsDigits (Text.strip raw.chars) ∧ Numeral.digitLimit < (Text.strip raw.chars).length

variable {raw : RawText}

theorem ofRequest_of_digits (h : Text.IsDigits (Text.strip raw.chars)) :
    ofRequest raw =
      if Numeral.digitLimit < (Text.strip raw.chars).length then
        .error (.numeral (.tooLong (Text.strip raw.chars).length))
      else .ok (Numeral.ofAsciiDigits (Text.strip raw.chars)) := by
  obtain ⟨hne, hdigits⟩ := h
  have htaken : ((Text.strip raw.chars).isEmpty || !(Text.strip raw.chars).all Char.isDigit)
      = false := by
    rw [List.isEmpty_eq_false_iff.mpr hne, List.all_eq_true.mpr hdigits]
    rfl
  rw [ofRequest, htaken, if_neg (by decide), Numeral.read, Numeral.readAs_digits hdigits hne]
  by_cases hlong : Numeral.digitLimit < (Text.strip raw.chars).length
  · rw [if_pos hlong, if_pos hlong]
  · rw [if_neg hlong, if_neg hlong]

theorem ofRequest_of_not_digits (h : ¬ Text.IsDigits (Text.strip raw.chars)) :
    ofRequest raw = .error (refusal raw) := by
  have hrefused : ((Text.strip raw.chars).isEmpty || !(Text.strip raw.chars).all Char.isDigit)
      = true := by
    by_contra htaken
    rw [Bool.not_eq_true, Bool.or_eq_false_iff, Bool.not_eq_false', List.all_eq_true] at htaken
    exact h ⟨List.isEmpty_eq_false_iff.mp htaken.1, htaken.2⟩
  rw [ofRequest, if_pos hrefused]
  rfl

/-- An amount is the value of a run of digits that is not too long. -/
theorem ofRequest_eq_ok_iff {n : Int} :
    ofRequest raw = .ok n ↔ Text.IsDigits (Text.strip raw.chars)
      ∧ (Text.strip raw.chars).length ≤ Numeral.digitLimit
      ∧ n = Numeral.ofAsciiDigits (Text.strip raw.chars) := by
  by_cases h : Text.IsDigits (Text.strip raw.chars)
  · rw [ofRequest_of_digits h, and_iff_right h]
    by_cases hlong : Numeral.digitLimit < (Text.strip raw.chars).length
    · rw [if_pos hlong]
      exact iff_of_false nofun fun hfits => absurd hfits.1 (by omega)
    · rw [if_neg hlong, and_iff_right (by omega), Except.ok.injEq, eq_comm]
  · rw [ofRequest_of_not_digits h]
    exact iff_of_false nofun fun hdigits => h hdigits.1

/-- What is no amount is refused as such, but for a run of digits that is too long. -/
theorem ofRequest_eq_error_iff {failure : Failure} :
    ofRequest raw = .error failure ↔
      ¬ Text.IsDigits (Text.strip raw.chars) ∧ failure = refusal raw
        ∨ TooLong raw ∧ failure = .numeral (.tooLong (Text.strip raw.chars).length) := by
  rw [TooLong]
  by_cases h : Text.IsDigits (Text.strip raw.chars)
  · rw [ofRequest_of_digits h]
    by_cases hlong : Numeral.digitLimit < (Text.strip raw.chars).length
    · rw [if_pos hlong, Except.error.injEq]
      simp [h, hlong, eq_comm]
    · rw [if_neg hlong]
      simp [h, hlong]
  · rw [ofRequest_of_not_digits h, Except.error.injEq]
    simp [h, eq_comm]

end Amount

/-! ## Refusals of what was given -/

namespace Failure

/-- Whether a failure is the refusal of something that was given and is not valid. -/
def IsInvalid (failure : Failure) : Prop :=
  failure.isRefusalUnder .validation = true

theorem isInvalid_worded {reason : Reason} (h : reason.isUnder .validation = true)
    (message : RawText) (details : Value.Entries) :
    (worded reason message details).IsInvalid :=
  h

/-- A refusal that shows a value which can be shown. -/
theorem onlyInvalid_shown_bind [Nesting] {α : Type} {v : Value} (hv : ∃ s, v.shown = .ok s)
    {reason : Reason} (h : reason.isUnder .validation = true) (message : String → RawText)
    (details : String → Value.Entries) :
    Only IsInvalid (v.shown >>= fun s =>
      (.error (worded reason (message s) (details s)) : Except Failure α)) := by
  obtain ⟨shown, hshown⟩ := hv
  rw [hshown]
  exact only_error.mpr (isInvalid_worded h _ _)

end Failure

open Failure (Only IsInvalid only_ok only_error only_bind isInvalid_worded onlyInvalid_shown_bind)

theorem Amount.onlyInvalid_ofRequest {raw : RawText} (h : ¬ TooLong raw) :
    Only IsInvalid (ofRequest raw) := by
  intro failure hfailure
  rcases ofRequest_eq_error_iff.mp hfailure with ⟨_, rfl⟩ | ⟨hlong, _⟩
  · exact isInvalid_worded rfl _ _
  · exact absurd hlong h

/-- A rate that is an integer is refused at most for being out of range. -/
theorem Fee.onlyInvalid_rate [Nesting] (bps : Int) : Only IsInvalid (rate (.int bps)) := by
  simp only [rate]
  split
  · exact only_ok _
  · exact only_error.mpr (isInvalid_worded rfl _ _)

theorem Fee.onlyInvalid_grossAmount [Nesting] {gross : Value} (h : ∃ s, gross.shown = .ok s) :
    Only IsInvalid (grossAmount gross) := by
  unfold grossAmount
  split
  · split
    · exact only_ok _
    · exact onlyInvalid_shown_bind h rfl _ _
  · exact onlyInvalid_shown_bind h rfl _ _

theorem Address.onlyInvalid_normalize [Nesting] (field : String) {value : Value}
    (h : ∃ s, value.shown = .ok s) : Only IsInvalid (normalize field value) := by
  unfold normalize
  split
  · split
    · exact only_ok _
    · exact only_error.mpr (isInvalid_worded rfl _ _)
  · exact onlyInvalid_shown_bind h rfl _ _

namespace Operation

theorem onlyInvalid_checkToken [Nesting] (policy : Policy) {token : Value}
    (h : ∃ s, token.shown = .ok s) : Only IsInvalid (checkToken policy token) := by
  unfold checkToken
  dsimp only
  split
  · split
    · exact only_ok _
    · exact onlyInvalid_shown_bind h rfl _ _
  · exact onlyInvalid_shown_bind h rfl _ _

theorem onlyInvalid_checkLifetime [Nesting] {lifetime : Value}
    (h : ∃ s, lifetime.shown = .ok s) : Only IsInvalid (checkLifetime lifetime) := by
  unfold checkLifetime
  dsimp only
  split
  · split
    · exact only_ok _
    · exact onlyInvalid_shown_bind h rfl _ _
  · exact onlyInvalid_shown_bind h rfl _ _

end Operation

/-! ## Room for a row -/

/-- Whether there is room at a gateway for the row of a new intent: the rate and the lifetime of the
policy are integers, and the next id, the time and the expiry fit their columns. -/
structure Gateway.HasRoom (gateway : Gateway) : Prop where
  rate : ∃ bps, gateway.policy.feeBps = .int bps
  lifetime : ∃ seconds, gateway.policy.lifetime = .int seconds
    ∧ Store.fitsColumn (gateway.now + seconds) = true
  now : Store.fitsColumn gateway.now = true
  nextId : Store.fitsColumn gateway.store.nextId = true

namespace Gateway.HasRoom

variable {gateway : Gateway}

theorem exists_shown_lifetime [Nesting] (h : gateway.HasRoom) :
    ∃ s, gateway.policy.lifetime.shown = .ok s := by
  obtain ⟨seconds, hseconds, hexpiry⟩ := h.lifetime
  have hnow := h.now
  rw [hseconds]
  refine Value.exists_shown_int (Numeral.fits_of_lt (k := 20) ?_ (by decide))
  rw [Store.fitsColumn, Bool.and_eq_true, decide_eq_true_iff, decide_eq_true_iff,
    Store.columnLimit] at hexpiry hnow
  omega

/-- Terms are refused at most for what was given. -/
theorem onlyInvalid_terms [Nesting] (h : gateway.HasRoom) {merchant gross token : Value}
    (hmerchant : ∃ s, merchant.shown = .ok s) (hgross : ∃ s, gross.shown = .ok s)
    (htoken : ∃ s, token.shown = .ok s) :
    Only IsInvalid
      (Operation.terms gateway.policy merchant gross token .null .null gateway.now) := by
  obtain ⟨bps, hbps⟩ := h.rate
  have hrate : Operation.orPolicy .null gateway.policy.feeBps = .int bps := hbps
  unfold Operation.terms
  rw [hrate]
  refine only_bind.mpr ⟨Fee.onlyInvalid_rate bps, fun _ _ => ?_⟩
  refine only_bind.mpr ⟨Fee.onlyInvalid_grossAmount hgross, fun _ _ => ?_⟩
  refine only_bind.mpr ⟨Address.onlyInvalid_normalize "merchant" hmerchant, fun _ _ => ?_⟩
  refine only_bind.mpr ⟨Operation.onlyInvalid_checkToken _ htoken, fun _ _ => ?_⟩
  exact only_bind.mpr
    ⟨Operation.onlyInvalid_checkLifetime h.exists_shown_lifetime, fun _ _ => only_ok _⟩

/-- A row with terms that are accepted fits its columns, if the amount can be written. -/
theorem checkColumns_of_terms [Nesting] (h : gateway.HasRoom) {merchant token : Value} {gross : Int}
    (hgross : Numeral.fits gross = true) {accepted : Terms}
    (hterms : Operation.terms gateway.policy merchant (.int gross) token .null .null gateway.now
      = .ok accepted) :
    Store.checkColumns [accepted.grossAmount, accepted.feeAmount, accepted.netAmount]
      [(gateway.store.nextId : Int), accepted.createdAt, accepted.expiry] = .ok () := by
  have hamount : accepted.grossAmount = gross :=
    (Value.int.inj (Operation.gross_of_terms hterms)).symm
  have hcreated := Operation.createdAt_of_terms hterms
  have hexpiry : Store.fitsColumn accepted.expiry = true := by
    obtain ⟨seconds, hseconds, hfits⟩ := h.lifetime
    have hfollow := (Operation.follow_of_terms hterms).lifetime
    rw [hseconds, Value.int.injEq] at hfollow
    rwa [show accepted.expiry = gateway.now + seconds by omega]
  refine Store.checkColumns_eq_ok_iff.mpr ⟨?_, ?_⟩
  · exact (Operation.terms_wellFormed hterms).fits_amounts (hamount ▸ hgross)
  · simp only [List.forall_mem_cons]
    exact ⟨h.nextId, hcreated ▸ h.now, hexpiry, nofun⟩

/-- The creation of an intent is refused at most for what was given. -/
theorem onlyInvalid_create [Nesting] (h : gateway.HasRoom) {merchant token : Value} {gross : Int}
    (hmerchant : ∃ s, merchant.shown = .ok s) (hgross : Numeral.fits gross = true)
    (htoken : ∃ s, token.shown = .ok s) :
    Only IsInvalid
      (Gateway.perform (.create merchant (.int gross) token .null .null none) gateway).1 := by
  show Only IsInvalid (((Operation.create merchant (.int gross) token .null .null none).call
    gateway.policy gateway.now).run gateway.store).1
  rw [Operation.call, Option.getD_none]
  cases hterms : Operation.terms gateway.policy merchant (.int gross) token .null .null
      gateway.now with
  | error failure =>
    exact only_error.mpr
      (h.onlyInvalid_terms hmerchant (Value.exists_shown_int hgross) htoken failure hterms)
  | ok accepted =>
    have hcolumns := h.checkColumns_of_terms hgross hterms
    rw [Call.checking, Call.run, Store.insert, hcolumns]
    exact only_ok _

end Gateway.HasRoom

/-! ## Requests for a new intent -/

namespace Rpc

theorem onlyInvalid_stringParam [Nesting] (name : String) {given : Value}
    (h : ∃ s, given.shown = .ok s) : Only IsInvalid (stringParam name given) := by
  unfold stringParam
  split
  · exact only_ok _
  · exact onlyInvalid_shown_bind h rfl _ _

theorem stringParam_ofRaw [Nesting] (name : String) (raw : RawText) :
    stringParam name (.ofRaw raw) = .ok raw := by
  rw [stringParam, Value.raw?_ofRaw]

variable {merchant token : Value} {raw : RawText}

/-- A request for a new intent asks for its creation, if the amount and the other parameters can be
read. -/
theorem Method.operation_createIntent [Nesting] :
    Method.createIntent.operation [merchant, .ofRaw raw, token] = (do
      let gross ← Amount.ofRequest raw
      let merchant ← stringParam "merchant" merchant
      let token ← stringParam "token" token
      .ok (.create (.ofRaw merchant) (.int gross) (.ofRaw token) .null .null none)) := by
  rw [Method.operation, stringParam_ofRaw]
  rfl

end Rpc

namespace Gateway

open Rpc

variable {gateway : Gateway} {request : Rpc.Request} {merchant token : Value} {raw : RawText}
  (hmethod : request.method = Method.createIntent.name)
  (hparams : request.params = [merchant, .ofRaw raw, token])
include hmethod hparams

theorem operation_of_create [Nesting] :
    request.operation = Method.createIntent.operation [merchant, .ofRaw raw, token] := by
  rw [Request.operation, Method.ofName?_eq_some_iff.mpr hmethod.symm, hparams]

/-- A request whose amount is too long fails, and not with a refusal. -/
theorem outcomeOf_of_tooLong [Nesting] (h : Amount.TooLong raw) :
    gateway.outcomeOf request
      = .error (.numeral (.tooLong (Text.strip raw.chars).length)) := by
  refine (handle_of_error ?_ gateway).1
  rw [operation_of_create hmethod hparams, Method.operation_createIntent,
    Amount.ofRequest_eq_error_iff.mpr (Or.inr ⟨h, rfl⟩)]
  rfl

/-- Any other request for a new intent is refused at most for what was given. -/
theorem onlyInvalid_outcomeOf [Nesting] (hroom : gateway.HasRoom)
    (hmerchant : ∃ s, merchant.shown = .ok s) (htoken : ∃ s, token.shown = .ok s)
    (h : ¬ Amount.TooLong raw) :
    Only IsInvalid (gateway.outcomeOf request) := by
  have hoperation : request.operation = _ :=
    (operation_of_create hmethod hparams).trans Method.operation_createIntent
  cases hasked : request.operation with
  | error failure =>
    rw [(handle_of_error hasked gateway).1]
    rw [hasked] at hoperation
    have honly : Only IsInvalid (Except.error failure : Except Failure Operation) := by
      rw [hoperation]
      refine only_bind.mpr ⟨Amount.onlyInvalid_ofRequest h, fun gross _ => ?_⟩
      refine only_bind.mpr ⟨onlyInvalid_stringParam _ hmerchant, fun _ _ => ?_⟩
      exact only_bind.mpr ⟨onlyInvalid_stringParam _ htoken, fun _ _ => only_ok _⟩
    exact only_error.mpr (only_error.mp honly)
  | ok operation =>
    rw [(handle_of_ok hasked gateway).1]
    rw [hasked] at hoperation
    obtain ⟨gross, hgross, hrest⟩ := Failure.bind_eq_ok hoperation.symm
    obtain ⟨merchantText, _, hrest⟩ := Failure.bind_eq_ok hrest
    obtain ⟨tokenText, _, hrest⟩ := Failure.bind_eq_ok hrest
    cases hrest
    obtain ⟨hdigits, hlength, rfl⟩ := Amount.ofRequest_eq_ok_iff.mp hgross
    exact hroom.onlyInvalid_create (Value.exists_shown_ofRaw merchantText)
      (Numeral.fits_ofAsciiDigits hdigits.2 hlength) (Value.exists_shown_ofRaw tokenText)

/-- So it is answered with one of two numbers, if it is refused. -/
theorem number_of_refusal [Nesting] (hroom : gateway.HasRoom)
    (hmerchant : ∃ s, merchant.shown = .ok s) (htoken : ∃ s, token.shown = .ok s)
    (h : ¬ Amount.TooLong raw) {failure : Failure}
    (hfailure : gateway.outcomeOf request = .error failure) :
    (answerable failure).reason.number = -32602 ∨ (answerable failure).reason.number = -32010 := by
  have hinvalid : failure.IsInvalid :=
    onlyInvalid_outcomeOf hmethod hparams hroom hmerchant htoken h failure hfailure
  have hfor := onlyFor_outcomeOf hmethod.symm gateway failure hfailure
  have hnumber : ∀ reason ∈ Method.reasons ++ Operation.reasons,
      reason.isUnder .validation = true → reason.number = -32602 ∨ reason.number = -32010 := by
    decide
  cases failure with
  | refused refusal => exact hnumber refusal.reason (hfor _ rfl) hinvalid
  | _ => cases hinvalid

end Gateway

namespace Gateway

open Http Rpc

section Reachable

variable (policy : Policy) (clock : Rat) (events : List Event)

/-- A request that succeeds is answered with a result, if it can be answered. -/
theorem givesResult_of_success [Nesting] {path : String} (hpath : route? path = some .rpc)
    {body : List UInt8} {request : Rpc.Request} (h : Asks body request) {outcome : Outcome} :
    let gateway := (Gateway.fresh policy clock).after events
    gateway.outcomeOf request = .ok outcome → gateway.CanAnswer body →
      (gateway.serve { method := "POST", path, body }).1.GivesResult := by
  intro gateway houtcome hcan
  have hform := (canAnswer_iff_of_asks policy clock events h).mp hcan
  rw [serve_of_asks gateway hpath h]
  rw [houtcome] at hform ⊢
  exact givesResult_ofPayload hform

/-- The number of the error that a request for a new intent is answered with. -/
theorem errorCode?_of_create [Nesting] {path : String} (hpath : route? path = some .rpc)
    {body : List UInt8} {request : Rpc.Request} (h : Asks body request)
    {merchant token : Value} {raw : RawText}
    (hmethod : request.method = Method.createIntent.name)
    (hparams : request.params = [merchant, .ofRaw raw, token]) :
    let gateway := (Gateway.fresh policy clock).after events
    let response := (gateway.serve { method := "POST", path, body }).1
    gateway.HasRoom →
      (response.errorCode? = some (.int (-32603)) ↔ Amount.TooLong raw)
        ∧ (¬ Amount.TooLong raw → gateway.CanAnswer body → response.GivesResult
          ∨ response.errorCode? = some (.int (-32602))
          ∨ response.errorCode? = some (.int (-32010))) := by
  intro gateway response hroom
  by_cases hlong : Amount.TooLong raw
  · have houtcome : gateway.outcomeOf request = _ := outcomeOf_of_tooLong hmethod hparams hlong
    refine ⟨iff_of_true ?_ hlong, fun hshort => absurd hlong hshort⟩
    refine (errorCode?_serve_of_error policy clock events h hpath houtcome).mpr ⟨?_, rfl⟩
    -- nothing is quoted in the answer, so it can be written
    refine (canAnswer_iff_of_error policy clock events h houtcome).mpr ?_
    simp [answerable, Refusal.ofReason]
  have hshown : ∀ param ∈ request.params, ∃ s, param.shown = .ok s := by
    obtain ⟨entries, hread, hentries⟩ := h
    have hdecode := Request.decode_eq_valid_iff.mpr ⟨entries, rfl, hentries⟩
    exact fun param hmem =>
      (Request.readable_of_decode (Json.readable_of_read hread) hdecode param hmem).shown
        (Request.within_of_decode (Json.within_of_read hread) hdecode param hmem)
  rw [hparams] at hshown
  cases houtcome : gateway.outcomeOf request with
  | ok outcome =>
    have hnone := errorCode?_serve_of_success policy clock events h hpath (-32603) houtcome
    exact ⟨iff_of_false hnone hlong, fun _ hcan =>
      Or.inl (givesResult_of_success policy clock events hpath h houtcome hcan)⟩
  | error failure =>
    have hnumber := number_of_refusal hmethod hparams hroom (hshown _ List.mem_cons_self)
      (hshown token (by simp)) hlong houtcome
    have hcode : ∀ code, response.errorCode? = some (.int code) ↔ gateway.CanAnswer body
        ∧ code = (answerable failure).reason.number :=
      fun code => errorCode?_serve_of_error policy clock events h hpath houtcome
    refine ⟨iff_of_false (fun herror => ?_) hlong, fun _ hcan => Or.inr ?_⟩
    · have hsame := ((hcode _).mp herror).2
      omega
    · exact hnumber.imp (fun hnumber => (hcode _).mpr ⟨hcan, hnumber.symm⟩)
        fun hnumber => (hcode _).mpr ⟨hcan, hnumber.symm⟩

/-- The amount of a request is read exactly if it is a run of ASCII digits, with blanks around it,
of no more digits than the limit; it is refused exactly if it is no such run. So of all requests for
a new intent that a gateway has room for exactly those with a longer run are answered with an
internal error, and the others with a result or a refusal of what was given. -/
theorem amounts_of_requests [Nesting] :
    let gateway := (Gateway.fresh policy clock).after events
    (∀ raw n, Amount.ofRequest raw = .ok n ↔ Text.IsDigits (Text.strip raw.chars)
        ∧ (Text.strip raw.chars).length ≤ Numeral.digitLimit
        ∧ n = Numeral.ofAsciiDigits (Text.strip raw.chars))
      ∧ (∀ raw failure, Amount.ofRequest raw = .error failure ↔
        ¬ Text.IsDigits (Text.strip raw.chars) ∧ failure = Amount.refusal raw
          ∨ Amount.TooLong raw ∧ failure = .numeral (.tooLong (Text.strip raw.chars).length))
      ∧ ∀ body path request merchant raw token, path = "/" ∨ path = "/rpc" → Asks body request →
        request.method = "gorr_createPaymentIntent" →
        request.params = [merchant, .ofRaw raw, token] → gateway.HasRoom →
          let response := (gateway.serve { method := "POST", path, body }).1
          (response.errorCode? = some (.int (-32603)) ↔ Amount.TooLong raw)
            ∧ (¬ Amount.TooLong raw → gateway.CanAnswer body → response.GivesResult
              ∨ response.errorCode? = some (.int (-32602))
              ∨ response.errorCode? = some (.int (-32010))) := by
  intro gateway
  refine ⟨fun raw n => Amount.ofRequest_eq_ok_iff,
    fun raw failure => Amount.ofRequest_eq_error_iff, ?_⟩
  intro body path request merchant raw token hpath hasks hmethod hparams hroom
  exact errorCode?_of_create policy clock events (if_pos hpath) hasks hmethod hparams hroom

end Reachable

/-! ## Two amounts -/

/-- The request for a new intent of an amount. -/
def creation (amount : String) : Rpc.Request where
  method := "gorr_createPaymentIntent"
  params := [.str "0x1111111111111111111111111111111111111111", .str amount, .str "GORR"]
  id := none

theorem exists_asks_creation [Nesting] (amount : String) : ∃ body, Asks body (creation amount) := by
  let entries : Value.Entries := [("jsonrpc", .str "2.0"),
    ("method", .str (creation amount).method), ("params", .list (creation amount).params)]
  have hfaithful : (Value.map entries).Faithful 8 := by
    refine .map ?_ (by simp [entries]) (by simp [entries])
    simp only [entries, List.forall_mem_cons]
    refine ⟨.str _, .str _, .list ?_, nofun⟩
    simp only [creation, List.forall_mem_cons]
    exact ⟨.str _, .str _, .str _, nofun⟩
  obtain ⟨text, _, hread⟩ := Json.exists_write_of_faithful hfaithful Nesting.eight_le_read
    Nesting.eight_le_written
  exact ⟨_, entries, hread, rfl, rfl, rfl, rfl, nofun⟩

theorem hasRoom_standard : (Gateway.fresh .standard 0).HasRoom :=
  ⟨⟨250, rfl⟩, ⟨900, rfl, by decide⟩, by decide, by decide⟩

/-- A numeral with an underscore is no amount, and that is no internal error. -/
theorem amounts_of_requests_grouped :
    ∃ body, Asks body (creation "1_000")
      ∧ ((Gateway.fresh .standard 0).serve { method := "POST", path := "/", body }).1.errorCode?
        ≠ some (.int (-32603)) := by
  obtain ⟨body, hasks⟩ := exists_asks_creation "1_000"
  have hshort : ¬ Amount.TooLong "1_000" := by
    rintro ⟨⟨_, hdigits⟩, _⟩
    exact absurd (hdigits '_' (by decide)) (by decide)
  have hanswered := (amounts_of_requests .standard 0 []).2.2 body "/" (creation "1_000") _ "1_000" _
    (Or.inl rfl) hasks rfl rfl hasRoom_standard
  exact ⟨body, hasks, hanswered.1.not.mpr hshort⟩

/-- A one behind as many zeros as there may be digits is a run of digits whose value is one. But it
is neither read nor refused, and a request for a new intent of that amount is answered with an
internal error. -/
theorem not_read_or_refused_long :
    let digits := List.replicate 4300 '0' ++ ['1']
    let raw : RawText := .text (String.ofList digits)
    Text.IsDigits (Text.strip raw.chars) ∧ Numeral.ofAsciiDigits (Text.strip raw.chars) = 1
      ∧ Amount.ofRequest raw = .error (.numeral (.tooLong 4301))
      ∧ ∃ body, Asks body (creation (String.ofList digits))
        ∧ ((Gateway.fresh .standard 0).serve { method := "POST", path := "/", body }).1.errorCode?
          = some (.int (-32603)) := by
  intro digits raw
  have hdigit : ∀ c ∈ digits, c.isDigit = true := by
    intro c hc
    rcases List.mem_append.mp hc with hzero | hone
    · rw [List.eq_of_mem_replicate hzero]
      decide
    · rw [List.mem_singleton.mp hone]
      decide
  have hlength : digits.length = 4301 := by
    rw [List.length_append, List.length_replicate, List.length_singleton]
  have hstrip : Text.strip raw.chars = digits := by
    rw [RawText.chars, String.toList_ofList]
    exact Text.strip_of_isDigit hdigit
  have hrun : Text.IsDigits digits :=
    ⟨List.append_ne_nil_of_right_ne_nil _ (List.cons_ne_nil _ _), hdigit⟩
  have hlong : Amount.TooLong raw := by
    rw [Amount.TooLong, hstrip, hlength]
    exact ⟨hrun, by decide⟩
  have hvalue : Numeral.ofAsciiDigits digits = 1 := by
    rw [Numeral.ofAsciiDigits_append, Numeral.ofAsciiDigits_zeros]
    rfl
  have hread : Amount.ofRequest raw = .error (.numeral (.tooLong 4301)) :=
    Amount.ofRequest_eq_error_iff.mpr (Or.inr ⟨hlong, by rw [hstrip, hlength]⟩)
  obtain ⟨body, hasks⟩ := exists_asks_creation (String.ofList digits)
  rw [hstrip]
  refine ⟨hrun, hvalue, hread, body, hasks, ?_⟩
  have hparams : (creation (String.ofList digits)).params = [_, .ofRaw raw, _] := rfl
  have hanswered := errorCode?_of_create .standard 0 [] (show Http.route? "/" = some .rpc from rfl)
    hasks rfl hparams hasRoom_standard
  exact hanswered.1.mpr hlong

end Gateway

end IntentGateway
