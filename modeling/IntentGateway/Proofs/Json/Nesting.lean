import IntentGateway.Proofs.Json.Reading

/-! # How deep what is read is nested

A list or a map is opened only while fewer are open than the limit allows. So what the machine holds
in its frames is nested at most as often as the frames outside leave room for, and a document that
is read is nested at most as often as the limit says.
-/

namespace IntentGateway

namespace Json

/-! ## What the machine holds -/

variable {limit : ℕ}

/-- Whether all that an open list or map holds so far is nested so many times at most. -/
def Frame.Within (depth : ℕ) : Frame → Prop
  | .list items => ∀ item ∈ items, item.Within depth
  | .map pairs _ => ∀ pair ∈ pairs, pair.2.Within depth

/-- Whether the frames that are open are no more than the limit, and hold what they leave room for.
-/
def FramesWithin (limit : ℕ) : List Frame → Prop
  | [] => True
  | frame :: outer =>
    outer.length < limit ∧ frame.Within (limit - (outer.length + 1)) ∧ FramesWithin limit outer

/-- Whether all that the machine holds is nested as the limit allows. -/
def Progress.Within (limit : ℕ) : Progress → Prop
  | .value frames => FramesWithin limit frames
  | .firstItem frames => FramesWithin limit frames ∧ frames.length < limit
  | .firstKey frames => FramesWithin limit frames ∧ frames.length < limit
  | .key frames pairs =>
    FramesWithin limit frames ∧ frames.length < limit
      ∧ ∀ pair ∈ pairs, pair.2.Within (limit - (frames.length + 1))
  | .colon frames pairs _ =>
    FramesWithin limit frames ∧ frames.length < limit
      ∧ ∀ pair ∈ pairs, pair.2.Within (limit - (frames.length + 1))
  | .complete frames v => FramesWithin limit frames ∧ v.Within (limit - frames.length)

/-! ## One step -/

variable {limits : Limits} {frames : List Frame} {token : Token} {progress next : Progress}

theorem opening_eq_ok_iff (hlimits : limits.depth = some limit) {container : Container}
    {inside : Progress} :
    limits.opening frames container inside = .ok progress
      ↔ frames.length < limit ∧ progress = inside := by
  rw [Limits.opening, hlimits]
  by_cases h : limit ≤ frames.length
  · simp [h, Nat.not_lt.mpr h]
  · simp [h, Nat.lt_of_not_le h, eq_comm]

theorem within_beginValue (hlimits : limits.depth = some limit)
    (hframes : FramesWithin limit frames)
    (htoken : token.Readable) (h : beginValue limits frames token = .ok progress) :
    progress.Within limit := by
  cases token with
  | openList =>
    obtain ⟨hroom, rfl⟩ := (opening_eq_ok_iff hlimits).mp h
    exact ⟨hframes, hroom⟩
  | openMap =>
    obtain ⟨hroom, rfl⟩ := (opening_eq_ok_iff hlimits).mp h
    exact ⟨hframes, hroom⟩
  | text raw =>
    cases h
    exact ⟨hframes, Value.within_ofRaw raw _⟩
  | scalar v =>
    cases h
    exact ⟨hframes, .scalar htoken.2⟩
  | _ => cases h

theorem within_continueFrame {v : Value} (hframes : FramesWithin limit frames)
    (hv : v.Within (limit - frames.length)) (h : continueFrame frames v token = .ok progress) :
    progress.Within limit := by
  -- a list or a map that is closed is nested once more than what it holds
  have hclosed : ∀ {outer : List Frame}, outer.length < limit →
      limit - (outer.length + 1) + 1 = limit - outer.length := by
    intro outer hroom
    omega
  rw [continueFrame.eq_def] at h
  split at h
  · cases h
    obtain ⟨hroom, hitems, houter⟩ := hframes
    exact ⟨hroom, List.forall_mem_cons.mpr ⟨hv, hitems⟩, houter⟩
  · cases h
    obtain ⟨hroom, hitems, houter⟩ := hframes
    refine ⟨houter, ?_⟩
    rw [← hclosed hroom]
    refine .list fun item hmem => ?_
    exact (List.forall_mem_cons.mpr ⟨hv, hitems⟩) item (List.mem_reverse.mp hmem)
  · cases h
    obtain ⟨hroom, hpairs, houter⟩ := hframes
    exact ⟨houter, hroom, List.forall_mem_cons.mpr ⟨hv, hpairs⟩⟩
  · cases h
    rename_i pairs key outer
    obtain ⟨hroom, hpairs, houter⟩ := hframes
    have hall : ∀ pair ∈ (key, v) :: pairs, pair.2.Within (limit - (outer.length + 1)) :=
      List.forall_mem_cons.mpr ⟨hv, hpairs⟩
    refine ⟨houter, ?_⟩
    rw [← hclosed hroom]
    exact .map (Value.Entries.forall_ofPairs
      (P := fun entry => entry.2.Within (limit - (outer.length + 1)))
      fun pair hmem => hall pair (List.mem_reverse.mp hmem))
  · cases h

/-- What is empty takes the room of one list or map. -/
theorem within_complete_empty {v : Value} (hroom : frames.length < limit)
    (hframes : FramesWithin limit frames) (hv : ∀ depth, v.Within (depth + 1)) :
    (Progress.complete frames v).Within limit := by
  obtain ⟨rest, hrest⟩ : ∃ rest, limit - frames.length = rest + 1 :=
    ⟨limit - frames.length - 1, by omega⟩
  refine ⟨hframes, ?_⟩
  rw [hrest]
  exact hv rest

/-- A token leaves what the machine holds within the limit. -/
theorem within_advance (hlimits : limits.depth = some limit) (hprogress : progress.Within limit)
    (htoken : token.Readable) (h : advance limits progress token = .ok next) :
    next.Within limit := by
  cases progress with
  | value frames => exact within_beginValue hlimits hprogress htoken h
  | firstItem frames =>
    obtain ⟨hframes, hroom⟩ := hprogress
    rw [advance.eq_def] at h
    dsimp only at h
    split at h
    · cases h
      exact within_complete_empty hroom hframes fun _ => .list (by simp)
    · have hinside : FramesWithin limit (.list [] :: frames) :=
        ⟨hroom, by simp [Frame.Within], hframes⟩
      exact within_beginValue hlimits hinside htoken h
  | firstKey frames =>
    obtain ⟨hframes, hroom⟩ := hprogress
    rw [advance.eq_def] at h
    dsimp only at h
    split at h
    · cases h
      exact within_complete_empty hroom hframes fun _ => .map (by simp)
    · cases h
      exact ⟨hframes, hroom, by simp⟩
    · cases h
  | key frames pairs =>
    rw [advance.eq_def] at h
    dsimp only at h
    split at h <;> cases h
    exact hprogress
  | colon frames pairs key =>
    rw [advance.eq_def] at h
    dsimp only at h
    split at h <;> cases h
    obtain ⟨hframes, hroom, hpairs⟩ := hprogress
    exact ⟨hroom, hpairs, hframes⟩
  | complete frames v => exact within_continueFrame hprogress.1 hprogress.2 h

/-! ## The whole run -/

/-- What is read from bytes is nested as often as the limit allows. -/
theorem within_of_read [Nesting] {bytes : List UInt8} {v : Value} (h : read bytes = .ok v) :
    v.Within Nesting.read := by
  obtain ⟨tokens, htokens, hrun⟩ := exists_run_of_read h
  have hstart : (Progress.value []).Within Nesting.read := trivial
  exact (foldlM_advance_preserves (within_advance rfl) hstart htokens hrun).2

end Json

end IntentGateway
