import TelegramBotApi.ClientManager

/-!
# What one step of the client manager can do

One inversion for each of the two entry points, `send_file_stream` and `send`. The flood controls
change only the flood controls, and a client is created in one way from both.
-/

namespace TelegramBotApi

namespace ClientManager

variable {S : ManagerSetup} {now : ℚ} {s t : ClientManager}

/-- The manager with other flood controls. -/
def withFlood (s : ClientManager) (controls : AList fun _ : Slice => FloodControlFast)
    (control : FloodControlFast) : ClientManager :=
  { s with
    floodControls := controls
    globalFloodControl := control }

theorem checkGlobalFlood_eq (s : ClientManager) (now : ℚ) :
    ∃ controls control, (s.checkGlobalFlood now).2 = s.withFlood controls control := by
  unfold checkGlobalFlood
  split_ifs
  · exact ⟨_, _, rfl⟩
  · exact ⟨_, _, rfl⟩
  · exact ⟨_, _, rfl⟩

theorem checkIpFlood_eq (s : ClientManager) (now : ℚ) (ipAddress : Slice) :
    ∃ controls control, (s.checkIpFlood now ipAddress).2 = s.withFlood controls control := by
  unfold checkIpFlood
  simp only
  split_ifs
  · exact ⟨_, _, rfl⟩
  · exact ⟨_, _, rfl⟩

theorem checkFlood_eq (s : ClientManager) (now : ℚ) (ipAddress : Slice) :
    ∃ controls control, (s.checkFlood now ipAddress).2 = s.withFlood controls control := by
  unfold checkFlood
  split_ifs
  · exact checkGlobalFlood_eq s now
  · obtain ⟨controls, control, hip⟩ := checkIpFlood_eq s now ipAddress
    cases he : s.checkIpFlood now ipAddress with
    | mk wakeup u =>
        rw [he] at hip
        simp only at hip
        cases wakeup with
        | some wakeupAt => exact ⟨controls, control, hip⟩
        | none =>
            obtain ⟨controls', control', hglobal⟩ := checkGlobalFlood_eq u now
            refine ⟨controls', control', hglobal.trans ?_⟩
            rw [hip]
            rfl

/-- The ways in which `send_file_stream` can end. -/
inductive StreamOutcome (S : ManagerSetup) (now : ℚ) (s : ClientManager) (r : StreamRequest) :
    ClientManager → Prop
  | refused (error : Status) (h : s.streamError S r = some error) :
      StreamOutcome S now s r (s.emit (.onFileError r.streamId error))
  | found (id : Nat) (h : s.streamError S r = none)
      (hid : s.tokenToId.lookup (tokenKey r.token r.isTestDc) = some id) :
      StreamOutcome S now s r (s.admitStream r id)
  | flooded (controls : AList fun _ : Slice => FloodControlFast) (control : FloodControlFast)
      (hflood : (s.checkFlood now (S.floodIpAddress r.peerIpAddress)).1 ≠ none) :
      StreamOutcome S now s r
        ((s.withFlood controls control).emit (.onFileError r.streamId tooManyAttempts))
  | created (controls : AList fun _ : Slice => FloodControlFast) (control : FloodControlFast)
      (h : s.streamError S r = none)
      (hid : s.tokenToId.lookup (tokenKey r.token r.isTestDc) = none)
      (hflood : (s.checkFlood now (S.floodIpAddress r.peerIpAddress)).1 = none) :
      StreamOutcome S now s r
        (((s.withFlood controls control).createClient r.token r.isTestDc).admitStream r
          s.nextClientId)

theorem sendFileStream_outcome (S : ManagerSetup) (now : ℚ) (s : ClientManager) (r : StreamRequest) :
    StreamOutcome S now s r (s.sendFileStream S now r) := by
  unfold sendFileStream
  cases herror : s.streamError S r with
  | some error => exact .refused error herror
  | none =>
      simp only
      cases hid : s.tokenToId.lookup (tokenKey r.token r.isTestDc) with
      | some id => exact .found id herror hid
      | none =>
          simp only
          obtain ⟨controls, control, heq⟩ := checkFlood_eq s now (S.floodIpAddress r.peerIpAddress)
          cases hflood : s.checkFlood now (S.floodIpAddress r.peerIpAddress) with
          | mk wakeup u =>
              rw [hflood] at heq
              subst heq
              cases wakeup with
              | some wakeupAt => exact .flooded controls control (by rw [hflood]; exact Option.some_ne_none _)
              | none => exact .created controls control herror hid (by rw [hflood])

/-- The ways in which `send` can end. -/
inductive QueryOutcome (S : ManagerSetup) (now : ℚ) (s : ClientManager) (query : BotQuery) :
    ClientManager → Prop
  | ignored : QueryOutcome S now s query s
  | answered (controls : AList fun _ : Slice => FloodControlFast) (control : FloodControlFast)
      (a : ManagerAction) (ha : (∃ error, a = .failQuery query error) ∨
        ∃ retryAfter, a = .setRetryAfterError query retryAfter) :
      QueryOutcome S now s query ((s.withFlood controls control).emit a)
  | found (id : Nat) (hid : s.tokenToId.lookup (tokenKey query.token query.isTestDc) = some id) :
      QueryOutcome S now s query (s.emit (.sendQuery id query))
  | created (controls : AList fun _ : Slice => FloodControlFast) (control : FloodControlFast)
      (hid : s.tokenToId.lookup (tokenKey query.token query.isTestDc) = none) :
      QueryOutcome S now s query
        ((((s.withFlood controls control).createClient query.token query.isTestDc).restoreWebhook
          query s.nextClientId).emit (.sendQuery s.nextClientId query))

theorem send_outcome (S : ManagerSetup) (now : ℚ) (s : ClientManager) (query : BotQuery) :
    QueryOutcome S now s query (s.send S now query) := by
  unfold send
  by_cases hclose : s.closeFlag = true
  · rw [if_pos hclose]
    exact .ignored
  rw [if_neg hclose]
  cases herror : queryError S query with
  | some error => exact .answered s.floodControls s.globalFloodControl _ (Or.inl ⟨error, rfl⟩)
  | none =>
      simp only
      cases hid : s.tokenToId.lookup (tokenKey query.token query.isTestDc) with
      | some id => exact .found id hid
      | none =>
          simp only
          by_cases hmethod : query.method = "close".toList
          · rw [if_pos hmethod]
            exact .answered s.floodControls s.globalFloodControl _ (Or.inl ⟨alreadyClosed, rfl⟩)
          rw [if_neg hmethod]
          obtain ⟨controls, control, heq⟩ :=
            checkFlood_eq s now (S.floodIpAddress query.peerIpAddress)
          cases hflood : s.checkFlood now (S.floodIpAddress query.peerIpAddress) with
          | mk wakeup u =>
              rw [hflood] at heq
              subst heq
              cases wakeup with
              | some wakeupAt => exact .answered controls control _ (Or.inr ⟨_, rfl⟩)
              | none => exact .created controls control hid

def isRunning (s : ClientManager) : Bool := !(s.stopped || s.crashed)

theorem step_of_running {x : Input} (h : s.isRunning = true) :
    s.step S x = { s with out := [] }.handle S x.now x.event := by
  unfold step
  simp only
  rw [if_neg]
  simpa [isRunning] using h

theorem step_of_not_running {x : Input} (h : s.isRunning = false) :
    s.step S x = { s with out := [] } := by
  unfold step
  simp only
  rw [if_pos]
  simpa [isRunning, or_iff_not_imp_left] using h

end ClientManager

end TelegramBotApi
