import TelegramBotApi.ClientManagerStep
import TelegramBotApi.StepRun
import TelegramBotApi.TableLookup

/-!
# Restoring a webhook when a client is created

`send` and `send_file_stream` both create clients. `send` first passes the stored webhook on, as an
internal `setWebhook` request; `send_file_stream` does not. The messages of a run to a client are read
off the log of the run: client ids are handed out in order, so what the creating step sends to a new
client is the beginning of everything it gets.
-/

namespace TelegramBotApi

namespace ClientManager

open StepRun (run AllSteps)

variable {S : ManagerSetup} {now : ℚ} {s t : ClientManager} {x : Input} {id : Nat}

/-- What a client is sent by the manager. -/
inductive Message where
  | query (query : BotQuery)
  | startFileStream (p : PendingFileStream)
  | close
  deriving DecidableEq

/-- The client and the message of an action. -/
def Message.ofAction : ManagerAction → Option (Nat × Message)
  | .sendQuery id q => some (id, .query q)
  | .startFileStream id p => some (id, .startFileStream p)
  | .closeClient id => some (id, .close)
  | _ => none

def messagesTo (id : Nat) (log : List ManagerAction) : List Message :=
  log.filterMap fun a => match Message.ofAction a with
    | some (i, m) => if i = id then some m else none
    | none => none

def log (S : ManagerSetup) : ClientManager → List Input → List ManagerAction
  | _, [] => []
  | s, x :: inputs => (s.step S x).out ++ log S (s.step S x) inputs

theorem messagesTo_append (id : Nat) (l k : List ManagerAction) :
    messagesTo id (l ++ k) = messagesTo id l ++ messagesTo id k := List.filterMap_append

theorem log_append (s : ClientManager) (before after : List Input) :
    log S s (before ++ after) = log S s before ++ log S (run (step S) s before) after := by
  induction before generalizing s with
  | nil => rfl
  | cons x before ih => simp only [List.cons_append, log, ih, StepRun.run_cons, List.append_assoc]

def Event.changesWebhook : Event → Bool
  | .send query => ClientManager.changesWebhook query
  | _ => false

/-- In the run, every client that is created for a bot with a stored webhook, by a request that does
not change the webhook, is sent the restore query before anything else. -/
def RestoresFirst (S : ManagerSetup) (s : ClientManager) (inputs : List Input) : Prop :=
  ∀ before x after, inputs = before ++ x :: after →
    let u := run (step S) s before
    ∀ id token isTestDc tqueueId,
      ManagerAction.createClient id token isTestDc tqueueId ∈ (u.step S x).out →
      u.storedWebhook token isTestDc ≠ [] → x.event.changesWebhook = false →
      (messagesTo id (log S s inputs)).head? = some (.query (getWebhookRestoreQuery
        (tokenWithDc token isTestDc) (u.storedWebhook token isTestDc)))

/-- The request of a stream is accepted for a bot that has a stored webhook and no client. -/
def StreamComesFirst (S : ManagerSetup) (s : ClientManager) (x : Input) : Prop :=
  ∃ r, x.event = .sendFileStream r ∧ s.isRunning = true ∧ s.streamError S r = none ∧
    s.tokenToId.lookup (tokenKey r.token r.isTestDc) = none ∧
    (s.checkFlood x.now (S.floodIpAddress r.peerIpAddress)).1 = none ∧
    s.storedWebhook r.token r.isTestDc ≠ []

structure Known (s : ClientManager) : Prop where
  tokens : ∀ key id, s.tokenToId.lookup key = some id → id < s.nextClientId
  clients : ∀ id ∈ s.clients, id < s.nextClientId

def SendsKnown (t : ClientManager) : Prop :=
  ∀ a ∈ t.out, ∀ p, Message.ofAction a = some p → p.1 < t.nextClientId

theorem messagesTo_eq_nil {l : List ManagerAction} {n : Nat}
    (h : ∀ a ∈ l, ∀ p, Message.ofAction a = some p → p.1 < n) (hid : n ≤ id) :
    messagesTo id l = [] := by
  unfold messagesTo
  rw [List.filterMap_eq_nil_iff]
  intro a ha
  split
  · rename_i i m hm
    rw [if_neg]
    exact fun he => absurd (h a ha _ hm) (by rw [he]; exact Nat.not_lt.2 hid)
  · rfl

structure Numbers (s t : ClientManager) : Prop where
  le : s.nextClientId ≤ t.nextClientId
  known : Known t
  sends : SendsKnown t

theorem Known.createClient (hs : Known s) (token : Slice) (isTestDc : Bool) :
    Known (s.createClient token isTestDc) := by
  refine ⟨fun key id h => ?_, fun id h => ?_⟩
  · change (s.tokenToId.insert _ s.nextClientId).lookup key = some id at h
    rcases TableLookup.of_insert h with ⟨-, rfl⟩ | ⟨-, h⟩
    · exact Nat.lt_succ_self _
    · exact Nat.lt_succ_of_lt (hs.tokens key id h)
  · rcases (AList.mem_insert s.clients).1 h with rfl | h
    · exact Nat.lt_succ_self _
    · exact Nat.lt_succ_of_lt (hs.clients id h)

theorem numbers_of_same (hs : Known s) (hn : t.nextClientId = s.nextClientId)
    (ht : t.tokenToId = s.tokenToId) (hc : t.clients = s.clients) (hout : SendsKnown t) :
    Numbers s t := by
  refine ⟨hn.ge, ⟨fun key id h => ?_, fun id h => ?_⟩, hout⟩
  · rw [hn]
    exact hs.tokens key id (ht ▸ h)
  · rw [hn]
    exact hs.clients id (hc ▸ h)

theorem numbers_sendFileStream (hs : Known s) (hout : s.out = []) (r : StreamRequest) :
    Numbers s (s.sendFileStream S now r) := by
  have h := sendFileStream_outcome S now s r
  revert h
  generalize s.sendFileStream S now r = t
  intro h
  cases h with
  | refused error h =>
      exact numbers_of_same hs rfl rfl rfl (by simp [SendsKnown, emit, hout, Message.ofAction])
  | found id h hid =>
      have hlt := hs.tokens _ _ hid
      refine numbers_of_same hs rfl rfl rfl ?_
      simpa [SendsKnown, admitStream, hout, Message.ofAction] using hlt
  | flooded controls control hflood =>
      exact numbers_of_same hs rfl rfl rfl
        (by simp [SendsKnown, emit, withFlood, hout, Message.ofAction])
  | created controls control h hid hflood =>
      have hk : Known (s.withFlood controls control) := ⟨hs.tokens, hs.clients⟩
      have hc := hk.createClient r.token r.isTestDc
      refine ⟨Nat.le_succ _, ⟨hc.tokens, hc.clients⟩, ?_⟩
      simp [SendsKnown, admitStream, createClient, withFlood, hout, Message.ofAction]

theorem numbers_send (hs : Known s) (hout : s.out = []) (query : BotQuery) :
    Numbers s (s.send S now query) := by
  have h := send_outcome S now s query
  revert h
  generalize s.send S now query = t
  intro h
  cases h with
  | ignored => exact numbers_of_same hs rfl rfl rfl (by simp [SendsKnown, hout])
  | answered controls control a ha =>
      refine numbers_of_same hs rfl rfl rfl ?_
      rcases ha with ⟨error, rfl⟩ | ⟨retryAfter, rfl⟩
      · simp [SendsKnown, emit, withFlood, hout, Message.ofAction]
      · simp [SendsKnown, emit, withFlood, hout, Message.ofAction]
  | found id hid =>
      have hlt := hs.tokens _ _ hid
      refine numbers_of_same hs rfl rfl rfl ?_
      simpa [SendsKnown, emit, hout, Message.ofAction] using hlt
  | created controls control hid =>
      have hk : Known (s.withFlood controls control) := ⟨hs.tokens, hs.clients⟩
      have hc := hk.createClient query.token query.isTestDc
      unfold restoreWebhook
      simp only
      split_ifs
      · refine ⟨Nat.le_succ _, ⟨hc.tokens, hc.clients⟩, ?_⟩
        simp [SendsKnown, emit, createClient, withFlood, hout, Message.ofAction]
      · refine ⟨Nat.le_succ _, ⟨hc.tokens, hc.clients⟩, ?_⟩
        simp [SendsKnown, emit, createClient, withFlood, hout, Message.ofAction]

theorem numbers_hangupShared (hs : Known s) (hout : s.out = []) (id : Nat) :
    Numbers s (s.hangupShared id) := by
  unfold hangupShared
  cases hinfo : s.clients.lookup id with
  | none => exact numbers_of_same hs rfl rfl rfl (by simp [SendsKnown, check, hout])
  | some info =>
      have htokens : ∀ key i, (s.tokenToId.erase info.token).lookup key = some i →
          i < s.nextClientId :=
        fun key i h => hs.tokens key i (TableLookup.of_erase h).2
      have hclients : ∀ i ∈ s.clients.erase id, i < s.nextClientId :=
        fun i h => hs.clients i (AList.mem_erase.1 h).2
      simp only
      split_ifs
      · exact ⟨le_rfl, ⟨htokens, hclients⟩, by simp [SendsKnown, closeDb, check, hout]⟩
      · exact ⟨le_rfl, ⟨htokens, hclients⟩, by simp [SendsKnown, hout]⟩

theorem numbers_close (hs : Known s) (hout : s.out = []) : Numbers s s.close := by
  have hkeys : ∀ id ∈ s.clients.keys, id < s.nextClientId := hs.clients
  unfold close
  simp only
  split_ifs
  · exact numbers_of_same hs rfl rfl rfl (by simp [SendsKnown, hout])
  · refine numbers_of_same hs rfl rfl rfl ?_
    simpa [SendsKnown, closeDb, hout, Message.ofAction] using hkeys
  · refine numbers_of_same hs rfl rfl rfl ?_
    simpa [SendsKnown, hout, Message.ofAction] using hkeys

theorem numbers_step (hs : Known s) (x : Input) : Numbers s (s.step S x) := by
  have hs₀ : Known { s with out := [] } := ⟨hs.tokens, hs.clients⟩
  cases hrun : s.isRunning with
  | false =>
      rw [step_of_not_running hrun]
      exact numbers_of_same hs rfl rfl rfl (by simp [SendsKnown])
  | true =>
      rw [step_of_running hrun]
      have hplain : ∀ t : ClientManager, t.nextClientId = s.nextClientId →
          t.tokenToId = s.tokenToId → t.clients = s.clients → t.out = [] → Numbers s t := by
        intro t hn ht hc ho
        exact numbers_of_same hs hn ht hc (by simp [SendsKnown, ho])
      have hlift : ∀ {t}, Numbers { s with out := [] } t → Numbers s t :=
        fun h => ⟨h.le, h.known, h.sends⟩
      cases x.event with
      | send query => exact hlift (numbers_send hs₀ rfl query)
      | sendFileStream r => exact hlift (numbers_sendFileStream hs₀ rfl r)
      | releaseFileStream id =>
          dsimp only [handle, releaseFileStream]
          split
          · exact hplain _ rfl rfl rfl rfl
          · exact hplain _ rfl rfl rfl rfl
      | hangupShared id => exact hlift (numbers_hangupShared hs₀ rfl id)
      | rawEvent id isActive =>
          dsimp only [handle, rawEvent]
          split
          · exact hplain _ rfl rfl rfl rfl
          · split_ifs
            · exact hplain _ rfl rfl rfl rfl
            · exact hplain _ rfl rfl rfl rfl
      | close => exact hlift (numbers_close hs₀ rfl)
      | timeoutExpired =>
          dsimp only [handle, timeoutExpired]
          split_ifs
          · exact hplain _ rfl rfl rfl rfl
          · exact hplain _ rfl rfl rfl rfl
          · exact hplain _ rfl rfl rfl rfl
      | finishClose => exact hplain _ rfl rfl rfl rfl
      | setWebhookDb key value => exact hplain _ rfl rfl rfl rfl
      | setDiskEmergency value => exact hplain _ rfl rfl rfl rfl

/-- A run sends nothing to a client that does not exist yet at its end. -/
theorem messagesTo_log_eq_nil (hs : Known s) {inputs : List Input}
    (hid : (run (step S) s inputs).nextClientId ≤ id) : messagesTo id (log S s inputs) = [] := by
  induction inputs generalizing s with
  | nil => rfl
  | cons x inputs ih =>
      have hn := numbers_step (S := S) hs x
      have hle : ∀ (l : List Input) (t : ClientManager), Known t →
          t.nextClientId ≤ (run (step S) t l).nextClientId := by
        intro l
        induction l with
        | nil => exact fun t _ => le_rfl
        | cons y l ih =>
            exact fun t ht => (numbers_step ht y).le.trans (ih _ (numbers_step ht y).known)
      rw [log, messagesTo_append, ih hn.known hid, List.append_nil]
      exact messagesTo_eq_nil hn.sends ((hle inputs _ hn.known).trans hid)

/-- The request that creates a client, and what the client is sent in the same step. -/
inductive Creation (S : ManagerSetup) (s : ClientManager) (x : Input) (token : Slice)
    (isTestDc : Bool) : List Message → Prop
  | query (query : BotQuery) (he : x.event = .send query) (htoken : token = query.token)
      (hdc : isTestDc = query.isTestDc) : Creation S s x token isTestDc
        ((if ClientManager.changesWebhook query = false ∧ s.storedWebhook token isTestDc ≠ [] then
          [.query (getWebhookRestoreQuery (tokenWithDc token isTestDc)
            (s.storedWebhook token isTestDc))] else []) ++ [.query query])
  | stream (r : StreamRequest) (he : x.event = .sendFileStream r) (htoken : token = r.token)
      (hdc : isTestDc = r.isTestDc) (herror : s.streamError S r = none)
      (hnone : s.tokenToId.lookup (tokenKey r.token r.isTestDc) = none)
      (hflood : (s.checkFlood x.now (S.floodIpAddress r.peerIpAddress)).1 = none) :
      Creation S s x token isTestDc [.startFileStream ⟨r.streamId, r.fileId, r.expectedSize⟩]

theorem checkGlobalFlood_congr (he : t.isGlobalFloodControlEnabled = s.isGlobalFloodControlEnabled)
    (hc : t.globalFloodControl = s.globalFloodControl) :
    (t.checkGlobalFlood now).1 = (s.checkGlobalFlood now).1 := by
  unfold checkGlobalFlood
  rw [he, hc]
  split_ifs
  · rfl
  · rfl
  · rfl

theorem checkFlood_out (s : ClientManager) (now : ℚ) (ipAddress : Slice)
    (out : List ManagerAction) :
    (({ s with out := out } : ClientManager).checkFlood now ipAddress).1 =
      (s.checkFlood now ipAddress).1 := by
  unfold checkFlood
  by_cases hip : ipAddress = []
  · rw [if_pos hip, if_pos hip]
    exact checkGlobalFlood_congr rfl rfl
  rw [if_neg hip, if_neg hip]
  unfold checkIpFlood
  simp only
  split_ifs
  · rfl
  · exact checkGlobalFlood_congr rfl rfl

theorem send_created {token : Slice} {isTestDc : Bool} {tqueueId : Int} {query : BotQuery}
    (hout : s.out = []) (he : x.event = .send query)
    (h : ManagerAction.createClient id token isTestDc tqueueId ∈ (s.send S now query).out) :
    id = s.nextClientId ∧ Creation S s x token isTestDc (messagesTo id (s.send S now query).out) := by
  have hcases := send_outcome S now s query
  revert h hcases
  generalize s.send S now query = t
  intro h hcases
  cases hcases with
  | ignored => simp [hout] at h
  | answered controls control a ha =>
      rcases ha with ⟨error, rfl⟩ | ⟨retryAfter, rfl⟩
      · simp [emit, withFlood, hout] at h
      · simp [emit, withFlood, hout] at h
  | found i hi => simp [emit, hout] at h
  | created controls control hnone =>
      have hc : id = s.nextClientId ∧ token = query.token ∧ isTestDc = query.isTestDc := by
        unfold restoreWebhook at h
        simp only at h
        split_ifs at h
        · simp [emit, createClient, withFlood, hout] at h
          exact ⟨h.1, h.2.1, h.2.2.1⟩
        · simp [emit, createClient, withFlood, hout] at h
          exact ⟨h.1, h.2.1, h.2.2.1⟩
      obtain ⟨rfl, rfl, rfl⟩ := hc
      refine ⟨rfl, ?_⟩
      have hcreation := Creation.query (S := S) (s := s) query he rfl rfl
      convert hcreation using 1
      unfold restoreWebhook
      simp only
      have hstored : ((s.withFlood controls control).createClient query.token
          query.isTestDc).storedWebhook query.token query.isTestDc =
          s.storedWebhook query.token query.isTestDc := rfl
      rw [hstored]
      by_cases hr : ClientManager.changesWebhook query = false ∧
          s.storedWebhook query.token query.isTestDc ≠ []
      · rw [if_pos hr, if_pos (by simpa using hr)]
        simp [messagesTo, emit, createClient, withFlood, hout, Message.ofAction]
      · rw [if_neg hr, if_neg (by simpa using hr)]
        simp [messagesTo, emit, createClient, withFlood, hout, Message.ofAction]

theorem sendFileStream_created {token : Slice} {isTestDc : Bool} {tqueueId : Int} {r : StreamRequest}
    (hout : s.out = []) (he : x.event = .sendFileStream r)
    (h : ManagerAction.createClient id token isTestDc tqueueId ∈ (s.sendFileStream S x.now r).out) :
    id = s.nextClientId ∧
      Creation S s x token isTestDc (messagesTo id (s.sendFileStream S x.now r).out) := by
  have hcases := sendFileStream_outcome S x.now s r
  revert h hcases
  generalize s.sendFileStream S x.now r = t
  intro h hcases
  cases hcases with
  | refused error herror => simp [emit, hout] at h
  | found i herror hi => simp [admitStream, hout] at h
  | flooded controls control hflood => simp [emit, withFlood, hout] at h
  | created controls control herror hnone hflood =>
      simp [admitStream, createClient, withFlood, hout] at h
      obtain ⟨rfl, rfl, rfl, -⟩ := h
      refine ⟨rfl, ?_⟩
      have hcreation := Creation.stream (S := S) (s := s) r he rfl rfl herror hnone hflood
      convert hcreation using 1
      simp [messagesTo, admitStream, createClient, withFlood, hout, Message.ofAction]

theorem step_created {token : Slice} {isTestDc : Bool} {tqueueId : Int}
    (h : ManagerAction.createClient id token isTestDc tqueueId ∈ (s.step S x).out) :
    s.isRunning = true ∧ id = s.nextClientId ∧
      Creation S { s with out := [] } x token isTestDc (messagesTo id (s.step S x).out) := by
  cases hrun : s.isRunning with
  | false =>
      rw [step_of_not_running hrun] at h
      cases h
  | true =>
      rw [step_of_running hrun] at h ⊢
      refine ⟨rfl, ?_⟩
      have hno : ∀ t : ClientManager, t.out = [] →
          ManagerAction.createClient id token isTestDc tqueueId ∉ t.out := by
        intro t ht hmem
        rw [ht] at hmem
        cases hmem
      cases he : x.event with
      | send query =>
          rw [he] at h
          exact send_created (s := { s with out := [] }) rfl he h
      | sendFileStream r =>
          rw [he] at h
          exact sendFileStream_created (s := { s with out := [] }) rfl he h
      | releaseFileStream i =>
          rw [he] at h
          refine absurd h (hno _ ?_)
          dsimp only [handle, releaseFileStream]
          split
          · rfl
          · rfl
      | hangupShared i =>
          rw [he] at h
          refine absurd h (hno _ ?_)
          dsimp only [handle, hangupShared]
          split
          · rfl
          · split_ifs
            · rfl
            · rfl
      | rawEvent i isActive =>
          rw [he] at h
          refine absurd h (hno _ ?_)
          dsimp only [handle, rawEvent]
          split
          · rfl
          · split_ifs
            · rfl
            · rfl
      | close =>
          rw [he] at h
          dsimp only [handle, close] at h
          split_ifs at h
          · cases h
          · simp [closeDb] at h
          · simp at h
      | timeoutExpired =>
          rw [he] at h
          refine absurd h (hno _ ?_)
          dsimp only [handle, timeoutExpired]
          split_ifs
          · rfl
          · rfl
          · rfl
      | finishClose => rw [he] at h; exact absurd h (hno _ rfl)
      | setWebhookDb key value => rw [he] at h; exact absurd h (hno _ rfl)
      | setDiskEmergency value => rw [he] at h; exact absurd h (hno _ rfl)

/-- What a new client is sent first in the whole run is what it is sent first when it is created. -/
theorem head_messagesTo_log (hs : Known s) {before after : List Input}
    (hid : id = (run (step S) s before).nextClientId)
    (hne : messagesTo id ((run (step S) s before).step S x).out ≠ []) :
    (messagesTo id (log S s (before ++ x :: after))).head? =
      (messagesTo id ((run (step S) s before).step S x).out).head? := by
  rw [log_append, log, messagesTo_append, messagesTo_append, messagesTo_log_eq_nil hs hid.ge,
    List.nil_append, List.head?_append_of_ne_nil _ hne]

/-- An accepted stream of a bot without a client creates the client and starts there. -/
theorem streamComesFirst_created (h : StreamComesFirst S s x) :
    ∃ token isTestDc tqueueId,
      ManagerAction.createClient s.nextClientId token isTestDc tqueueId ∈ (s.step S x).out ∧
      s.storedWebhook token isTestDc ≠ [] ∧ x.event.changesWebhook = false := by
  obtain ⟨r, he, hrun, herror, hnone, hflood, hstored⟩ := h
  refine ⟨r.token, r.isTestDc, getTqueueId ((tokenUserId r.token).getD 0) r.isTestDc, ?_, hstored,
    by rw [he]; rfl⟩
  rw [step_of_running hrun, he]
  have hcases := sendFileStream_outcome S x.now { s with out := [] } r
  rw [← checkFlood_out s x.now _ []] at hflood
  dsimp only [handle]
  revert hcases
  generalize ClientManager.sendFileStream S x.now { s with out := [] } r = t
  intro hcases
  cases hcases with
  | refused error h => cases herror.symm.trans h
  | found i _ h => cases hnone.symm.trans h
  | flooded controls control h => exact absurd hflood h
  | created controls control => simp [admitStream, createClient, withFlood]

theorem Creation.restores_iff {token : Slice} {isTestDc : Bool} {m : List Message}
    (h : Creation S { s with out := [] } x token isTestDc m) (hrun : s.isRunning = true)
    (hstored : s.storedWebhook token isTestDc ≠ []) (hplain : x.event.changesWebhook = false) :
    m ≠ [] ∧ (m.head? = some (.query (getWebhookRestoreQuery (tokenWithDc token isTestDc)
      (s.storedWebhook token isTestDc))) ↔ ¬ StreamComesFirst S s x) := by
  cases h with
  | query query he htoken hdc =>
      rw [he] at hplain
      have hcond : ClientManager.changesWebhook query = false ∧
          ({ s with out := [] } : ClientManager).storedWebhook token isTestDc ≠ [] := ⟨hplain, hstored⟩
      rw [if_pos hcond]
      refine ⟨by simp, iff_of_true rfl ?_⟩
      rintro ⟨r, hr, -⟩
      cases he.symm.trans hr
  | stream r he htoken hdc herror hnone hflood =>
      rw [checkFlood_out] at hflood
      rw [htoken, hdc] at hstored
      exact ⟨by simp, iff_of_false (by simp) (not_not.2 ⟨r, he, hrun, herror, hnone, hflood, hstored⟩)⟩

theorem known_start (db : AList fun _ : Slice => Slice) : Known { webhookDb := db } where
  tokens key id h := by
    rw [AList.lookup_empty] at h
    cases h
  clients id h := absurd h (AList.notMem_empty id)

end ClientManager

open ClientManager in
/-- For every content of the webhook database, in a run every client gets the stored webhook before
anything else if and only if no request of a stream is accepted for a bot with a stored webhook that
has no client. -/
theorem webhook_restored_first_iff (S : ManagerSetup) (db : AList fun _ : Slice => Slice)
    (inputs : List ClientManager.Input) :
    RestoresFirst S { webhookDb := db } inputs ↔
      StepRun.AllSteps (ClientManager.step S) (fun s x => ¬ StreamComesFirst S s x)
        { webhookDb := db } inputs := by
  have hk := known_start db
  have hfirst : ∀ before x after, inputs = before ++ x :: after →
      let u := StepRun.run (ClientManager.step S) { webhookDb := db } before
      ∀ id token isTestDc tqueueId,
        ManagerAction.createClient id token isTestDc tqueueId ∈ (u.step S x).out →
        u.storedWebhook token isTestDc ≠ [] → x.event.changesWebhook = false →
        ((messagesTo id (log S { webhookDb := db } inputs)).head? =
          some (.query (getWebhookRestoreQuery (tokenWithDc token isTestDc)
            (u.storedWebhook token isTestDc))) ↔ ¬ StreamComesFirst S u x) := by
    intro before x after he u id token isTestDc tqueueId hc hstored hplain
    obtain ⟨hrun, hid, hcreation⟩ := step_created hc
    obtain ⟨hne, hiff⟩ := hcreation.restores_iff hrun hstored hplain
    rw [he, head_messagesTo_log hk hid hne]
    exact hiff
  rw [StepRun.allSteps_iff_split]
  refine ⟨fun h before x after he hstream => ?_, fun h before x after he => ?_⟩
  · obtain ⟨token, isTestDc, tqueueId, hc, hstored, hplain⟩ := streamComesFirst_created hstream
    have hrestored := h before x after he _ _ _ _ hc hstored hplain
    exact (hfirst before x after he _ _ _ _ hc hstored hplain).1 hrestored hstream
  · intro u id token isTestDc tqueueId hc hstored hplain
    exact (hfirst before x after he _ _ _ _ hc hstored hplain).2 (h before x after he)

/-- A stream arrives first for a bot with a stored webhook: its client never hears of the webhook. -/
theorem webhook_lost_to_stream :
    let S : ManagerSetup :=
      { fileStreamingEnabled := true, fileStreamMaxConnections := 8, positive := by decide }
    let token := "7:AAAAAAAAAAAAAAAAAAAAAAAA".toList
    let db : AList fun _ : Slice => Slice := AList.insert token "#maxc40/https://a.b/".toList ∅
    let inputs : List ClientManager.Input :=
      [⟨.sendFileStream { streamId := 1, token := token, fileId := ['x'] }, 0⟩,
        ⟨.send { token := token, method := "getme".toList }, 1⟩]
    ClientManager.messagesTo 1 (ClientManager.log S { webhookDb := db } inputs) =
        [.startFileStream ⟨1, ['x'], -1⟩, .query { token := token, method := "getme".toList }] ∧
      ¬ ClientManager.RestoresFirst S { webhookDb := db } inputs := by
  intro S token db inputs
  have hlog : ClientManager.messagesTo 1 (ClientManager.log S { webhookDb := db } inputs) =
      [.startFileStream ⟨1, ['x'], -1⟩, .query { token := token, method := "getme".toList }] := by
    decide +kernel
  refine ⟨hlog, fun h => ?_⟩
  have hfirst := h [] ⟨.sendFileStream { streamId := 1, token := token, fileId := ['x'] }, 0⟩ _ rfl 1
    token false 7 (by decide +kernel) (by decide +kernel) rfl
  rw [hlog] at hfirst
  cases hfirst

end TelegramBotApi
