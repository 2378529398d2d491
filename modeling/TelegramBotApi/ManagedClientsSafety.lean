import TelegramBotApi.ManagedClients
import TelegramBotApi.TableLookup
import Mathlib.Data.Finset.Filter

/-!
# The registry of clients

`Registry` relates the tables of the manager to the clients that have not hung up: both tables name the
same clients, and the count of a queue is the number of its clients that became active and did not stop
being it. A request changes the registry only by creating one client, and a client changes it only by
the three messages it sends, whose order is that of its life. `Shutdown` says which promises of `close`
still wait. Together they hold along every run.
-/

namespace TelegramBotApi

namespace ClientManager

variable {S : ManagerSetup} {now : ℚ} {m m' : ClientManager}

structure SameRegistry (m m' : ClientManager) : Prop where
  clients : m'.clients = m.clients
  nextClientId : m'.nextClientId = m.nextClientId
  tokenToId : m'.tokenToId = m.tokenToId
  activeClientCount : m'.activeClientCount = m.activeClientCount
  crashed : m'.crashed = m.crashed

/-- The members that a request for a known bot leaves alone. -/
structure SameClients (m m' : ClientManager) : Prop extends SameRegistry m m' where
  closeFlag : m'.closeFlag = m.closeFlag
  closeDbStarted : m'.closeDbStarted = m.closeDbStarted
  stopped : m'.stopped = m.stopped

theorem sameClients_refl (m : ClientManager) : SameClients m m := ⟨⟨rfl, rfl, rfl, rfl, rfl⟩, rfl, rfl, rfl⟩

def creations (actions : List ManagerAction) : List ManagerAction :=
  actions.filter fun
    | .createClient .. => true
    | _ => false

/-- A request creates at most one client, for a bot that has none. -/
inductive RequestOutcome (m : ClientManager) : ClientManager → Prop
  | same {m' : ClientManager} (hsame : SameClients m m') (hout : creations m'.out = []) : RequestOutcome m m'
  | created {m' : ClientManager} (token : Slice) (isTestDc : Bool)
      (hsame : SameClients (m.createClient token isTestDc) m')
      (hout : creations m'.out = [.createClient m.nextClientId token isTestDc
        (getTqueueId ((tokenUserId token).getD 0) isTestDc)])
      (hnew : m.tokenToId.lookup (tokenKey token isTestDc) = none)
      (hqueue : getTqueueId ((tokenUserId token).getD 0) isTestDc ≠ 0)
      (hclose : m.closeFlag = false) : RequestOutcome m m'

theorem getTqueueId_ne_zero {userId : Int} (h : 0 < userId) (isTestDc : Bool) : getTqueueId userId isTestDc ≠ 0 := by
  unfold getTqueueId
  split_ifs <;> omega

theorem tokenUserId_of_streamError {r : StreamRequest} (h : m.streamError S r = none) :
    m.closeFlag = false ∧ ∃ userId, tokenUserId r.token = some userId ∧ 0 < userId := by
  unfold streamError at h
  split at h
  · cases h
  split at h
  · cases h
  rename_i hclose
  split at h
  · cases h
  split at h
  · cases h
  split at h
  · cases h
  refine ⟨eq_false_of_ne_true hclose, ?_⟩
  cases huser : tokenUserId r.token with
  | none =>
      rw [huser] at h
      cases h
  | some userId =>
      rw [huser] at h
      dsimp only at h
      split at h
      · cases h
      · rename_i hrange
        exact ⟨userId, rfl, not_le.1 (not_or.1 hrange).1⟩

theorem tokenUserId_of_queryError {query : BotQuery} (h : queryError S query = none) :
    ∃ userId, tokenUserId query.token = some userId ∧ 0 < userId := by
  unfold queryError at h
  split at h
  · cases h
  cases huser : tokenUserId query.token with
  | none =>
      rw [huser] at h
      cases h
  | some userId =>
      rw [huser] at h
      dsimp only at h
      split at h
      · cases h
      split at h
      · cases h
      · rename_i hrange
        exact ⟨userId, rfl, not_le.1 (not_or.1 hrange).1⟩

theorem requestOutcome_sendFileStream (hout : m.out = []) (r : StreamRequest) :
    RequestOutcome m (m.sendFileStream S now r) := by
  have houtcome := sendFileStream_outcome S now m r
  generalize m.sendFileStream S now r = t at houtcome ⊢
  cases houtcome with
  | refused error h =>
      refine .same ⟨⟨rfl, rfl, rfl, rfl, rfl⟩, rfl, rfl, rfl⟩ ?_
      change creations (m.out ++ _) = []
      rw [hout]
      rfl
  | found id h hid =>
      refine .same ⟨⟨rfl, rfl, rfl, rfl, rfl⟩, rfl, rfl, rfl⟩ ?_
      change creations (m.out ++ _) = []
      rw [hout]
      rfl
  | flooded controls control hflood =>
      refine .same ⟨⟨rfl, rfl, rfl, rfl, rfl⟩, rfl, rfl, rfl⟩ ?_
      change creations (m.out ++ _) = []
      rw [hout]
      rfl
  | created controls control h hid hflood =>
      obtain ⟨hclose, userId, huser, hpos⟩ := tokenUserId_of_streamError h
      refine .created r.token r.isTestDc ⟨⟨rfl, rfl, rfl, rfl, rfl⟩, rfl, rfl, rfl⟩ ?_ hid ?_ hclose
      · change creations (m.out ++ _ ++ _) = _
        rw [hout]
        rfl
      · rw [huser]
        exact getTqueueId_ne_zero hpos r.isTestDc

theorem sameClients_restoreWebhook (m : ClientManager) (query : BotQuery) (id : Nat) :
    SameClients m (m.restoreWebhook query id) ∧ creations (m.restoreWebhook query id).out = creations m.out := by
  unfold restoreWebhook
  dsimp only
  split_ifs
  · refine ⟨⟨⟨rfl, rfl, rfl, rfl, rfl⟩, rfl, rfl, rfl⟩, ?_⟩
    exact (List.filter_append _ _).trans (List.append_nil _)
  · exact ⟨sameClients_refl m, rfl⟩

theorem requestOutcome_send (hout : m.out = []) (query : BotQuery) : RequestOutcome m (m.send S now query) := by
  have hnone : creations m.out = [] := by
    rw [hout]
    rfl
  by_cases hclose : m.closeFlag = true
  · have hsend : m.send S now query = m := by
      unfold send
      rw [if_pos hclose]
    rw [hsend]
    exact .same (sameClients_refl m) hnone
  cases herror : queryError S query with
  | some error =>
      have hsend : m.send S now query = m.emit (.failQuery query error) := by
        unfold send
        rw [if_neg hclose, herror]
      rw [hsend]
      refine .same ⟨⟨rfl, rfl, rfl, rfl, rfl⟩, rfl, rfl, rfl⟩ ?_
      change creations (m.out ++ _) = []
      rw [hout]
      rfl
  | none =>
      have houtcome := send_outcome S now m query
      generalize m.send S now query = t at houtcome ⊢
      cases houtcome with
      | ignored => exact .same (sameClients_refl m) hnone
      | answered controls control a ha =>
          refine .same ⟨⟨rfl, rfl, rfl, rfl, rfl⟩, rfl, rfl, rfl⟩ ?_
          change creations (m.out ++ _) = []
          rw [hout]
          rcases ha with ⟨error, rfl⟩ | ⟨retryAfter, rfl⟩
          · rfl
          · rfl
      | found id hid =>
          refine .same ⟨⟨rfl, rfl, rfl, rfl, rfl⟩, rfl, rfl, rfl⟩ ?_
          change creations (m.out ++ _) = []
          rw [hout]
          rfl
      | created controls control hid =>
          obtain ⟨userId, huser, hpos⟩ := tokenUserId_of_queryError herror
          obtain ⟨hsame, hcreations⟩ := sameClients_restoreWebhook
            ((m.withFlood controls control).createClient query.token query.isTestDc) query m.nextClientId
          refine .created query.token query.isTestDc ?_ ?_ hid ?_ (eq_false_of_ne_true hclose)
          · exact ⟨⟨hsame.clients, hsame.nextClientId, hsame.tokenToId, hsame.activeClientCount, hsame.crashed⟩,
              hsame.closeFlag, hsame.closeDbStarted, hsame.stopped⟩
          · refine ((List.filter_append _ _).trans (List.append_nil _)).trans (hcreations.trans ?_)
            change creations (m.out ++ _) = _
            rw [hout]
            rfl
          · rw [huser]
            exact getTqueueId_ne_zero hpos query.isTestDc

theorem requested_releaseFileStream (hout : m.out = []) (streamId : Int) :
    RequestOutcome m (m.releaseFileStream streamId) := by
  unfold releaseFileStream
  cases m.activeFileStreamToken.lookup streamId with
  | none => exact .same ⟨⟨rfl, rfl, rfl, rfl, rfl⟩, rfl, rfl, rfl⟩ (congrArg creations hout)
  | some key => exact .same ⟨⟨rfl, rfl, rfl, rfl, rfl⟩, rfl, rfl, rfl⟩ (congrArg creations hout)

theorem requested_timeoutExpired (hout : m.out = []) (hclose : m.closeFlag = false) :
    RequestOutcome m (m.timeoutExpired S) := by
  unfold timeoutExpired
  rw [if_neg (ne_true_of_eq_false hclose)]
  split_ifs
  · exact .same ⟨⟨rfl, rfl, rfl, rfl, rfl⟩, rfl, rfl, rfl⟩ (congrArg creations hout)
  · exact .same (sameClients_refl m) (congrArg creations hout)

def IsRequest (m : ClientManager) : Event → Prop
  | .hangupShared _ | .rawEvent _ _ | .close | .finishClose => False
  | .timeoutExpired => m.closeFlag = false
  | _ => True

theorem requested_step {e : Event} (hrunning : m.isRunning = true) (he : IsRequest m e) :
    RequestOutcome { m with out := [] } (m.step S ⟨e, now⟩) := by
  rw [step_of_running hrunning]
  cases e with
  | send query => exact requestOutcome_send rfl query
  | sendFileStream r => exact requestOutcome_sendFileStream rfl r
  | releaseFileStream streamId => exact requested_releaseFileStream rfl streamId
  | timeoutExpired => exact requested_timeoutExpired rfl he
  | setWebhookDb key value => exact .same ⟨⟨rfl, rfl, rfl, rfl, rfl⟩, rfl, rfl, rfl⟩ rfl
  | setDiskEmergency value => exact .same ⟨⟨rfl, rfl, rfl, rfl, rfl⟩, rfl, rfl, rfl⟩ rfl
  | hangupShared id => exact he.elim
  | rawEvent id isActive => exact he.elim
  | close => exact he.elim
  | finishClose => exact he.elim

section Messages

variable {id : Nat} {info : ClientInfo}

theorem rawEvent_true (hinfo : m.clients.lookup id = some info) : m.rawEvent id true =
    { m with activeClientCount := RefCount.retain m.activeClientCount info.tqueueId } := by
  unfold rawEvent
  rw [hinfo]
  rfl

theorem rawEvent_false (hinfo : m.clients.lookup id = some info)
    (hpos : 0 < RefCount.count m.activeClientCount info.tqueueId) : m.rawEvent id false =
    { m with activeClientCount := RefCount.release m.activeClientCount info.tqueueId } := by
  unfold rawEvent check
  rw [hinfo]
  simp [hpos]

/-- The last client of a closing manager lets it close the databases. -/
theorem hangupShared_eq (hinfo : m.clients.lookup id = some info)
    (hidle : (m.clients.erase id).keys = [] → m.activeClientCount.keys = []) : m.hangupShared id =
    { m with
      tokenToId := m.tokenToId.erase info.token
      clients := m.clients.erase id
      closeDbStarted := m.closeDbStarted || (m.closeFlag && (m.clients.erase id).keys.isEmpty) } := by
  unfold hangupShared closeDb check
  rw [hinfo]
  dsimp only
  split_ifs with hlast
  · rw [hidle hlast.2, hlast.2, hlast.1]
    simp
  · have hstay : (m.closeFlag && (m.clients.erase id).keys.isEmpty) = false := by
      rw [Bool.and_eq_false_iff, List.isEmpty_eq_false_iff]
      exact (not_and_or.1 hlast).imp_left eq_false_of_ne_true
    rw [hstay, Bool.or_false]

end Messages

end ClientManager

namespace ManagedClients

open ClientManager (SameRegistry RequestOutcome IsRequest creations)

variable {S : ManagerSetup} {s : ManagedClients} {m m' : ClientManager} {lives : AList fun _ : Nat => ClientLife}

theorem foldl_addLife (actions : List ManagerAction) (lives : AList fun _ : Nat => ClientLife) :
    actions.foldl addLife lives = (creations actions).foldl addLife lives := by
  induction actions generalizing lives with
  | nil => rfl
  | cons action actions ih =>
      cases action with
      | createClient id token isTestDc tqueueId => exact ih _
      | _ => exact ih lives

/-- The registered clients with the given queue that count as active. -/
def counted (m : ClientManager) (lives : AList fun _ : Nat => ClientLife) (q : Int) : Finset Nat :=
  m.clients.keys.toFinset.filter fun id =>
    ((m.clients.lookup id).any (·.tqueueId = q)) = true ∧ ((lives.lookup id).any (·.isCounted)) = true

theorem mem_counted {q : Int} {id : Nat} : id ∈ counted m lives q ↔
    ∃ info life, m.clients.lookup id = some info ∧ lives.lookup id = some life ∧ info.tqueueId = q ∧
      life.isCounted = true := by
  unfold counted
  rw [Finset.mem_filter, List.mem_toFinset, ← AList.mem_keys, ← AList.lookup_isSome]
  cases m.clients.lookup id with
  | none => simp
  | some info =>
      cases lives.lookup id with
      | none => simp
      | some life => simp

structure Registry (m : ClientManager) (lives : AList fun _ : Nat => ClientLife) : Prop where
  inverse : ∀ key id, m.tokenToId.lookup key = some id ↔
    ∃ info, m.clients.lookup id = some info ∧ info.token = key
  numbered : ∀ id info, m.clients.lookup id = some info → id < m.nextClientId
  alive : ∀ id, (m.clients.lookup id).isSome = (lives.lookup id).isSome
  named : ∀ id info life, m.clients.lookup id = some info → lives.lookup id = some life →
    info.token = tokenKey life.token life.isTestDc
  queued : ∀ id info, m.clients.lookup id = some info → info.tqueueId ≠ 0
  orderly : ∀ id life, lives.lookup id = some life → life.Orderly
  counts : RefCount.Counts m.activeClientCount fun q => (counted m lives q).card
  sound : m.crashed = false

namespace Registry

theorem congr (h : Registry m lives) (hsame : SameRegistry m m') : Registry m' lives := by
  refine ⟨?_, ?_, ?_, ?_, ?_, h.orderly, ?_, ?_⟩
  · rw [hsame.tokenToId, hsame.clients]
    exact h.inverse
  · rw [hsame.clients, hsame.nextClientId]
    exact h.numbered
  · rw [hsame.clients]
    exact h.alive
  · rw [hsame.clients]
    exact h.named
  · rw [hsame.clients]
    exact h.queued
  · rw [hsame.activeClientCount]
    unfold counted
    rw [hsame.clients]
    exact h.counts
  · rw [hsame.crashed]
    exact h.sound

/-- Client numbers grow, so a new client is not among the registered ones. -/
theorem lookup_next (h : Registry m lives) : m.clients.lookup m.nextClientId = none := by
  by_contra hsome
  obtain ⟨info, hinfo⟩ := Option.ne_none_iff_exists'.1 hsome
  exact absurd (h.numbered _ info hinfo) (lt_irrefl _)

theorem ne_next (h : Registry m lives) {id : Nat} {info : ClientInfo} (hinfo : m.clients.lookup id = some info) :
    id ≠ m.nextClientId := (h.numbered id info hinfo).ne

theorem create (h : Registry m lives) (token : Slice) (isTestDc : Bool)
    (hnew : m.tokenToId.lookup (tokenKey token isTestDc) = none)
    (hqueue : getTqueueId ((tokenUserId token).getD 0) isTestDc ≠ 0) :
    Registry (m.createClient token isTestDc)
      (lives.insert m.nextClientId { token := token, isTestDc := isTestDc }) := by
  have hnext := h.lookup_next
  have hself : (m.createClient token isTestDc).clients.lookup m.nextClientId =
      some ⟨tokenKey token isTestDc, getTqueueId ((tokenUserId token).getD 0) isTestDc⟩ := AList.lookup_insert _
  have hold : ∀ {id}, id ≠ m.nextClientId →
      (m.createClient token isTestDc).clients.lookup id = m.clients.lookup id := AList.lookup_insert_ne
  refine ⟨fun key id => ?_, fun id info hinfo => ?_, fun id => ?_, fun id info life hinfo hlife => ?_,
    fun id info hinfo => ?_, fun id life hlife => ?_, ?_, h.sound⟩
  · by_cases hkey : key = tokenKey token isTestDc
    · subst hkey
      have htoken : (m.createClient token isTestDc).tokenToId.lookup (tokenKey token isTestDc) =
          some m.nextClientId := AList.lookup_insert _
      rw [htoken, Option.some_inj]
      refine ⟨fun hid => ⟨_, hid ▸ hself, rfl⟩, fun ⟨info, hinfo, hsame⟩ => ?_⟩
      by_contra hid
      rw [hold (Ne.symm hid)] at hinfo
      have hlookup := (h.inverse _ _).2 ⟨info, hinfo, hsame⟩
      rw [hnew] at hlookup
      cases hlookup
    · have htoken : (m.createClient token isTestDc).tokenToId.lookup key = m.tokenToId.lookup key :=
        AList.lookup_insert_ne hkey
      rw [htoken, h.inverse]
      refine ⟨fun ⟨info, hinfo, hsame⟩ => ⟨info, (hold (h.ne_next hinfo)).trans hinfo, hsame⟩,
        fun ⟨info, hinfo, hsame⟩ => ⟨info, ?_, hsame⟩⟩
      by_cases hid : id = m.nextClientId
      · subst hid
        rw [hself] at hinfo
        cases hinfo
        exact absurd hsame.symm hkey
      · rwa [hold hid] at hinfo
  · by_cases hid : id = m.nextClientId
    · rw [hid]
      exact Nat.lt_succ_self _
    · rw [hold hid] at hinfo
      exact Nat.lt_succ_of_lt (h.numbered id info hinfo)
  · by_cases hid : id = m.nextClientId
    · subst hid
      rw [hself, AList.lookup_insert]
      rfl
    · rw [hold hid, AList.lookup_insert_ne hid]
      exact h.alive id
  · rcases TableLookup.of_insert hlife with ⟨rfl, rfl⟩ | ⟨hid, hlife⟩
    · rw [hself] at hinfo
      cases hinfo
      rfl
    · rw [hold hid] at hinfo
      exact h.named id info life hinfo hlife
  · by_cases hid : id = m.nextClientId
    · subst hid
      rw [hself] at hinfo
      cases hinfo
      exact hqueue
    · rw [hold hid] at hinfo
      exact h.queued id info hinfo
  · rcases TableLookup.of_insert hlife with ⟨-, rfl⟩ | ⟨-, hlife⟩
    · exact ClientLife.orderly_new token isTestDc
    · exact h.orderly id life hlife
  · refine h.counts.congr fun q => congrArg Finset.card (Finset.ext fun id => ?_)
    rw [mem_counted, mem_counted]
    by_cases hid : id = m.nextClientId
    · subst hid
      rw [hself, hnext, AList.lookup_insert]
      refine iff_of_false ?_ ?_
      · rintro ⟨info, life, hinfo, hlife, -, hcounted⟩
        cases hlife
        cases hcounted
      · rintro ⟨info, life, hinfo, -⟩
        cases hinfo
    · rw [hold hid, AList.lookup_insert_ne hid]

/-- A client goes on, and perhaps the manager counts it in another way. -/
theorem setLife (h : Registry m lives) {id : Nat} {life life' : ClientLife} (hlife : lives.lookup id = some life)
    (htoken : life'.token = life.token) (hdc : life'.isTestDc = life.isTestDc) (horderly : life'.Orderly)
    {count : RefCount.Table Int}
    (hcounts : RefCount.Counts count fun q => (counted m (lives.insert id life') q).card) :
    Registry { m with activeClientCount := count } (lives.insert id life') := by
  refine ⟨h.inverse, h.numbered, fun key => ?_, fun key info other hinfo hother => ?_, h.queued,
    fun key other hother => ?_, hcounts, h.sound⟩
  · by_cases hkey : key = id
    · subst hkey
      rw [AList.lookup_insert]
      refine (h.alive key).trans ?_
      rw [hlife]
      rfl
    · rw [AList.lookup_insert_ne hkey]
      exact h.alive key
  · rcases TableLookup.of_insert hother with ⟨rfl, rfl⟩ | ⟨-, hother⟩
    · rw [htoken, hdc]
      exact h.named key info life hinfo hlife
    · exact h.named key info other hinfo hother
  · rcases TableLookup.of_insert hother with ⟨-, rfl⟩ | ⟨-, hother⟩
    · exact horderly
    · exact h.orderly key other hother

theorem clientStep (h : Registry m lives) {id : Nat} {life : ClientLife} (hlife : lives.lookup id = some life)
    (e : ClientLifeEvent) : Registry m (lives.insert id (life.step e)) := by
  obtain ⟨htoken, hdc, hprocessed⟩ := ClientLife.sameBot_step life e
  refine h.setLife hlife htoken hdc ((h.orderly id life hlife).step e) (h.counts.congr fun q => ?_)
  refine congrArg Finset.card (Finset.ext fun key => ?_)
  rw [mem_counted, mem_counted]
  by_cases hkey : key = id
  · subst hkey
    rw [AList.lookup_insert, hlife]
    have hcounted : (life.step e).isCounted = life.isCounted := by
      unfold ClientLife.isCounted
      rw [hprocessed]
    simp [hcounted]
  · rw [AList.lookup_insert_ne hkey]

section Handled

variable {id : Nat} {info : ClientInfo} {life : ClientLife} {mailbox : List ParentMessage}

/-- The client after the manager has handled its next message. -/
def handled (life : ClientLife) (mailbox : List ParentMessage) (message : ParentMessage) : ClientLife :=
  { life with mailbox := mailbox, processed := life.processed ++ [message] }

theorem mem_counted_handled (hinfo : m.clients.lookup id = some info) {life' : ClientLife} {q : Int} {key : Nat} :
    key ∈ counted m (lives.insert id life') q ↔
      (key = id ∧ info.tqueueId = q ∧ life'.isCounted = true) ∨ (key ≠ id ∧ key ∈ counted m lives q) := by
  rw [mem_counted, mem_counted]
  by_cases hkey : key = id
  · subst hkey
    rw [AList.lookup_insert, hinfo]
    simp
  · rw [AList.lookup_insert_ne hkey]
    simp [hkey]

/-- The event of an authorized client: it was not counted and now is. -/
theorem retain (h : Registry m lives) (hinfo : m.clients.lookup id = some info) (hlife : lives.lookup id = some life)
    (hmailbox : life.mailbox = .rawEvent true :: mailbox) :
    Registry { m with activeClientCount := RefCount.retain m.activeClientCount info.tqueueId }
      (lives.insert id (handled life mailbox (.rawEvent true))) := by
  have horderly := h.orderly id life hlife
  have hprocessed : life.processed = [] := horderly.next hmailbox
  have hbefore : id ∉ counted m lives info.tqueueId := fun hmem => by
    obtain ⟨_, life', -, hlife', -, hcounted⟩ := mem_counted.1 hmem
    rw [hlife] at hlife'
    cases hlife'
    unfold ClientLife.isCounted at hcounted
    rw [hprocessed] at hcounted
    cases hcounted
  have hafter : (handled life mailbox (.rawEvent true)).isCounted = true := by
    unfold ClientLife.isCounted handled
    rw [hprocessed]
    rfl
  have hnext : (handled life mailbox (.rawEvent true)).Orderly := horderly.handled hmailbox
  refine setLife h hlife (show (handled life mailbox (.rawEvent true)).token = life.token from rfl) rfl hnext
    ((h.counts.retain info.tqueueId).congr fun q => ?_)
  by_cases hq : q = info.tqueueId
  · subst hq
    rw [Function.update_self, ← Finset.card_insert_of_notMem hbefore]
    refine congrArg Finset.card (Finset.ext fun key => ?_)
    rw [mem_counted_handled hinfo, Finset.mem_insert]
    by_cases hkey : key = id
    · simp [hkey, hafter]
    · simp [hkey]
  · rw [Function.update_of_ne hq]
    refine congrArg Finset.card (Finset.ext fun key => ?_)
    rw [mem_counted_handled hinfo]
    by_cases hkey : key = id
    · subst hkey
      refine iff_of_false (by simp [Ne.symm hq]) fun hmem => ?_
      obtain ⟨info', _, hinfo', -, hqueue, -⟩ := mem_counted.1 hmem
      rw [hinfo] at hinfo'
      cases hinfo'
      exact hq hqueue.symm
    · simp [hkey]

/-- The event of a client that left: it was counted and no longer is. -/
theorem release (h : Registry m lives) (hinfo : m.clients.lookup id = some info) (hlife : lives.lookup id = some life)
    (hmailbox : life.mailbox = .rawEvent false :: mailbox) :
    0 < RefCount.count m.activeClientCount info.tqueueId ∧
      Registry { m with activeClientCount := RefCount.release m.activeClientCount info.tqueueId }
        (lives.insert id (handled life mailbox (.rawEvent false))) := by
  have horderly := h.orderly id life hlife
  have hprocessed : life.processed = [.rawEvent true] := horderly.next hmailbox
  have hbefore : id ∈ counted m lives info.tqueueId := by
    refine mem_counted.2 ⟨info, life, hinfo, hlife, rfl, ?_⟩
    unfold ClientLife.isCounted
    rw [hprocessed]
    rfl
  have hafter : (handled life mailbox (.rawEvent false)).isCounted = false := by
    unfold ClientLife.isCounted handled
    rw [hprocessed]
    rfl
  have hnext : (handled life mailbox (.rawEvent false)).Orderly := horderly.handled hmailbox
  refine ⟨?_, setLife h hlife (show (handled life mailbox (.rawEvent false)).token = life.token from rfl) rfl hnext
    ((h.counts.release info.tqueueId).congr fun q => ?_)⟩
  · rw [h.counts.count]
    exact Int.natCast_pos.2 (Finset.card_pos.2 ⟨id, hbefore⟩)
  by_cases hq : q = info.tqueueId
  · subst hq
    rw [Function.update_self, ← Finset.card_erase_of_mem hbefore]
    refine congrArg Finset.card (Finset.ext fun key => ?_)
    rw [mem_counted_handled hinfo, Finset.mem_erase]
    by_cases hkey : key = id
    · simp [hkey, hafter]
    · simp [hkey]
  · rw [Function.update_of_ne hq]
    refine congrArg Finset.card (Finset.ext fun key => ?_)
    rw [mem_counted_handled hinfo]
    by_cases hkey : key = id
    · subst hkey
      refine iff_of_false (by simp [Ne.symm hq]) fun hmem => ?_
      obtain ⟨info', _, hinfo', -, hqueue, -⟩ := mem_counted.1 hmem
      rw [hinfo] at hinfo'
      cases hinfo'
      exact hq hqueue.symm
    · simp [hkey]

/-- The client that hangs up was not counted. -/
theorem hangup (h : Registry m lives) (hinfo : m.clients.lookup id = some info) (hlife : lives.lookup id = some life)
    (hmailbox : life.mailbox = .hangupShared :: mailbox) :
    Registry { m with tokenToId := m.tokenToId.erase info.token, clients := m.clients.erase id } (lives.erase id) := by
  have hprocessed := (h.orderly id life hlife).next hmailbox
  have hbefore : life.isCounted = false := by
    unfold ClientLife.isCounted
    rcases hprocessed with hprocessed | hprocessed
    · rw [hprocessed]
      rfl
    · rw [hprocessed]
      rfl
  have herased : ∀ {key other}, (m.clients.erase id).lookup key = some other →
      key ≠ id ∧ m.clients.lookup key = some other := TableLookup.of_erase
  have hgone : ∀ {key other}, (lives.erase id).lookup key = some other →
      key ≠ id ∧ lives.lookup key = some other := TableLookup.of_erase
  refine ⟨fun token key => ?_, fun key other hother => h.numbered key other (herased hother).2, fun key => ?_,
    fun key other life' hother hlife' => h.named key other life' (herased hother).2 (hgone hlife').2,
    fun key other hother => h.queued key other (herased hother).2,
    fun key life' hlife' => h.orderly key life' (hgone hlife').2, ?_, h.sound⟩
  · by_cases htoken : token = info.token
    · subst htoken
      refine iff_of_false ?_ fun ⟨other, hother, hsame⟩ => ?_
      · change (m.tokenToId.erase info.token).lookup info.token ≠ _
        rw [AList.lookup_erase]
        exact (Option.some_ne_none _).symm
      · obtain ⟨hkey, hother⟩ := herased hother
        have hlookup := (h.inverse _ _).2 ⟨other, hother, hsame⟩
        rw [(h.inverse _ _).2 ⟨info, hinfo, rfl⟩] at hlookup
        exact hkey (Option.some_inj.1 hlookup).symm
    · have hother : (m.tokenToId.erase info.token).lookup token = m.tokenToId.lookup token :=
        AList.lookup_erase_ne htoken
      refine (iff_of_eq (congrArg (· = some key) hother)).trans ((h.inverse token key).trans ?_)
      refine ⟨fun ⟨other, hother, hsame⟩ => ⟨other, ?_, hsame⟩,
        fun ⟨other, hother, hsame⟩ => ⟨other, (herased hother).2, hsame⟩⟩
      have hkey : key ≠ id := fun hkey => by
        rw [hkey, hinfo] at hother
        cases hother
        exact htoken hsame.symm
      exact (AList.lookup_erase_ne hkey).trans hother
  · by_cases hkey : key = id
    · subst hkey
      rw [AList.lookup_erase, AList.lookup_erase]
      rfl
    · exact (congrArg Option.isSome (AList.lookup_erase_ne hkey)).trans
        ((h.alive key).trans (congrArg Option.isSome (AList.lookup_erase_ne hkey).symm))
  · refine h.counts.congr fun q => congrArg Finset.card (Finset.ext fun key => ?_)
    rw [mem_counted, mem_counted]
    refine ⟨fun ⟨other, life', hother, hlife', hrest⟩ => ⟨other, life', (herased hother).2, (hgone hlife').2, hrest⟩,
      fun ⟨other, life', hother, hlife', hqueue, hcounted⟩ => ⟨other, life', ?_, ?_, hqueue, hcounted⟩⟩
    all_goals
      have hkey : key ≠ id := fun hkey => by
        rw [hkey, hlife] at hlife'
        cases hlife'
        rw [hbefore] at hcounted
        cases hcounted
    · exact (AList.lookup_erase_ne hkey).trans hother
    · exact (AList.lookup_erase_ne hkey).trans hlife'

end Handled

/-- Without clients nothing is counted. -/
theorem idle (h : Registry m lives) (hempty : m.clients.keys = []) : m.activeClientCount.keys = [] := by
  have hnone : m.activeClientCount = ∅ := h.counts.eq_empty fun q => by
    unfold counted
    rw [hempty]
    rfl
  rw [hnone]
  rfl

end Registry

/-- The promises of `close`, and what happens before they are fulfilled. -/
structure Shutdown (s : ManagedClients) : Prop where
  promises : (s.fulfilled ++ s.closePromises).Perm (List.range s.promiseCount)
  waiting : s.closePromises ≠ [] → s.manager.closeFlag = true ∧ s.manager.stopped = false
  dbStarted : s.manager.closeDbStarted = true → s.manager.closeFlag = true ∧ s.manager.clients.keys = []
  databases : s.tqueueClosed = true ∨ s.webhookDbClosed = true → s.manager.closeDbStarted = true

structure Sound (s : ManagedClients) : Prop where
  registry : Registry s.manager s.lives
  shutdown : Shutdown s

theorem isRunning_manager (hrunning : s.isRunning = true) :
    s.manager.isRunning = true ∧ s.manager.stopped = false := by
  unfold isRunning at hrunning
  have hmanager : s.manager.isRunning = true := (Bool.and_eq_true_iff.1 hrunning).1
  have hstopped := hmanager
  unfold ClientManager.isRunning at hstopped
  simp only [Bool.not_eq_true', Bool.or_eq_false_iff] at hstopped
  exact ⟨hmanager, hstopped.1⟩

namespace Sound

variable {now : ℚ}

theorem onManager (h : Sound s) {e : ClientManager.Event}
    (hrequest : RequestOutcome { s.manager with out := [] } (s.manager.step S ⟨e, now⟩)) :
    Sound (s.onManager S e now) := by
  have hlives : (s.onManager S e now).lives = (creations (s.manager.step S ⟨e, now⟩).out).foldl addLife s.lives :=
    foldl_addLife _ _
  have hmanager : (s.onManager S e now).manager = s.manager.step S ⟨e, now⟩ := rfl
  generalize s.manager.step S ⟨e, now⟩ = m at hrequest hlives hmanager
  cases hrequest with
  | same hsame hout =>
      rw [hout] at hlives
      refine ⟨?_, h.shutdown.promises, ?_, ?_, ?_⟩
      · rw [hmanager, hlives]
        exact h.registry.congr ⟨hsame.clients, hsame.nextClientId, hsame.tokenToId, hsame.activeClientCount,
          hsame.crashed⟩
      · rw [hmanager, hsame.closeFlag, hsame.stopped]
        exact h.shutdown.waiting
      · rw [hmanager, hsame.closeDbStarted, hsame.closeFlag, hsame.clients]
        exact h.shutdown.dbStarted
      · rw [hmanager, hsame.closeDbStarted]
        exact h.shutdown.databases
  | created token isTestDc hsame hout hnew hqueue hclose =>
      have hopen : s.manager.closeFlag = false := hclose
      rw [hout] at hlives
      refine ⟨?_, h.shutdown.promises, ?_, ?_, ?_⟩
      · rw [hmanager, hlives]
        have hcreated := h.registry.create token isTestDc hnew hqueue
        exact hcreated.congr ⟨hsame.clients, hsame.nextClientId, hsame.tokenToId, hsame.activeClientCount,
          hsame.crashed⟩
      · rw [hmanager, hsame.closeFlag, hsame.stopped]
        exact h.shutdown.waiting
      · rw [hmanager, hsame.closeDbStarted]
        intro hstarted
        have hflag := (h.shutdown.dbStarted hstarted).1
        rw [hopen] at hflag
        cases hflag
      · rw [hmanager, hsame.closeDbStarted]
        exact h.shutdown.databases

theorem request (h : Sound s) {e : ClientManager.Event} (hrunning : s.isRunning = true)
    (he : IsRequest s.manager e) : Sound (s.onManager S e now) :=
  h.onManager (ClientManager.requested_step (isRunning_manager hrunning).1 he)

theorem deliver (h : Sound s) (hrunning : s.isRunning = true) {id : Nat} {life : ClientLife}
    (hlife : s.lives.lookup id = some life) : Sound (s.deliver S id life now) := by
  have hmanager := (isRunning_manager hrunning).1
  have hsome : (s.manager.clients.lookup id).isSome = true := by
    rw [h.registry.alive, hlife]
    rfl
  obtain ⟨info, hinfo⟩ := Option.isSome_iff_exists.1 hsome
  unfold ManagedClients.deliver
  cases hmailbox : life.mailbox with
  | nil => exact h
  | cons message mailbox =>
      cases message with
      | rawEvent isActive =>
          cases isActive with
          | true =>
              have hretained := h.registry.retain hinfo hlife hmailbox
              have hstep : s.manager.step S ⟨.rawEvent id true, now⟩ = _ :=
                (ClientManager.step_of_running hmanager).trans (ClientManager.rawEvent_true hinfo)
              unfold ManagedClients.onManager
              dsimp only
              rw [hstep]
              refine ⟨?_, h.shutdown.promises, h.shutdown.waiting, h.shutdown.dbStarted, h.shutdown.databases⟩
              exact hretained.congr ⟨rfl, rfl, rfl, rfl, rfl⟩
          | false =>
              obtain ⟨hpos, hreleased⟩ := h.registry.release hinfo hlife hmailbox
              have hstep : s.manager.step S ⟨.rawEvent id false, now⟩ = _ :=
                (ClientManager.step_of_running hmanager).trans (ClientManager.rawEvent_false hinfo hpos)
              unfold ManagedClients.onManager
              dsimp only
              rw [hstep]
              refine ⟨?_, h.shutdown.promises, h.shutdown.waiting, h.shutdown.dbStarted, h.shutdown.databases⟩
              exact hreleased.congr ⟨rfl, rfl, rfl, rfl, rfl⟩
      | hangupShared =>
          have hleft := h.registry.hangup hinfo hlife hmailbox
          have hidle : (s.manager.clients.erase id).keys = [] → s.manager.activeClientCount.keys = [] :=
            fun hempty => hleft.idle hempty
          have hstep : s.manager.step S ⟨.hangupShared id, now⟩ = _ :=
            (ClientManager.step_of_running hmanager).trans (ClientManager.hangupShared_eq hinfo hidle)
          unfold ManagedClients.onManager
          dsimp only
          rw [hstep]
          refine ⟨hleft.congr ⟨rfl, rfl, rfl, rfl, rfl⟩, h.shutdown.promises, h.shutdown.waiting,
            fun hstarted => ?_, fun hclosed => ?_⟩
          · rcases Bool.or_eq_true_iff.1 hstarted with hstarted | hlast
            · obtain ⟨hclose, hempty⟩ := h.shutdown.dbStarted hstarted
              have hmem : id ∈ s.manager.clients.keys := AList.mem_keys.1 (AList.lookup_isSome.1 hsome)
              rw [hempty] at hmem
              cases hmem
            · obtain ⟨hclose, hempty⟩ := Bool.and_eq_true_iff.1 hlast
              exact ⟨hclose, List.isEmpty_iff.1 hempty⟩
          · exact Bool.or_eq_true_iff.2 (Or.inl (h.shutdown.databases hclosed))

theorem close (h : Sound s) (hrunning : s.isRunning = true) : Sound (s.close S now) := by
  obtain ⟨hmanager, hstopped⟩ := isRunning_manager hrunning
  have hpromises : (s.fulfilled ++ (s.closePromises ++ [s.promiseCount])).Perm (List.range (s.promiseCount + 1)) := by
    rw [List.range_succ, ← List.append_assoc]
    exact h.shutdown.promises.append_right _
  have hstep : s.manager.step S ⟨.close, now⟩ = ClientManager.close { s.manager with out := [] } :=
    ClientManager.step_of_running hmanager
  have hlives : ∀ ids : List Nat, ([] ++ ids.map ManagerAction.closeClient).foldl addLife s.lives = s.lives :=
    fun ids => by
      rw [foldl_addLife, List.nil_append]
      induction ids with
      | nil => rfl
      | cons id ids ih => exact ih
  unfold ManagedClients.close ManagedClients.onManager
  dsimp only
  rw [hstep]
  unfold ClientManager.close ClientManager.closeDb
  dsimp only
  by_cases hclose : s.manager.closeFlag = true
  · rw [if_pos hclose]
    exact ⟨h.registry.congr ⟨rfl, rfl, rfl, rfl, rfl⟩, hpromises, fun _ => ⟨hclose, hstopped⟩,
      h.shutdown.dbStarted, h.shutdown.databases⟩
  · rw [if_neg hclose]
    by_cases hempty : s.manager.clients.keys = []
    · rw [if_pos hempty]
      refine ⟨?_, hpromises, fun _ => ⟨rfl, hstopped⟩, fun _ => ⟨rfl, hempty⟩, fun _ => rfl⟩
      dsimp only
      rw [hlives]
      exact h.registry.congr ⟨rfl, rfl, rfl, rfl, rfl⟩
    · rw [if_neg hempty]
      refine ⟨?_, hpromises, fun _ => ⟨rfl, hstopped⟩, fun hstarted => ?_, h.shutdown.databases⟩
      · dsimp only
        rw [hlives]
        exact h.registry.congr ⟨rfl, rfl, rfl, rfl, rfl⟩
      · exact absurd (h.shutdown.dbStarted hstarted).1 hclose

/-- The manager stops, and no promise waits. -/
theorem finish (h : Sound s) {e : ClientManager.Event}
    (hstep : s.manager.step S ⟨e, now⟩ = { s.manager with out := [], stopped := true }) :
    Sound (s.onManager S e now).fulfill := by
  have hpromises : ((s.fulfilled ++ s.closePromises) ++ []).Perm (List.range s.promiseCount) := by
    rw [List.append_nil]
    exact h.shutdown.promises
  unfold ManagedClients.onManager fulfill
  dsimp only
  rw [hstep]
  exact ⟨h.registry.congr ⟨rfl, rfl, rfl, rfl, rfl⟩, hpromises, fun hnone => absurd rfl hnone,
    h.shutdown.dbStarted, h.shutdown.databases⟩

theorem finishClose (h : Sound s) (hrunning : s.isRunning = true) : Sound (s.onManager S .finishClose now).fulfill :=
  h.finish (ClientManager.step_of_running (isRunning_manager hrunning).1)

theorem timeoutExpired (h : Sound s) (hrunning : s.isRunning = true) (hclose : s.manager.closeFlag = true) :
    Sound (s.onManager S .timeoutExpired now).fulfill := by
  refine h.finish ((ClientManager.step_of_running (isRunning_manager hrunning).1).trans ?_)
  exact if_pos hclose

theorem step (h : Sound s) (x : ManagedClientsInput) : Sound (s.step S x) := by
  unfold ManagedClients.step
  split
  · exact h
  rename_i hdone
  have hrunning : s.isRunning = true := not_not.1 hdone
  obtain ⟨event, now⟩ := x
  cases event with
  | send query => exact h.request hrunning trivial
  | sendFileStream r => exact h.request hrunning trivial
  | releaseFileStream streamId => exact h.request hrunning trivial
  | setWebhookDb key value => exact h.request hrunning trivial
  | setDiskEmergency value => exact h.request hrunning trivial
  | client id event =>
      dsimp only
      cases hlife : s.lives.lookup id with
      | none => exact h
      | some life =>
          exact ⟨h.registry.clientStep hlife event, h.shutdown.promises, h.shutdown.waiting, h.shutdown.dbStarted,
            h.shutdown.databases⟩
  | deliver id =>
      dsimp only
      cases hlife : s.lives.lookup id with
      | none => exact h
      | some life => exact h.deliver hrunning hlife
  | close => exact h.close hrunning
  | timeoutExpired =>
      dsimp only
      split
      · rename_i hopen
        exact h.request hrunning (eq_false_of_ne_true hopen)
      · rename_i hclose
        split
        · exact h.timeoutExpired hrunning (not_not.1 hclose)
        · exact h
  | tqueueClosed =>
      dsimp only
      split_ifs with hstarted
      · exact ⟨h.registry, h.shutdown.promises, h.shutdown.waiting, h.shutdown.dbStarted, fun _ => hstarted⟩
      · exact h
  | webhookDbClosed =>
      dsimp only
      split_ifs with hstarted
      · exact ⟨h.registry, h.shutdown.promises, h.shutdown.waiting, h.shutdown.dbStarted, fun _ => hstarted⟩
      · exact h
  | finishClose =>
      dsimp only
      split_ifs
      · exact h.finishClose hrunning
      · exact h

end Sound

theorem sound_initial : Sound {} where
  registry :=
    { inverse := fun key id => ⟨fun h => (by cases h), fun ⟨info, h, _⟩ => (by cases h)⟩
      numbered := fun id info h => (by cases h)
      alive := fun id => rfl
      named := fun id info life h => (by cases h)
      queued := fun id info h => (by cases h)
      orderly := fun id life h => (by cases h)
      counts := RefCount.counts_empty
      sound := rfl }
  shutdown :=
    { promises := List.Perm.refl _
      waiting := fun h => absurd rfl h
      dbStarted := fun h => (by cases h)
      databases := fun h => (by rcases h with h | h <;> cases h) }

theorem sound_run (xs : List ManagedClientsInput) : Sound (StepRun.run (step S) {} xs) :=
  StepRun.run_invariant_always (fun _ x h => h.step x) sound_initial xs

theorem fulfilled_deliver (s : ManagedClients) (id : Nat) (life : ClientLife) (now : ℚ) :
    (s.deliver S id life now).fulfilled = s.fulfilled := by
  unfold deliver
  cases life.mailbox with
  | nil => rfl
  | cons message mailbox =>
      cases message with
      | rawEvent isActive => rfl
      | hangupShared => rfl

/-- The last message of the manager fulfills the promises that wait. -/
theorem fulfilled_of_ends {x : ManagedClientsInput} (h : s.Ends x) :
    (s.step S x).fulfilled = s.fulfilled ++ s.closePromises ∧ (s.step S x).closePromises = [] := by
  obtain ⟨event, now⟩ := x
  obtain ⟨hrunning, hends⟩ := h
  unfold step
  rw [if_neg (not_not.2 hrunning)]
  rcases hends with ⟨hevent, hclose, hlate⟩ | ⟨hevent, hclosed⟩
  · cases hevent
    dsimp only
    rw [if_neg (not_not.2 hclose), if_pos hlate]
    exact ⟨rfl, rfl⟩
  · cases hevent
    dsimp only
    rw [if_pos hclosed]
    exact ⟨rfl, rfl⟩

theorem fulfilled_of_not_ends {x : ManagedClientsInput} (h : ¬ s.Ends x) : (s.step S x).fulfilled = s.fulfilled := by
  obtain ⟨event, now⟩ := x
  unfold step
  split
  · rfl
  rename_i hdone
  have hrunning : s.isRunning = true := not_not.1 hdone
  cases event with
  | client id event =>
      dsimp only
      cases s.lives.lookup id with
      | none => rfl
      | some life => rfl
  | deliver id =>
      dsimp only
      cases s.lives.lookup id with
      | none => rfl
      | some life => exact fulfilled_deliver s id life now
  | timeoutExpired =>
      dsimp only
      split
      · rfl
      · rename_i hclose
        split
        · rename_i hlate
          exact absurd ⟨hrunning, Or.inl ⟨rfl, not_not.1 hclose, hlate⟩⟩ h
        · rfl
  | finishClose =>
      dsimp only
      split
      · rename_i hclosed
        exact absurd ⟨hrunning, Or.inr ⟨rfl, hclosed⟩⟩ h
      · rfl
  | tqueueClosed =>
      dsimp only
      split_ifs
      · rfl
      · rfl
  | webhookDbClosed =>
      dsimp only
      split_ifs
      · rfl
      · rfl
  | _ => rfl

/-- In every state reached the tables of the manager name the same clients, at most one for a bot, the
counts are those of the active clients, and no `CHECK` of the manager has failed. Every promise of `close`
has been fulfilled once or waits; the promises that wait are fulfilled together by the first message that
ends the manager: its timer after the deadline, or that of both databases closed when no client is left. -/
theorem client_registry (S : ManagerSetup) (xs : List ManagedClientsInput) :
    let s := StepRun.run (step S) {} xs
    (∀ key id, s.manager.tokenToId.lookup key = some id ↔
      ∃ info, s.manager.clients.lookup id = some info ∧ info.token = key) ∧
    (∀ id, (s.manager.clients.lookup id).isSome = (s.lives.lookup id).isSome) ∧
    (∀ id id' life life', s.lives.lookup id = some life → s.lives.lookup id' = some life' →
      life.token = life'.token → life.isTestDc = life'.isTestDc → id = id') ∧
    RefCount.Counts s.manager.activeClientCount (fun q => (counted s.manager s.lives q).card) ∧
    s.manager.crashed = false ∧
    (∀ id info, s.manager.clients.lookup id = some info → info.tqueueId ≠ 0) ∧
    (s.fulfilled ++ s.closePromises).Perm (List.range s.promiseCount) ∧
    (s.closePromises ≠ [] → s.manager.closeFlag = true ∧ s.manager.isRunning = true) ∧
    (s.tqueueClosed = true ∨ s.webhookDbClosed = true → s.manager.closeFlag = true ∧ s.manager.clients.keys = []) ∧
    ∀ x, (s.Ends x → (s.step S x).fulfilled = s.fulfilled ++ s.closePromises ∧ (s.step S x).closePromises = []) ∧
      (¬ s.Ends x → (s.step S x).fulfilled = s.fulfilled) := by
  intro s
  have h : Sound s := sound_run xs
  refine ⟨h.registry.inverse, h.registry.alive, ?_, h.registry.counts, h.registry.sound, h.registry.queued,
    h.shutdown.promises, fun hwait => ?_, fun hclosed => h.shutdown.dbStarted (h.shutdown.databases hclosed),
    fun x => ⟨fulfilled_of_ends, fulfilled_of_not_ends⟩⟩
  · intro id id' life life' hlife hlife' htoken hdc
    have hname : ∀ id life, s.lives.lookup id = some life →
        s.manager.tokenToId.lookup (tokenKey life.token life.isTestDc) = some id := fun id life hlife => by
      have hsome : (s.manager.clients.lookup id).isSome = true := by
        rw [h.registry.alive, hlife]
        rfl
      obtain ⟨info, hinfo⟩ := Option.isSome_iff_exists.1 hsome
      exact (h.registry.inverse _ _).2 ⟨info, hinfo, h.registry.named id info life hinfo hlife⟩
    have hid := hname id life hlife
    rw [htoken, hdc, hname id' life' hlife'] at hid
    exact (Option.some_inj.1 hid).symm
  · obtain ⟨hclose, hstopped⟩ := h.shutdown.waiting hwait
    refine ⟨hclose, ?_⟩
    unfold ClientManager.isRunning
    rw [hstopped, h.registry.sound]
    rfl

end ManagedClients

end TelegramBotApi
