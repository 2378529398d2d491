import TelegramBotApi.ClientManagerStep
import TelegramBotApi.StepRun

/-!
# The stream quotas of the client manager

Three tables count the active streams: the set of their ids, the bot of each, and the number of
streams of each bot. Only an admitted stream and a release move them, and they move together. Streams
get their ids from one counter and ask for admission once, when they start, so an id that is being
admitted is not active.
-/

namespace TelegramBotApi

namespace ClientManager

open StepRun (run)

variable {S : ManagerSetup} {now : ℚ} {s t : ClientManager} {x : Input} {r : StreamRequest}

def held (s : ClientManager) (key : Slice) : Nat :=
  (s.activeFileStreamIds.filter fun id => s.activeFileStreamToken.lookup id = some key).card

structure Quota (S : ManagerSetup) (s : ClientManager) : Prop where
  keys : ∀ id, id ∈ s.activeFileStreamIds ↔ id ∈ s.activeFileStreamToken
  counts : RefCount.Counts s.activeFileStreamsByToken s.held
  total : (s.activeFileStreamIds.card : Int) ≤ S.fileStreamMaxConnections
  perBot : ∀ key, (s.held key : Int) ≤ S.perBotLimit

structure SameTables (s t : ClientManager) : Prop where
  ids : t.activeFileStreamIds = s.activeFileStreamIds
  byToken : t.activeFileStreamsByToken = s.activeFileStreamsByToken
  token : t.activeFileStreamToken = s.activeFileStreamToken

theorem SameTables.held (h : SameTables s t) : t.held = s.held := by
  funext key
  unfold ClientManager.held
  rw [h.ids, h.token]

theorem Quota.same (hs : Quota S s) (h : SameTables s t) : Quota S t := by
  refine ⟨fun id => ?_, ?_, ?_, fun key => ?_⟩
  · rw [h.ids, h.token]
    exact hs.keys id
  · rw [h.byToken, h.held]
    exact hs.counts
  · rw [h.ids]
    exact hs.total
  · rw [h.held]
    exact hs.perBot key

theorem check_eq_none {c : Prop} [Decidable c] {error : Status} {next : Option Status} :
    (if c then some error else next) = none ↔ ¬ c ∧ next = none := by
  by_cases hc : c
  · simp [hc]
  · simp [hc]

theorem streamError_eq_none (h : s.streamError S r = none) :
    s.activeFileStreamIds.card < (S.fileStreamMaxConnections % 2 ^ 64).toNat ∧
      RefCount.count s.activeFileStreamsByToken (tokenKey r.token r.isTestDc) < S.perBotLimit := by
  unfold streamError at h
  simp only [check_eq_none] at h
  obtain ⟨-, -, -, hfull, -, h⟩ := h
  cases huser : tokenUserId r.token with
  | none =>
      rw [huser] at h
      cases h
  | some userId =>
      rw [huser] at h
      simp only [check_eq_none] at h
      obtain ⟨-, -, -, hbot, -⟩ := h
      exact ⟨not_le.1 hfull, not_le.1 hbot⟩

theorem held_admitStream (hnew : r.streamId ∉ s.activeFileStreamIds) (id : Nat) :
    (s.admitStream r id).held = Function.update s.held (tokenKey r.token r.isTestDc)
      (s.held (tokenKey r.token r.isTestDc) + 1) := by
  funext key
  have hold : (s.activeFileStreamIds.filter fun i =>
      (s.activeFileStreamToken.insert r.streamId (tokenKey r.token r.isTestDc)).lookup i = some key) =
      s.activeFileStreamIds.filter fun i => s.activeFileStreamToken.lookup i = some key := by
    refine Finset.filter_congr fun i hi => ?_
    rw [AList.lookup_insert_ne]
    exact fun he => hnew (he ▸ hi)
  unfold ClientManager.held
  change ((insert r.streamId s.activeFileStreamIds).filter fun i => (s.activeFileStreamToken.insert
    r.streamId (tokenKey r.token r.isTestDc)).lookup i = some key).card = _
  rw [Finset.filter_insert, AList.lookup_insert, hold]
  by_cases hk : key = tokenKey r.token r.isTestDc
  · rw [if_pos (by rw [hk]), Finset.card_insert_of_notMem fun h => hnew (Finset.mem_filter.1 h).1, hk,
      Function.update_self]
  · rw [if_neg fun h => hk (Option.some.inj h).symm, Function.update_of_ne hk]

theorem Quota.admitStream (hs : Quota S s) (hnew : r.streamId ∉ s.activeFileStreamIds)
    (herror : s.streamError S r = none) (id : Nat) : Quota S (s.admitStream r id) := by
  obtain ⟨hfull, hbot⟩ := streamError_eq_none herror
  rw [hs.counts.count] at hbot
  refine ⟨fun i => ?_, ?_, ?_, fun key => ?_⟩
  · change i ∈ insert r.streamId s.activeFileStreamIds ↔ i ∈ s.activeFileStreamToken.insert _ _
    rw [Finset.mem_insert, AList.mem_insert, hs.keys i]
  · rw [held_admitStream hnew]
    exact hs.counts.retain _
  · change ((insert r.streamId s.activeFileStreamIds).card : Int) ≤ _
    have hpos := S.positive
    rw [Finset.card_insert_of_notMem hnew]
    omega
  · rw [held_admitStream hnew]
    by_cases hk : key = tokenKey r.token r.isTestDc
    · rw [hk, Function.update_self]
      omega
    · rw [Function.update_of_ne hk]
      exact hs.perBot key

theorem releaseFileStream_of_key {id : Int} {key : Slice}
    (hkey : s.activeFileStreamToken.lookup id = some key) : s.releaseFileStream id =
      { s with
        activeFileStreamIds := s.activeFileStreamIds.erase id
        activeFileStreamsByToken := RefCount.release s.activeFileStreamsByToken key
        activeFileStreamToken := s.activeFileStreamToken.erase id } := by
  unfold releaseFileStream
  simp only [hkey]

theorem releaseFileStream_ids (s : ClientManager) (id : Int) :
    (s.releaseFileStream id).activeFileStreamIds = s.activeFileStreamIds.erase id := by
  unfold releaseFileStream
  simp only
  split
  · rfl
  · rfl

theorem held_release {id : Int} {key : Slice} (hid : id ∈ s.activeFileStreamIds)
    (hkey : s.activeFileStreamToken.lookup id = some key) :
    (s.releaseFileStream id).held = Function.update s.held key (s.held key - 1) := by
  funext k
  let mine := s.activeFileStreamIds.filter fun i => s.activeFileStreamToken.lookup i = some k
  have hrest : ((s.activeFileStreamIds.erase id).filter fun i =>
      (s.activeFileStreamToken.erase id).lookup i = some k) = mine.erase id := by
    ext i
    simp only [mine, Finset.mem_filter, Finset.mem_erase]
    by_cases hi : i = id
    · simp [hi]
    · rw [AList.lookup_erase_ne hi, and_assoc]
  have hheld : (s.releaseFileStream id).held k = (mine.erase id).card := by
    rw [← hrest, releaseFileStream_of_key hkey]
    rfl
  rw [hheld]
  by_cases hk : k = key
  · subst hk
    rw [Function.update_self, Finset.card_erase_of_mem (Finset.mem_filter.2 ⟨hid, hkey⟩)]
    rfl
  · rw [Function.update_of_ne hk, Finset.erase_eq_of_notMem]
    · rfl
    · intro hmem
      rw [(Finset.mem_filter.1 hmem).2] at hkey
      exact hk (Option.some.inj hkey)

/-- Releasing a stream that is not active changes nothing. -/
theorem releaseFileStream_of_inactive (hs : Quota S s) {id : Int}
    (hid : id ∉ s.activeFileStreamIds) : s.releaseFileStream id = s := by
  have hnone : s.activeFileStreamToken.lookup id = none :=
    AList.lookup_eq_none.2 fun h => hid ((hs.keys id).2 h)
  unfold releaseFileStream
  simp only [hnone, Finset.erase_eq_of_notMem hid]

theorem Quota.release (hs : Quota S s) (id : Int) : Quota S (s.releaseFileStream id) := by
  by_cases hid : id ∈ s.activeFileStreamIds
  · obtain ⟨key, hkey⟩ := Option.isSome_iff_exists.1 (AList.lookup_isSome.2 ((hs.keys id).1 hid))
    have hheld := held_release hid hkey
    refine ⟨fun i => ?_, ?_, ?_, fun k => ?_⟩
    · rw [releaseFileStream_of_key hkey, Finset.mem_erase, AList.mem_erase, hs.keys i]
    · rw [hheld, releaseFileStream_of_key hkey]
      exact hs.counts.release key
    · rw [releaseFileStream_ids]
      have hle := Finset.card_le_card (Finset.erase_subset id s.activeFileStreamIds)
      have htotal := hs.total
      omega
    · rw [hheld]
      have hbound := hs.perBot k
      by_cases hk : k = key
      · rw [hk] at hbound ⊢
        rw [Function.update_self]
        omega
      · rw [Function.update_of_ne hk]
        exact hbound
  · rw [releaseFileStream_of_inactive hs hid]
    exact hs

def Event.asks : Event → Option StreamRequest
  | .sendFileStream r => some r
  | _ => none

def Event.releases : Event → Option Int
  | .releaseFileStream id => some id
  | _ => none

theorem send_same (query : BotQuery) : SameTables s (s.send S now query) := by
  have h := send_outcome S now s query
  revert h
  generalize s.send S now query = t
  intro h
  cases h with
  | ignored => exact ⟨rfl, rfl, rfl⟩
  | answered controls control a ha => exact ⟨rfl, rfl, rfl⟩
  | found id hid => exact ⟨rfl, rfl, rfl⟩
  | created controls control hid =>
      unfold restoreWebhook
      simp only
      split_ifs
      · exact ⟨rfl, rfl, rfl⟩
      · exact ⟨rfl, rfl, rfl⟩

/-- Events other than admissions and releases leave the tables alone. -/
theorem handle_same {e : Event} (hask : e.asks = none) (hrelease : e.releases = none) :
    SameTables s (s.handle S now e) := by
  cases e with
  | send query => exact send_same query
  | sendFileStream r => cases hask
  | releaseFileStream id => cases hrelease
  | hangupShared id =>
      dsimp only [handle]
      unfold hangupShared
      split
      · exact ⟨rfl, rfl, rfl⟩
      · simp only
        split_ifs
        · exact ⟨rfl, rfl, rfl⟩
        · exact ⟨rfl, rfl, rfl⟩
  | rawEvent id isActive =>
      dsimp only [handle]
      unfold rawEvent
      split
      · exact ⟨rfl, rfl, rfl⟩
      · split_ifs
        · exact ⟨rfl, rfl, rfl⟩
        · exact ⟨rfl, rfl, rfl⟩
  | close =>
      dsimp only [handle]
      unfold close
      simp only
      split_ifs
      · exact ⟨rfl, rfl, rfl⟩
      · exact ⟨rfl, rfl, rfl⟩
      · exact ⟨rfl, rfl, rfl⟩
  | timeoutExpired =>
      dsimp only [handle]
      unfold timeoutExpired
      split_ifs
      · exact ⟨rfl, rfl, rfl⟩
      · exact ⟨rfl, rfl, rfl⟩
      · exact ⟨rfl, rfl, rfl⟩
  | finishClose => exact ⟨rfl, rfl, rfl⟩
  | setWebhookDb key value => exact ⟨rfl, rfl, rfl⟩
  | setDiskEmergency value => exact ⟨rfl, rfl, rfl⟩

/-- An accepted request enters the tables of a manager that otherwise has those of `s`. -/
inductive Admission (S : ManagerSetup) (s : ClientManager) (r : StreamRequest) :
    ClientManager → Prop
  | rejected {t : ClientManager} (h : SameTables s t) : Admission S s r t
  | admitted {t : ClientManager} (id : Nat) (h : SameTables s t)
      (herror : t.streamError S r = none)
      (hout : ∀ error, ManagerAction.onFileError r.streamId error ∉ t.out) :
      Admission S s r (t.admitStream r id)

theorem sendFileStream_admission (now : ℚ) (hout : s.out = []) (r : StreamRequest) :
    Admission S s r (s.sendFileStream S now r) := by
  have h := sendFileStream_outcome S now s r
  revert h
  generalize s.sendFileStream S now r = t
  intro h
  cases h with
  | refused error h => exact .rejected ⟨rfl, rfl, rfl⟩
  | found id h hid => exact .admitted id ⟨rfl, rfl, rfl⟩ h (by simp [hout])
  | flooded controls control hflood => exact .rejected ⟨rfl, rfl, rfl⟩
  | created controls control h hid hflood =>
      refine .admitted _ ⟨rfl, rfl, rfl⟩ h fun error => ?_
      simp [createClient, withFlood, hout]

/-- A request that is answered with an error leaves the tables alone. -/
theorem step_rejected_same (now : ℚ) {error : Status}
    (h : ManagerAction.onFileError r.streamId error ∈ (s.step S ⟨.sendFileStream r, now⟩).out) :
    SameTables s (s.step S ⟨.sendFileStream r, now⟩) := by
  cases hrun : s.isRunning with
  | false =>
      rw [step_of_not_running hrun]
      exact ⟨rfl, rfl, rfl⟩
  | true =>
      rw [step_of_running hrun] at h ⊢
      have ha := sendFileStream_admission (S := S) (s := { s with out := [] }) now rfl r
      dsimp only [handle] at h ⊢
      revert h ha
      generalize ClientManager.sendFileStream S now { s with out := [] } r = t
      intro h ha
      cases ha with
      | rejected h => exact ⟨h.ids, h.byToken, h.token⟩
      | admitted id hsame herror hno =>
          have hno := hno error
          simp [admitStream, hno] at h

section Runs

def askedIds (inputs : List Input) : List Int :=
  inputs.filterMap fun x => x.event.asks.map StreamRequest.streamId

theorem askedIds_concat (inputs : List Input) (x : Input) :
    askedIds (inputs ++ [x]) = askedIds inputs ++ (x.event.asks.map StreamRequest.streamId).toList := by
  unfold askedIds
  rw [List.filterMap_append]
  cases he : x.event.asks with
  | none => simp [he]
  | some r => simp [he]

/-- Only the stream that asks becomes active, and only a release ends it. -/
theorem mem_step_ids {id : Int} (h : id ∈ (s.step S x).activeFileStreamIds) :
    (id ∈ s.activeFileStreamIds ∧ (s.isRunning = true → x.event.releases ≠ some id)) ∨
      ∃ r, x.event = .sendFileStream r ∧ r.streamId = id := by
  cases hrun : s.isRunning with
  | false =>
      rw [step_of_not_running hrun] at h
      exact Or.inl ⟨h, fun h => by cases h⟩
  | true =>
      rw [step_of_running hrun] at h
      cases hask : x.event.asks with
      | some r =>
          have he : x.event = .sendFileStream r := by
            cases hev : x.event <;> rw [hev] at hask <;> cases hask
            rfl
          have ha := sendFileStream_admission (S := S) (s := { s with out := [] }) x.now rfl r
          rw [he] at h ⊢
          dsimp only [handle] at h
          revert h ha
          generalize ClientManager.sendFileStream S x.now { s with out := [] } r = t
          intro h ha
          cases ha with
          | rejected hsame => exact Or.inl ⟨hsame.ids ▸ h, fun _ h => by cases h⟩
          | @admitted u i hsame herror hno =>
              rcases Finset.mem_insert.1 h with rfl | h
              · exact Or.inr ⟨r, rfl, rfl⟩
              · exact Or.inl ⟨hsame.ids ▸ h, fun _ h => by cases h⟩
      | none =>
          left
          cases hrel : x.event.releases with
          | none =>
              refine ⟨?_, fun _ h => by cases h⟩
              exact (handle_same (S := S) (s := { s with out := [] }) hask hrel).ids ▸ h
          | some i =>
              have he : x.event = .releaseFileStream i := by
                cases hev : x.event <;> rw [hev] at hrel <;> cases hrel
                rfl
              rw [he] at h
              dsimp only [handle] at h
              rw [releaseFileStream_ids] at h
              obtain ⟨hne, h⟩ := Finset.mem_erase.1 h
              exact ⟨h, fun _ he => hne (Option.some.inj he).symm⟩

theorem quota_step (hs : Quota S s) (hnew : ∀ r, x.event = .sendFileStream r →
    r.streamId ∉ s.activeFileStreamIds) : Quota S (s.step S x) := by
  cases hrun : s.isRunning with
  | false =>
      rw [step_of_not_running hrun]
      exact hs.same ⟨rfl, rfl, rfl⟩
  | true =>
      rw [step_of_running hrun]
      have hs₀ : Quota S { s with out := [] } := hs.same ⟨rfl, rfl, rfl⟩
      cases he : x.event with
      | sendFileStream r =>
          have ha := sendFileStream_admission (S := S) (s := { s with out := [] }) x.now rfl r
          dsimp only [handle]
          revert ha
          generalize ClientManager.sendFileStream S x.now { s with out := [] } r = t
          intro ha
          cases ha with
          | rejected hsame => exact hs₀.same hsame
          | admitted id hsame herror hno =>
              refine (hs₀.same hsame).admitStream ?_ herror id
              rw [hsame.ids]
              exact hnew r he
      | releaseFileStream id => exact hs₀.release id
      | send query => exact hs₀.same (handle_same rfl rfl)
      | hangupShared id => exact hs₀.same (handle_same rfl rfl)
      | rawEvent id isActive => exact hs₀.same (handle_same rfl rfl)
      | close => exact hs₀.same (handle_same rfl rfl)
      | timeoutExpired => exact hs₀.same (handle_same rfl rfl)
      | finishClose => exact hs₀.same (handle_same rfl rfl)
      | setWebhookDb key value => exact hs₀.same (handle_same rfl rfl)
      | setDiskEmergency value => exact hs₀.same (handle_same rfl rfl)

theorem quota_init (S : ManagerSetup) : Quota S ({} : ClientManager) where
  keys id := by simp
  counts := RefCount.counts_empty
  total := S.positive.le
  perBot key := by
    change (0 : Int) ≤ max 1 _
    exact le_trans Int.one_nonneg (le_max_left _ _)

/-- An active stream has asked for admission. -/
theorem active_subset_asked (S : ManagerSetup) (inputs : List Input) {id : Int}
    (h : id ∈ (run (step S) ({} : ClientManager) inputs).activeFileStreamIds) :
    id ∈ askedIds inputs := by
  induction inputs using List.reverseRecOn with
  | nil => simp at h
  | append_singleton inputs x ih =>
      rw [StepRun.run_concat] at h
      rw [askedIds_concat]
      rcases mem_step_ids h with ⟨h, -⟩ | ⟨r, he, rfl⟩
      · exact List.mem_append_left _ (ih h)
      · exact List.mem_append_right _ (by simp [he, Event.asks])

theorem quota_run (S : ManagerSetup) {inputs : List Input} (h : (askedIds inputs).Nodup) :
    Quota S (run (step S) ({} : ClientManager) inputs) := by
  induction inputs using List.reverseRecOn with
  | nil => exact quota_init S
  | append_singleton inputs x ih =>
      rw [askedIds_concat] at h
      rw [StepRun.run_concat]
      refine quota_step (ih h.of_append_left) fun r he hmem => ?_
      refine List.disjoint_of_nodup_append h (active_subset_asked S inputs hmem) ?_
      simp [he, Event.asks]

theorem running_of_step (h : (s.step S x).isRunning = true) : s.isRunning = true := by
  cases hrun : s.isRunning with
  | true => rfl
  | false =>
      rw [step_of_not_running hrun] at h
      exact hrun.symm.trans h

/-- An active stream was admitted and has not been released since. -/
theorem active_unreleased (S : ManagerSetup) {inputs : List Input} {id : Int}
    (hrun : (run (step S) ({} : ClientManager) inputs).isRunning = true)
    (h : id ∈ (run (step S) ({} : ClientManager) inputs).activeFileStreamIds) :
    ∃ before r now after, inputs = before ++ ⟨.sendFileStream r, now⟩ :: after ∧ r.streamId = id ∧
      id ∈ (run (step S) ({} : ClientManager) (before ++ [⟨.sendFileStream r, now⟩])).activeFileStreamIds ∧
      ∀ x ∈ after, x.event ≠ .releaseFileStream id := by
  induction inputs using List.reverseRecOn with
  | nil => simp at h
  | append_singleton inputs x ih =>
      have hactive := h
      rw [StepRun.run_concat] at h hrun
      have hbefore := running_of_step hrun
      rcases mem_step_ids h with ⟨h, hkeep⟩ | ⟨r, he, hr⟩
      · obtain ⟨before, r, now, after, rfl, hr, hadmitted, hafter⟩ := ih hbefore h
        refine ⟨before, r, now, after ++ [x], by simp, hr, hadmitted, fun y hy => ?_⟩
        rcases List.mem_append.1 hy with hy | hy
        · exact hafter y hy
        · rw [List.mem_singleton.1 hy]
          intro he
          exact hkeep hbefore (by rw [he]; rfl)
      · refine ⟨inputs, r, x.now, [], ?_, hr, ?_, by simp⟩
        · rw [← he]
        · rwa [← he]

end Runs

end ClientManager

open ClientManager in
/-- The stream quotas hold after every sequence of messages in which every stream asks for admission
at most once: the tables agree and respect both limits, a rejected request changes none of them, and
they are empty once every admitted stream was released. -/
theorem stream_quota_accounting (S : ManagerSetup) (inputs : List ClientManager.Input)
    (h : (askedIds inputs).Nodup) :
    let s := StepRun.run (ClientManager.step S) ({} : ClientManager) inputs
    (∀ id, id ∈ s.activeFileStreamIds ↔ id ∈ s.activeFileStreamToken) ∧
    (∀ key, s.activeFileStreamsByToken.lookup key =
      if s.held key = 0 then none else some (s.held key : Int)) ∧
    (s.activeFileStreamIds.card : Int) ≤ S.fileStreamMaxConnections ∧
    (∀ key, (s.held key : Int) ≤ max 1 (S.fileStreamMaxConnections / 4)) ∧
    (∀ r now error, ManagerAction.onFileError r.streamId error ∈
        (s.step S ⟨.sendFileStream r, now⟩).out →
      SameTables s (s.step S ⟨.sendFileStream r, now⟩)) ∧
    (s.isRunning = true → (∀ before r now after,
        inputs = before ++ ⟨.sendFileStream r, now⟩ :: after →
        r.streamId ∈ (StepRun.run (ClientManager.step S) ({} : ClientManager)
          (before ++ [⟨.sendFileStream r, now⟩])).activeFileStreamIds →
        ∃ x ∈ after, x.event = .releaseFileStream r.streamId) →
      s.activeFileStreamIds = ∅ ∧ s.activeFileStreamsByToken = ∅ ∧ s.activeFileStreamToken = ∅) := by
  intro s
  have hq : Quota S s := quota_run S h
  refine ⟨hq.keys, hq.counts, hq.total, fun key => ?_, fun r now error he => step_rejected_same now he,
    fun hrun hreleased => ?_⟩
  · have hdiv : S.perBotLimit = max 1 (S.fileStreamMaxConnections / 4) := by
      unfold ManagerSetup.perBotLimit
      rw [Int.tdiv_eq_ediv_of_nonneg S.positive.le]
    exact hdiv ▸ hq.perBot key
  · have hnone : s.activeFileStreamIds = ∅ := by
      refine Finset.eq_empty_of_forall_notMem fun id hid => ?_
      obtain ⟨before, r, now, after, he, rfl, hadmitted, hafter⟩ := active_unreleased S hrun hid
      obtain ⟨x, hx, hrel⟩ := hreleased before r now after he hadmitted
      exact hafter x hx hrel
    have hheld : ∀ key, s.held key = 0 := fun key => by
      unfold ClientManager.held
      rw [hnone, Finset.filter_empty, Finset.card_empty]
    refine ⟨hnone, hq.counts.eq_empty hheld, ?_⟩
    apply AList.ext
    rw [AList.empty_entries]
    by_contra hne
    obtain ⟨e, he⟩ := List.exists_mem_of_ne_nil _ hne
    have hmem : e.1 ∈ s.activeFileStreamToken := List.mem_map_of_mem he
    rw [← hq.keys, hnone] at hmem
    exact Finset.notMem_empty _ hmem

/-- Two streams of one bot; a third is refused by the limit of the bot. -/
theorem stream_quota_two_of_one_bot :
    let S : ManagerSetup :=
      { fileStreamingEnabled := true, fileStreamMaxConnections := 8, positive := by decide }
    let token := "7:AAAAAAAAAAAAAAAAAAAAAAAA".toList
    let ask (id : Int) : ClientManager.Input :=
      ⟨.sendFileStream { streamId := id, token := token, fileId := ['x'] }, 0⟩
    let s := StepRun.run (ClientManager.step S) {} [ask 1, ask 2, ask 3]
    s.activeFileStreamIds = {1, 2} ∧ s.held token = 2 ∧
      s.activeFileStreamsByToken.lookup token = some 2 := by
  intro S token ask s
  have hheld : s.held token = 2 := by decide +kernel
  have hcount := (stream_quota_accounting S [ask 1, ask 2, ask 3] (by decide +kernel)).2.1 token
  refine ⟨by decide +kernel, hheld, ?_⟩
  change s.activeFileStreamsByToken.lookup token = if s.held token = 0 then none else _ at hcount
  rw [hcount, hheld]
  rfl

end TelegramBotApi
