import TelegramBotApi.LoginUrlNames
import TelegramBotApi.TableSum

/-!
# Queries that wait for bot names

`Waiting` relates the waiting queries to the names that they wait for. It takes the lists of waiting queries as a
function, since the client removes a list before it serves it, and since a query joins the lists one by one.
-/

namespace TelegramBotApi

namespace LoginUrlClient

open BotUserIds (signed)

/-- The button has its bot, up to the sign. -/
def Carries (myId : Int) (lookups : List (Slice × Int)) (button : LoginButton) : Prop :=
  if button.botUsername = [] then button.id = signed button.requestWriteAccess myId
  else ∃ userId, Found lookups button.botUsername userId ∧ button.id = signed button.requestWriteAccess userId

/-- A button of a query that waits for `awaited`: it has its bot, or a temporary number that can be replaced as
soon as the query does not wait for its name. -/
def ButtonWaits (s : LoginUrlClient) (myId : Int) (awaited : List Slice) (button : LoginButton) : Prop :=
  button.id % 1000 ≠ 0 ∧ Carries myId s.lookups button ∨
    button.botUsername ≠ [] ∧ ∃ number, button.id = signed button.requestWriteAccess number ∧
      Temporary s.ids.tempNames button.botUsername number ∧
      (button.botUsername ∈ awaited ∨ ∃ userId, s.tempToRealBotUserId.lookup number = some userId)

def places (s : LoginUrlClient) : List Nat :=
  s.checking.keys ++ (s.pendingBotResolveQueries.entries.map fun e => e.2.query) ++
    (s.continued.map (·.1) ++ s.failed.map (·.1))

/-- The waiting queries and the names that they wait for; the lookup of `current` is being dealt with. -/
structure Waiting (myId : Int) (s : LoginUrlClient) (await : Slice → List Int) (current : Option Slice) : Prop where
  numbered : Numbered s.ids s.lookups
  default : s.ids.defaultBotUserId = myId
  unknown : ∀ username, await username ≠ [] → current ≠ some username →
    ∃ number, Unknown s.ids s.lookups username number
  real : ∀ number userId, s.tempToRealBotUserId.lookup number = some userId →
    ∃ username, Temporary s.ids.tempNames username number ∧ Found s.lookups username userId
  counted : ∀ k p, s.pendingBotResolveQueries.lookup k = some p →
    p.pendingResolveCount = p.awaited.length ∧ p.awaited ≠ [] ∧ p.awaited.Nodup ∧ k < s.currentBotResolveQueryId
  awaits : ∀ k p, s.pendingBotResolveQueries.lookup k = some p →
    ∀ username, username ∈ p.awaited ↔ k ∈ await username
  joined : ∀ username, (await username).Nodup ∧ ∀ k ∈ await username, k < s.currentBotResolveQueryId
  buttons : ∀ k p, s.pendingBotResolveQueries.lookup k = some p → ∀ button ∈ p.buttons,
    ButtonWaits s myId p.awaited button
  listed : ∀ k p, s.pendingBotResolveQueries.lookup k = some p → ∀ button ∈ p.buttons,
    button.botUsername ∈ p.awaited → current ≠ some button.botUsername →
    ∃ number, button.id = signed button.requestWriteAccess number ∧
      s.ids.botUserIds.lookup button.botUsername = some number
  named : ∀ k p, s.pendingBotResolveQueries.lookup k = some p → ∀ username ∈ p.awaited,
    ∃ button ∈ p.buttons, button.botUsername = username
  carried : ∀ e ∈ s.continued, ∀ button ∈ e.2, Carries myId s.lookups button
  failures : ∀ e ∈ s.failed, ∀ username, e.2.1 = .notFound username →
    (username, 0) ∈ s.lookups ∧ ∃ button ∈ e.2.2, button.botUsername = username
  sound : s.crashed = false

variable {myId : Int} {s t : LoginUrlClient} {await : Slice → List Int} {username : Slice} {userId k : Int}

theorem signed_multiple (requestWriteAccess : Bool) (number : Int) :
    signed requestWriteAccess number % 1000 = 0 ↔ number % 1000 = 0 := by
  unfold signed
  split_ifs
  · exact Iff.rfl
  · omega

/-- A button that waits for nothing gets its bot. -/
theorem fixBotUserId_spec (hreal : ∀ number userId, s.tempToRealBotUserId.lookup number = some userId →
      ∃ username, Temporary s.ids.tempNames username number ∧ Found s.lookups username userId)
    {button : LoginButton} (h : ButtonWaits s myId [] button) :
    ∃ button', s.fixBotUserId button = some button' ∧ Carries myId s.lookups button' := by
  rcases h with ⟨hid, hcarries⟩ | ⟨hne, number, hid, htemp, hmem | ⟨userId, huser⟩⟩
  · exact ⟨button, if_pos hid, hcarries⟩
  · exact absurd hmem List.not_mem_nil
  · obtain ⟨owner, howner, hfound⟩ := hreal number userId huser
    have hsame : owner = button.botUsername := howner.unique htemp
    have hpos := htemp.pos
    have habs : (button.id.natAbs : Int) = number := by
      rw [hid]
      unfold signed
      split_ifs <;> omega
    have hsign : (if button.id < 0 then -userId else userId) = signed button.requestWriteAccess userId := by
      rw [hid]
      unfold signed
      cases button.requestWriteAccess with
      | true => exact if_neg (by rw [if_pos rfl]; omega)
      | false => exact if_pos (by rw [if_neg Bool.false_ne_true]; omega)
    have hmultiple : button.id % 1000 = 0 := by
      rw [hid, signed_multiple]
      exact htemp.multiple
    refine ⟨{ button with id := signed button.requestWriteAccess userId }, ?_, ?_⟩
    · unfold fixBotUserId
      rw [if_neg (not_not_intro hmultiple), habs, huser]
      dsimp only
      rw [if_neg hfound.2, hsign]
    · unfold Carries
      rw [if_neg hne]
      exact ⟨userId, hsame ▸ hfound, rfl⟩

theorem onSuccess_spec (hreal : ∀ number userId, s.tempToRealBotUserId.lookup number = some userId →
      ∃ username, Temporary s.ids.tempNames username number ∧ Found s.lookups username userId)
    (query : Nat) {buttons : List LoginButton} (h : ∀ button ∈ buttons, ButtonWaits s myId [] button) :
    ∃ fixed, s.onSuccess query buttons = { s with continued := s.continued ++ [(query, fixed)] } ∧
      ∀ button ∈ fixed, Carries myId s.lookups button := by
  have hall : ∃ fixed, buttons.mapM s.fixBotUserId = some fixed ∧ ∀ button ∈ fixed, Carries myId s.lookups button := by
    induction buttons with
    | nil => exact ⟨[], rfl, fun _ hmem => absurd hmem List.not_mem_nil⟩
    | cons button buttons ih =>
        obtain ⟨fixed, hfixed, hcarries⟩ := ih fun b hb => h b (List.mem_cons_of_mem _ hb)
        obtain ⟨button', hbutton, hcarry⟩ := fixBotUserId_spec hreal (h button List.mem_cons_self)
        refine ⟨button' :: fixed, ?_, List.forall_mem_cons.2 ⟨hcarry, hcarries⟩⟩
        rw [List.mapM_cons, hbutton, hfixed]
        rfl
  obtain ⟨fixed, hfixed, hcarries⟩ := hall
  refine ⟨fixed, ?_, hcarries⟩
  unfold onSuccess
  rw [hfixed]

theorem Carries.mono {lookups lookups' : List (Slice × Int)} {button : LoginButton}
    (h : Carries myId lookups button) (hsub : lookups ⊆ lookups') : Carries myId lookups' button := by
  unfold Carries at h ⊢
  split_ifs at h ⊢
  · exact h
  · obtain ⟨userId, hfound, hid⟩ := h
    exact ⟨userId, ⟨hsub hfound.1, hfound.2⟩, hid⟩

theorem ButtonWaits.mono {awaited awaited' : List Slice} {button : LoginButton}
    (h : ButtonWaits s myId awaited button)
    (hsub : button.botUsername ∈ awaited → button.botUsername ∈ awaited') : ButtonWaits s myId awaited' button := by
  rcases h with hcarries | ⟨hne, number, hid, htemp, hmem | huser⟩
  · exact Or.inl hcarries
  · exact Or.inr ⟨hne, number, hid, htemp, Or.inl (hsub hmem)⟩
  · exact Or.inr ⟨hne, number, hid, htemp, Or.inr huser⟩

/-- The first query of the list of a name is dealt with. -/
theorem Waiting.advance (h : Waiting myId s await (some username)) {rest : List Int}
    (hk : await username = k :: rest) (pending : AList fun _ : Int => PendingBotResolveQuery)
    (continued : List (Nat × List LoginButton)) (failed : List (Nat × LoginFailure × List LoginButton))
    (hpending : ∀ j p, pending.lookup j = some p → j ≠ k ∧ s.pendingBotResolveQueries.lookup j = some p ∨
      j = k ∧ ∃ p', s.pendingBotResolveQueries.lookup k = some p' ∧ p.buttons = p'.buttons ∧
        p.pendingResolveCount = p'.pendingResolveCount - 1 ∧ p.awaited = p'.awaited.erase username ∧
        p.awaited ≠ [] ∧ ∀ button ∈ p'.buttons, ButtonWaits s myId (p'.awaited.erase username) button)
    (hcontinued : ∀ e ∈ continued, ∀ button ∈ e.2, Carries myId s.lookups button)
    (hfailed : ∀ e ∈ failed, ∀ n, e.2.1 = .notFound n → (n, 0) ∈ s.lookups ∧ ∃ button ∈ e.2.2, button.botUsername = n) :
    Waiting myId { s with pendingBotResolveQueries := pending, continued := continued, failed := failed }
      (Function.update await username rest) (some username) := by
  have hnodup := (h.joined username).1
  rw [hk] at hnodup
  obtain ⟨hnot, hrest⟩ := List.nodup_cons.1 hnodup
  have hother : ∀ n, n ≠ username → Function.update await username rest n = await n := fun n hn =>
    Function.update_of_ne hn _ _
  refine ⟨h.numbered, h.default, fun n hn hcurrent => ?_, h.real, fun j p hp => ?_, fun j p hp n => ?_, fun n => ?_,
    fun j p hp => ?_, fun j p hp button hbutton hmem hcurrent => ?_, fun j p hp n hn => ?_, hcontinued, hfailed,
    h.sound⟩
  · have hne : n ≠ username := fun heq => hcurrent (congrArg some heq.symm)
    rw [hother n hne] at hn
    exact h.unknown n hn hcurrent
  · rcases hpending j p hp with ⟨-, hold⟩ | ⟨rfl, p', hold, hbuttons, hcount, hawaited, hne, -⟩
    · exact h.counted j p hold
    · obtain ⟨hlength, -, hnodup', hlt⟩ := h.counted j p' hold
      have hmem : username ∈ p'.awaited := (h.awaits j p' hold username).2 (by rw [hk]; exact List.mem_cons_self)
      refine ⟨?_, hne, ?_, hlt⟩
      · rw [hcount, hawaited, hlength, List.length_erase_of_mem hmem]
      · rw [hawaited]
        exact hnodup'.erase _
  · rcases hpending j p hp with ⟨hj, hold⟩ | ⟨rfl, p', hold, hbuttons, hcount, hawaited, hne, -⟩
    · rw [h.awaits j p hold n]
      by_cases hn : n = username
      · rw [hn, hk, Function.update_self, List.mem_cons, or_iff_right hj]
      · rw [hother n hn]
    · have hnodup' := (h.counted j p' hold).2.2.1
      rw [hawaited, hnodup'.mem_erase_iff, h.awaits j p' hold n]
      by_cases hn : n = username
      · rw [hn, Function.update_self]
        exact iff_of_false (fun hboth => hboth.1 rfl) hnot
      · rw [hother n hn]
        exact and_iff_right hn
  · by_cases hn : n = username
    · rw [hn, Function.update_self]
      refine ⟨hrest, fun j hj => (h.joined username).2 j ?_⟩
      rw [hk]
      exact List.mem_cons_of_mem _ hj
    · rw [hother n hn]
      exact h.joined n
  · rcases hpending j p hp with ⟨-, hold⟩ | ⟨rfl, p', hold, hbuttons, -, hawaited, -, hwaits⟩
    · exact h.buttons j p hold
    · rw [hbuttons, hawaited]
      exact hwaits
  · rcases hpending j p hp with ⟨-, hold⟩ | ⟨rfl, p', hold, hbuttons, -, hawaited, -, -⟩
    · exact h.listed j p hold button hbutton hmem hcurrent
    · rw [hbuttons] at hbutton
      rw [hawaited] at hmem
      exact h.listed j p' hold button hbutton (List.mem_of_mem_erase hmem) hcurrent
  · rcases hpending j p hp with ⟨-, hold⟩ | ⟨rfl, p', hold, hbuttons, -, hawaited, -, -⟩
    · exact h.named j p hold n hn
    · rw [hawaited] at hn
      rw [hbuttons]
      exact h.named j p' hold n (List.mem_of_mem_erase hn)

/-- What serving the waiting queries leaves as it is. -/
structure Keeps (s t : LoginUrlClient) : Prop where
  ids : t.ids = s.ids
  temporary : t.tempToRealBotUserId = s.tempToRealBotUserId
  awaiting : t.awaitingBotResolveQueries = s.awaitingBotResolveQueries
  requests : t.requests = s.requests
  checking : t.checking = s.checking
  queryCount : t.queryCount = s.queryCount
  closing : t.closing = s.closing
  lookups : t.lookups = s.lookups
  current : t.currentBotResolveQueryId = s.currentBotResolveQueryId
  places : t.places.Perm s.places

theorem Keeps.refl (s : LoginUrlClient) : Keeps s s := ⟨rfl, rfl, rfl, rfl, rfl, rfl, rfl, rfl, rfl, .refl _⟩

theorem Keeps.trans {u : LoginUrlClient} (h : Keeps s t) (h' : Keeps t u) : Keeps s u :=
  ⟨h'.ids.trans h.ids, h'.temporary.trans h.temporary, h'.awaiting.trans h.awaiting, h'.requests.trans h.requests,
    h'.checking.trans h.checking, h'.queryCount.trans h.queryCount, h'.closing.trans h.closing,
    h'.lookups.trans h.lookups, h'.current.trans h.current, h'.places.trans h.places⟩

/-- A query that has waited moves on. -/
theorem places_moved {p : PendingBotResolveQuery} (hp : s.pendingBotResolveQueries.lookup k = some p)
    (hchecking : t.checking = s.checking)
    (hpending : t.pendingBotResolveQueries = s.pendingBotResolveQueries.erase k)
    (hmoved : (t.continued.map (·.1) ++ t.failed.map (·.1)).Perm
      (p.query :: (s.continued.map (·.1) ++ s.failed.map (·.1)))) : t.places.Perm s.places := by
  unfold places
  rw [hchecking, hpending, List.append_assoc, List.append_assoc]
  refine List.Perm.append_left _ ?_
  have hentries := (TableSum.entries_perm hp).map fun e => e.2.query
  rw [List.map_cons] at hentries
  refine (hmoved.append_left _).trans (List.Perm.trans ?_ (hentries.append_right _).symm)
  exact List.perm_middle

/-- The buttons that name the bot are ready, if it was found. -/
def Ready (myId : Int) (s : LoginUrlClient) (username : Slice) : Prop :=
  ∀ k p, s.pendingBotResolveQueries.lookup k = some p → username ∈ p.awaited →
    ∀ button ∈ p.buttons, button.botUsername = username → ButtonWaits s myId [] button

theorem Waiting.onResolved (h : Waiting myId s await (some username)) {rest : List Int}
    (hk : await username = k :: rest) (hready : userId ≠ 0 → Ready myId s username)
    (hmissing : userId = 0 → (username, 0) ∈ s.lookups) :
    Waiting myId (s.onResolved username userId k) (Function.update await username rest) (some username) ∧
      (userId ≠ 0 → Ready myId (s.onResolved username userId k) username) ∧
      Keeps s (s.onResolved username userId k) := by
  unfold LoginUrlClient.onResolved
  cases hp : s.pendingBotResolveQueries.lookup k with
  | none =>
      refine ⟨h.advance hk s.pendingBotResolveQueries s.continued s.failed (fun j p hj => Or.inl ⟨fun heq => ?_, hj⟩)
        h.carried h.failures, hready, .refl s⟩
      rw [heq, hp] at hj
      cases hj
  | some p =>
      obtain ⟨hcount, hne, hnodup, -⟩ := h.counted k p hp
      have hmem : username ∈ p.awaited := (h.awaits k p hp username).2 (by rw [hk]; exact List.mem_cons_self)
      have hpos : 0 < p.pendingResolveCount := by
        rw [hcount]
        exact List.length_pos_of_mem hmem
      have hcheck : s.check (decide (0 < p.pendingResolveCount)) = s := by
        unfold check
        rw [decide_eq_true hpos, Bool.not_true, Bool.or_false]
      have hentries := TableSum.entries_perm hp
      have hwaits : userId ≠ 0 → ∀ button ∈ p.buttons, ButtonWaits s myId (p.awaited.erase username) button := by
        intro huser button hbutton
        by_cases hname : button.botUsername = username
        · exact (hready huser k p hp hmem button hbutton hname).mono fun hnil => absurd hnil List.not_mem_nil
        · exact (h.buttons k p hp button hbutton).mono fun hold => hnodup.mem_erase_iff.2 ⟨hname, hold⟩
      dsimp only
      rw [hcheck]
      by_cases huser : userId = 0
      · rw [if_pos (Or.inr huser), if_pos huser]
        refine ⟨h.advance hk (s.pendingBotResolveQueries.erase k) s.continued _
          (fun _ _ hj => Or.inl (TableLookup.of_erase hj)) h.carried fun e he n hn => ?_,
          fun hfound => absurd huser hfound, ⟨rfl, rfl, rfl, rfl, rfl, rfl, rfl, rfl, rfl, ?_⟩⟩
        · rcases List.mem_append.1 he with hold | hnew
          · exact h.failures e hold n hn
          · rw [List.mem_singleton.1 hnew] at hn ⊢
            cases hn
            exact ⟨hmissing huser, h.named k p hp username hmem⟩
        · refine places_moved hp rfl rfl ?_
          unfold fail
          dsimp only
          rw [List.map_append, ← List.append_assoc]
          exact List.perm_append_singleton _ _
      · by_cases hlast : p.pendingResolveCount - 1 = 0
        · have hnil : p.awaited.erase username = [] := by
            rw [← List.length_eq_zero_iff, List.length_erase_of_mem hmem, ← hcount]
            exact hlast
          have hnow := hwaits huser
          rw [hnil] at hnow
          obtain ⟨fixed, hsuccess, hcarries⟩ := onSuccess_spec h.real p.query hnow
          rw [if_pos (Or.inl hlast), if_neg huser, hsuccess]
          refine ⟨h.advance hk (s.pendingBotResolveQueries.erase k) _ s.failed
            (fun _ _ hj => Or.inl (TableLookup.of_erase hj)) (fun e he => ?_) h.failures,
            fun hfound j p' hj => hready hfound j p' (TableLookup.of_erase hj).2,
            ⟨rfl, rfl, rfl, rfl, rfl, rfl, rfl, rfl, rfl, ?_⟩⟩
          · rcases List.mem_append.1 he with hold | hnew
            · exact h.carried e hold
            · rw [List.mem_singleton.1 hnew]
              exact hcarries
          · refine places_moved hp rfl rfl ?_
            dsimp only
            rw [List.map_append, List.append_assoc]
            exact List.perm_middle
        · have hsome : p.awaited.erase username ≠ [] := fun hnil => by
            rw [← List.length_eq_zero_iff, List.length_erase_of_mem hmem, ← hcount] at hnil
            exact hlast hnil
          rw [if_neg (not_or.2 ⟨hlast, huser⟩)]
          refine ⟨h.advance hk _ s.continued s.failed (fun j p' hj => ?_) h.carried h.failures,
            fun hfound j p' hj hname => ?_, ⟨rfl, rfl, rfl, rfl, rfl, rfl, rfl, rfl, rfl, ?_⟩⟩
          · rcases (TableLookup.of_insert hj).symm with hold | ⟨hjk, heq⟩
            · exact Or.inl hold
            · rw [heq]
              exact Or.inr ⟨hjk, p, hp, rfl, rfl, rfl, hsome, hwaits huser⟩
          · rcases (TableLookup.of_insert hj).symm with hold | ⟨hjk, heq⟩
            · exact hready hfound j p' hold.2 hname
            · rw [heq] at hname
              exact absurd rfl (hnodup.mem_erase_iff.1 hname).1
          · unfold places
            dsimp only
            refine ((List.Perm.append_left _ ?_).append_right _)
            exact (((TableSum.entries_perm hp).map fun e => e.2.query)).symm

theorem Waiting.onResolvedAll (queryIds : List Int) (h : Waiting myId s await (some username))
    (hk : await username = queryIds) (hready : userId ≠ 0 → Ready myId s username)
    (hmissing : userId = 0 → (username, 0) ∈ s.lookups) :
    let t := queryIds.foldl (fun s queryId => s.onResolved username userId queryId) s
    Waiting myId t (Function.update await username []) none ∧ Keeps s t := by
  induction queryIds generalizing s await with
  | nil =>
      have hsame : Function.update await username [] = await := by
        rw [← hk]
        exact Function.update_eq_self username await
      dsimp only [List.foldl_nil]
      rw [hsame]
      refine ⟨⟨h.numbered, h.default, fun n hn _ => h.unknown n hn fun heq => hn ?_, h.real, h.counted, h.awaits,
        h.joined, h.buttons, fun j p hp button hbutton hmem _ => h.listed j p hp button hbutton hmem fun heq => ?_,
        h.named, h.carried, h.failures, h.sound⟩, .refl s⟩
      · rw [← Option.some.inj heq, hk]
      · have hj := (h.awaits j p hp button.botUsername).1 hmem
        rw [← Option.some.inj heq, hk] at hj
        exact absurd hj List.not_mem_nil
  | cons k rest ih =>
      obtain ⟨hnext, hready', hkeeps⟩ := h.onResolved hk hready hmissing
      obtain ⟨hall, hkeeps'⟩ := ih hnext (Function.update_self _ _ _) hready' fun hzero => by
        rw [hkeeps.lookups]
        exact hmissing hzero
      rw [Function.update_idem] at hall
      exact ⟨hall, hkeeps.trans hkeeps'⟩

/-- The tables when a name that queries wait for was looked up. -/
def noted (s : LoginUrlClient) (username : Slice) (userId : Int) : LoginUrlClient :=
  { s with
    awaitingBotResolveQueries := s.awaitingBotResolveQueries.erase username
    lookups := s.lookups ++ [(username, userId)] }.noteBot username userId

theorem found_append {lookups : List (Slice × Int)} {n : Slice} {u : Int} :
    Found (lookups ++ [(username, userId)]) n u ↔ Found lookups n u ∨ (n = username ∧ u = userId ∧ userId ≠ 0) := by
  unfold Found
  rw [List.mem_append, List.mem_singleton, Prod.mk.injEq]
  constructor
  · rintro ⟨hold | ⟨rfl, rfl⟩, hne⟩
    · exact Or.inl ⟨hold, hne⟩
    · exact Or.inr ⟨rfl, rfl, hne⟩
  · rintro (⟨hold, hne⟩ | ⟨rfl, rfl, hne⟩)
    · exact ⟨Or.inl hold, hne⟩
    · exact ⟨Or.inr ⟨rfl, rfl⟩, hne⟩

/-- The numbers of the names after a lookup of a name that was not found before. -/
theorem Numbered.noted {b : BotUserIds} {lookups : List (Slice × Int)} (h : Numbered b lookups)
    (hunfound : ∀ u, ¬ Found lookups username u) (userId : Int) :
    Numbered { b with botUserIds := if userId = 0 then b.botUserIds.erase username
      else b.botUserIds.insert username userId } (lookups ++ [(username, userId)]) ∧
    ∀ n, n ≠ username → ∀ number, Unknown b lookups n number →
      Unknown { b with botUserIds := if userId = 0 then b.botUserIds.erase username
        else b.botUserIds.insert username userId } (lookups ++ [(username, userId)]) n number := by
  have hother : ∀ n, n ≠ username → (if userId = 0 then b.botUserIds.erase username
      else b.botUserIds.insert username userId).lookup n = b.botUserIds.lookup n := fun n hn => by
    split_ifs
    · exact AList.lookup_erase_ne hn
    · exact AList.lookup_insert_ne hn
  have hunknown : ∀ n, n ≠ username → ∀ number, Unknown b lookups n number →
      Unknown { b with botUserIds := if userId = 0 then b.botUserIds.erase username
        else b.botUserIds.insert username userId } (lookups ++ [(username, userId)]) n number := fun n hn number hold =>
    ⟨fun u hu => (found_append.1 hu).elim (hold.unfound u) fun hnew => hn hnew.1, (hother n hn).trans hold.listed,
      hold.temporary⟩
  refine ⟨⟨h.next, fun n number hnumber => ?_, fun n u hu => ?_⟩, hunknown⟩
  · by_cases hn : n = username
    · subst hn
      dsimp only at hnumber
      split_ifs at hnumber with hzero
      · exact absurd rfl (TableLookup.of_erase hnumber).1
      · rw [AList.lookup_insert] at hnumber
        exact Or.inl (found_append.2 (Or.inr ⟨rfl, (Option.some.inj hnumber).symm, hzero⟩))
    · rw [hother n hn] at hnumber
      rcases h.number n number hnumber with hold | hold
      · exact Or.inl (found_append.2 (Or.inl hold))
      · exact Or.inr (hunknown n hn number hold)
  · rcases found_append.1 hu with hold | ⟨rfl, rfl, hne⟩
    · have hn : n ≠ username := fun heq => hunfound u (heq ▸ hold)
      rw [hother n hn]
      exact h.found n u hold
    · dsimp only
      rw [if_neg hne]
      exact AList.lookup_insert _

theorem Waiting.noted (h : Waiting myId s await none) (hne : await username ≠ []) (userId : Int) :
    Waiting myId (s.noted username userId) await (some username) ∧
      (userId ≠ 0 → Ready myId (s.noted username userId) username) := by
  obtain ⟨number, hunknown⟩ := h.unknown username hne fun hnone => by cases hnone
  have heq : s.noted username userId = { s with
      awaitingBotResolveQueries := s.awaitingBotResolveQueries.erase username
      lookups := s.lookups ++ [(username, userId)]
      tempToRealBotUserId := if userId = 0 then s.tempToRealBotUserId else s.tempToRealBotUserId.insert number userId
      ids := { s.ids with botUserIds := if userId = 0 then s.ids.botUserIds.erase username
        else s.ids.botUserIds.insert username userId } } := by
    unfold LoginUrlClient.noted noteBot
    dsimp only
    rw [hunknown.listed, Option.getD_some]
    split_ifs <;> rfl
  obtain ⟨hnumbered, hothers⟩ := Numbered.noted h.numbered hunknown.unfound userId
  have hsub : s.lookups ⊆ s.lookups ++ [(username, userId)] := List.subset_append_left _ _
  have htemp : ∀ n u, s.tempToRealBotUserId.lookup n = some u →
      ∃ u', (if userId = 0 then s.tempToRealBotUserId else s.tempToRealBotUserId.insert number userId).lookup n =
        some u' := fun n u hn => by
    split_ifs
    · exact ⟨u, hn⟩
    · by_cases hsame : n = number
      · exact ⟨userId, by rw [hsame, AList.lookup_insert]⟩
      · exact ⟨u, by rw [AList.lookup_insert_ne hsame, hn]⟩
  have hwaits : ∀ {awaited button}, ButtonWaits s myId awaited button →
      ButtonWaits (s.noted username userId) myId awaited button := fun {awaited button} hold => by
    rw [heq]
    rcases hold with ⟨hid, hcarries⟩ | ⟨hnamed, n, hid, howner, hmem | ⟨u, hu⟩⟩
    · exact Or.inl ⟨hid, hcarries.mono hsub⟩
    · exact Or.inr ⟨hnamed, n, hid, howner, Or.inl hmem⟩
    · exact Or.inr ⟨hnamed, n, hid, howner, Or.inr (htemp n u hu)⟩
  have hlisted : ∀ k p, s.pendingBotResolveQueries.lookup k = some p → ∀ button ∈ p.buttons,
      button.botUsername ∈ p.awaited → ∃ n, button.id = signed button.requestWriteAccess n ∧
        s.ids.botUserIds.lookup button.botUsername = some n := fun k p hp button hbutton hmem =>
    h.listed k p hp button hbutton hmem fun hnone => by cases hnone
  refine ⟨?_, fun hfound k p hp hmem button hbutton hname => ?_⟩
  · constructor
    · rw [heq]
      exact hnumbered
    · rw [heq]
      exact h.default
    · intro n hn hcurrent
      obtain ⟨m, hm⟩ := h.unknown n hn fun hnone => by cases hnone
      rw [heq]
      exact ⟨m, hothers n (fun hsame => hcurrent (congrArg some hsame.symm)) m hm⟩
    · rw [heq]
      intro n u hu
      dsimp only at hu ⊢
      split_ifs at hu with hzero
      · obtain ⟨owner, howner, hfound⟩ := h.real n u hu
        exact ⟨owner, howner, found_append.2 (Or.inl hfound)⟩
      · rcases TableLookup.of_insert hu with ⟨rfl, rfl⟩ | ⟨-, hu⟩
        · exact ⟨username, hunknown.temporary, found_append.2 (Or.inr ⟨rfl, rfl, hzero⟩)⟩
        · obtain ⟨owner, howner, hfound⟩ := h.real n u hu
          exact ⟨owner, howner, found_append.2 (Or.inl hfound)⟩
    · rw [heq]
      exact h.counted
    · rw [heq]
      exact h.awaits
    · rw [heq]
      exact h.joined
    · intro k p hp button hbutton
      rw [heq] at hp
      exact hwaits (h.buttons k p hp button hbutton)
    · intro k p hp button hbutton hmem hcurrent
      rw [heq] at hp ⊢
      obtain ⟨n, hid, hn⟩ := hlisted k p hp button hbutton hmem
      refine ⟨n, hid, ?_⟩
      have hother : button.botUsername ≠ username := fun hsame => hcurrent (congrArg some hsame.symm)
      dsimp only
      split_ifs
      · rw [AList.lookup_erase_ne hother, hn]
      · rw [AList.lookup_insert_ne hother, hn]
    · rw [heq]
      exact h.named
    · rw [heq]
      exact fun e he button hbutton => (h.carried e he button hbutton).mono hsub
    · rw [heq]
      intro e he n hn
      obtain ⟨hmem, hnamed⟩ := h.failures e he n hn
      exact ⟨hsub hmem, hnamed⟩
    · rw [heq]
      exact h.sound
  · rw [heq] at hp
    obtain ⟨n, hid, hn⟩ := hlisted k p hp button hbutton (by rw [hname]; exact hmem)
    rw [hname, hunknown.listed] at hn
    cases hn
    rcases h.buttons k p hp button hbutton with ⟨hid', hcarries⟩ | ⟨hnamed, -⟩
    · rw [heq]
      exact Or.inl ⟨hid', hcarries.mono hsub⟩
    · refine Or.inr ⟨hnamed, number, hid, ?_, Or.inr ⟨userId, ?_⟩⟩
      · rw [heq, hname]
        exact hunknown.temporary
      · rw [heq]
        dsimp only
        rw [if_neg hfound, AList.lookup_insert]

/-- A lookup that queries wait for serves all of them. -/
theorem Waiting.onResolveBotUsername (h : Waiting myId s await none) (username : Slice)
    (hawait : s.awaitingBotResolveQueries.lookup username = some (await username)) (hne : await username ≠ [])
    (userId : Int) :
    let t := s.onResolveBotUsername username userId
    Waiting myId t (Function.update await username []) none ∧ t.places.Perm s.places ∧
      t.awaitingBotResolveQueries = s.awaitingBotResolveQueries.erase username ∧ t.requests = s.requests ∧
      t.checking = s.checking ∧ t.queryCount = s.queryCount ∧ t.closing = s.closing := by
  obtain ⟨hnoted, hready⟩ := h.noted hne userId
  obtain ⟨hall, hkeeps⟩ := hnoted.onResolvedAll (await username) rfl hready fun hzero => by
    unfold LoginUrlClient.noted noteBot
    rw [if_pos hzero, hzero]
    exact List.mem_append_right _ List.mem_cons_self
  have heq : s.onResolveBotUsername username userId =
      (await username).foldl (fun s queryId => s.onResolved username userId queryId) (s.noted username userId) := by
    unfold LoginUrlClient.onResolveBotUsername LoginUrlClient.noted
    rw [hawait]
    dsimp only
    unfold check
    rw [decide_eq_true hne, Bool.not_true, Bool.or_false]
  have hframe : (s.noted username userId).awaitingBotResolveQueries = s.awaitingBotResolveQueries.erase username ∧
      (s.noted username userId).requests = s.requests ∧ (s.noted username userId).checking = s.checking ∧
      (s.noted username userId).queryCount = s.queryCount ∧ (s.noted username userId).closing = s.closing ∧
      (s.noted username userId).places = s.places := by
    unfold LoginUrlClient.noted noteBot
    split_ifs <;> exact ⟨rfl, rfl, rfl, rfl, rfl, rfl⟩
  obtain ⟨hawaiting, hrequests, hchecking, hcount, hclosing, hplaces⟩ := hframe
  dsimp only
  rw [heq]
  exact ⟨hall, hplaces ▸ hkeeps.places, hkeeps.awaiting.trans hawaiting, hkeeps.requests.trans hrequests,
    hkeeps.checking.trans hchecking, hkeeps.queryCount.trans hcount, hkeeps.closing.trans hclosing⟩

end LoginUrlClient

end TelegramBotApi
