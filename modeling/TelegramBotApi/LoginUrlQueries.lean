import TelegramBotApi.LoginUrlWaiting

/-!
# Queries join the lists of their names

A query joins the list of every name that it waits for, and the lookup of a name starts with its list.
-/

namespace TelegramBotApi

namespace LoginUrlClient

open BotUserIds (signed Reads Reading)

variable {myId : Int} {s t : LoginUrlClient} {await : Slice → List Int} {username : Slice} {userId k : Int}

def awaitedBy (s : LoginUrlClient) (username : Slice) : List Int :=
  (s.awaitingBotResolveQueries.lookup username).getD []

theorem awaitedBy_of {awaiting : AList fun _ : Slice => List Int} (h : s.awaitingBotResolveQueries = awaiting)
    (n : Slice) : s.awaitedBy n = (awaiting.lookup n).getD [] := by
  unfold awaitedBy
  rw [h]

/-- The names with a list of waiting queries are those that are being looked up. -/
structure InFlight (s : LoginUrlClient) : Prop where
  nodup : s.requests.Nodup
  awaited : ∀ n, n ∈ s.requests ↔ s.awaitingBotResolveQueries.lookup n ≠ none
  nonempty : ∀ n, s.awaitingBotResolveQueries.lookup n ≠ some []

/-- A name gets a list, and its lookup is in flight. -/
theorem InFlight.insert (h : InFlight s) {list : List Int} (hne : list ≠ []) (requests : List Slice)
    (hnodup : requests.Nodup) (hrequests : ∀ n, n ∈ requests ↔ n = username ∨ n ∈ s.requests) :
    InFlight { s with
      awaitingBotResolveQueries := s.awaitingBotResolveQueries.insert username list, requests := requests } := by
  refine ⟨hnodup, fun n => ?_, fun n hnil => ?_⟩
  · rw [hrequests]
    by_cases hn : n = username
    · rw [hn, AList.lookup_insert]
      exact iff_of_true (Or.inl rfl) (Option.some_ne_none _)
    · rw [AList.lookup_insert_ne hn, or_iff_right hn]
      exact h.awaited n
  · rcases TableLookup.of_insert hnil with ⟨-, heq⟩ | ⟨-, hold⟩
    · exact hne heq.symm
    · exact h.nonempty n hold

/-- The invariant looks at neither the lists nor the lookups in flight. -/
theorem Waiting.congr (h : Waiting myId s await none) (awaiting : AList fun _ : Slice => List Int)
    (requests : List Slice) (checking : AList fun _ : Nat => KeyboardQuery) (queryCount : Nat) (closing : Bool) :
    Waiting myId { s with
      awaitingBotResolveQueries := awaiting, requests := requests, checking := checking, queryCount := queryCount
      closing := closing } await none :=
  ⟨h.numbered, h.default, h.unknown, h.real, h.counted, h.awaits, h.joined, h.buttons, h.listed, h.named, h.carried,
    h.failures, h.sound⟩

theorem Waiting.awaitUsername (h : Waiting myId s await none) (hflight : InFlight s) {rest : List Slice}
    (hnot : username ∉ rest)
    (hawait : ∀ n, await n = s.awaitedBy n ++ if n ∈ username :: rest then [k] else []) :
    let t := s.awaitUsername k username
    (∃ await', Waiting myId t await' none ∧ ∀ n, await' n = t.awaitedBy n ++ if n ∈ rest then [k] else []) ∧
      InFlight t ∧ t.places.Perm s.places ∧ t.checking = s.checking ∧ t.queryCount = s.queryCount ∧
      t.closing = s.closing := by
  have hself : await username = s.awaitedBy username ++ [k] := by
    rw [hawait, if_pos List.mem_cons_self]
  have hother : ∀ n, n ≠ username → await n = s.awaitedBy n ++ if n ∈ rest then [k] else [] := fun n hn => by
    rw [hawait]
    congr 1
    exact if_congr ⟨fun hmem => (List.mem_cons.1 hmem).resolve_left hn, List.mem_cons_of_mem _⟩ rfl rfl
  have hinserted : ∀ n, ((s.awaitingBotResolveQueries.insert username (s.awaitedBy username ++ [k])).lookup n) =
      if n = username then some (await username) else s.awaitingBotResolveQueries.lookup n := fun n => by
    by_cases hn : n = username
    · rw [if_pos hn, hn, AList.lookup_insert, hself]
    · rw [if_neg hn, AList.lookup_insert_ne hn]
  have hjoined : Waiting myId { s with awaitingBotResolveQueries :=
      s.awaitingBotResolveQueries.insert username (s.awaitedBy username ++ [k]) } await none :=
    h.congr _ _ _ _ _
  have hlists : ∀ n, await n =
      ((s.awaitingBotResolveQueries.insert username (s.awaitedBy username ++ [k])).lookup n).getD [] ++
        if n ∈ rest then [k] else [] := fun n => by
    rw [hinserted]
    by_cases hn : n = username
    · rw [if_pos hn, hn, if_neg hnot, Option.getD_some, List.append_nil]
    · rw [if_neg hn]
      exact hother n hn
  have hne : await username ≠ [] := by
    rw [hself]
    exact List.append_ne_nil_of_right_ne_nil _ (List.cons_ne_nil _ _)
  have heq : s.awaitUsername k username =
      let s' := { s with awaitingBotResolveQueries :=
        s.awaitingBotResolveQueries.insert username (s.awaitedBy username ++ [k]) }
      if (s.awaitedBy username ++ [k]).length = 1 then s'.searchPublicChat username else s' := rfl
  dsimp only at heq ⊢
  rw [heq]
  by_cases hfirst : (s.awaitedBy username ++ [k]).length = 1
  · have hnone : s.awaitingBotResolveQueries.lookup username = none := by
      rw [List.length_append, List.length_singleton] at hfirst
      have hnil : s.awaitedBy username = [] := List.length_eq_zero_iff.1 (by omega)
      unfold awaitedBy at hnil
      cases hlookup : s.awaitingBotResolveQueries.lookup username with
      | none => rfl
      | some l =>
          rw [hlookup, Option.getD_some] at hnil
          exact absurd (hnil ▸ hlookup) (hflight.nonempty username)
    have hnew : username ∉ s.requests := fun hmem => (hflight.awaited username).1 hmem hnone
    rw [if_pos hfirst]
    unfold searchPublicChat
    dsimp only
    by_cases hclosing : s.closing = true
    · rw [if_pos hclosing]
      obtain ⟨hserved, hplaces, hawaiting, hrequests, hchecking, hcount, hclosed⟩ :=
        hjoined.onResolveBotUsername username (by rw [hinserted, if_pos rfl]) hne 0
      have herased : ∀ n, ((s.awaitingBotResolveQueries.insert username (s.awaitedBy username ++ [k])).erase
          username).lookup n = s.awaitingBotResolveQueries.lookup n := fun n => by
        by_cases hn : n = username
        · rw [hn, AList.lookup_erase, hnone]
        · rw [AList.lookup_erase_ne hn, AList.lookup_insert_ne hn]
      refine ⟨⟨_, hserved, fun n => ?_⟩, ⟨?_, fun n => ?_, fun n => ?_⟩, hplaces, hchecking, hcount,
        hclosed⟩
      · rw [awaitedBy_of hawaiting, herased]
        by_cases hn : n = username
        · rw [hn, Function.update_self, hnone, if_neg hnot]
          rfl
        · rw [Function.update_of_ne hn]
          exact hother n hn
      · rw [hrequests]
        exact hflight.nodup
      · rw [hrequests, hawaiting, herased]
        exact hflight.awaited n
      · rw [hawaiting, herased]
        exact hflight.nonempty n
    · rw [if_neg hclosing]
      refine ⟨⟨await, hjoined.congr _ _ _ _ _, hlists⟩,
        hflight.insert (hself ▸ hne) (s.requests ++ [username]) ?_ fun n => ?_, .refl _, rfl, rfl, rfl⟩
      · exact List.nodup_append.2 ⟨hflight.nodup, List.nodup_singleton _, fun a ha b hb hab =>
          hnew (List.mem_singleton.1 hb ▸ hab ▸ ha)⟩
      · rw [List.mem_append, List.mem_singleton]
        exact or_comm
  · have hlisted : s.awaitingBotResolveQueries.lookup username ≠ none := fun hnone => by
      refine hfirst ?_
      unfold awaitedBy
      rw [hnone]
      rfl
    rw [if_neg hfirst]
    have hmem : username ∈ s.requests := (hflight.awaited username).2 hlisted
    refine ⟨⟨await, hjoined, hlists⟩, hflight.insert (hself ▸ hne) s.requests hflight.nodup fun n => ?_, .refl _, rfl,
      rfl, rfl⟩
    exact (or_iff_right_of_imp fun heq => heq ▸ hmem).symm

theorem Waiting.awaitUsernames (names : List Slice) (h : Waiting myId s await none) (hflight : InFlight s)
    (hnodup : names.Nodup) (hawait : ∀ n, await n = s.awaitedBy n ++ if n ∈ names then [k] else []) :
    let t := names.foldl (fun s username => s.awaitUsername k username) s
    Waiting myId t t.awaitedBy none ∧ InFlight t ∧ t.places.Perm s.places ∧ t.checking = s.checking ∧
      t.queryCount = s.queryCount := by
  induction names generalizing s await with
  | nil =>
      have hsame : await = s.awaitedBy := funext fun n => by
        rw [hawait, if_neg List.not_mem_nil, List.append_nil]
      rw [hsame] at h
      exact ⟨h, hflight, .refl _, rfl, rfl⟩
  | cons username rest ih =>
      obtain ⟨hnot, hrest⟩ := List.nodup_cons.1 hnodup
      obtain ⟨⟨await', hnext, hawait'⟩, hflight', hplaces, hchecking, hcount, -⟩ :=
        h.awaitUsername hflight hnot hawait
      obtain ⟨hwaiting, hflying, hplaces', hchecking', hcount'⟩ := ih hnext hflight' hrest hawait'
      exact ⟨hwaiting, hflying, hplaces'.trans hplaces, hchecking'.trans hchecking, hcount'.trans hcount⟩

theorem Numbered.setUnresolved {b : BotUserIds} {lookups : List (Slice × Int)} (h : Numbered b lookups)
    (names : List Slice) : Numbered { b with unresolvedBotUsernames := names } lookups :=
  ⟨h.next, fun n number hn => (h.number n number hn).imp_right fun hold => ⟨hold.unfound, hold.listed, hold.temporary⟩,
    h.found⟩

theorem Waiting.setUnresolved (h : Waiting myId s await none) (names : List Slice) :
    Waiting myId { s with ids := { s.ids with unresolvedBotUsernames := names } } await none :=
  ⟨Numbered.setUnresolved h.numbered names, h.default, fun n hn hcurrent => by
    obtain ⟨number, hold⟩ := h.unknown n hn hcurrent
    exact ⟨number, hold.unfound, hold.listed, hold.temporary⟩, h.real, h.counted, h.awaits, h.joined, h.buttons,
    h.listed, h.named, h.carried, h.failures, h.sound⟩

/-- A query that needs names joins their lists. -/
theorem Waiting.resolveBotUsernames (h : Waiting myId s s.awaitedBy none) (hflight : InFlight s) (query : Nat)
    {buttons : List LoginButton} (hsome : s.ids.unresolvedBotUsernames ≠ [])
    (hnodup : s.ids.unresolvedBotUsernames.Nodup)
    (hunknown : ∀ n ∈ s.ids.unresolvedBotUsernames, ∃ number, Unknown s.ids s.lookups n number)
    (hbuttons : ∀ button ∈ buttons, ButtonWaits s myId s.ids.unresolvedBotUsernames button)
    (hlisted : ∀ button ∈ buttons, button.botUsername ∈ s.ids.unresolvedBotUsernames →
      ∃ number, button.id = signed button.requestWriteAccess number ∧
        s.ids.botUserIds.lookup button.botUsername = some number)
    (hnamed : ∀ n ∈ s.ids.unresolvedBotUsernames, ∃ button ∈ buttons, button.botUsername = n) :
    let t := s.resolveBotUsernames query buttons
    Waiting myId t t.awaitedBy none ∧ InFlight t ∧ t.places.Perm (query :: s.places) ∧ t.checking = s.checking ∧
      t.queryCount = s.queryCount := by
  have hfresh : s.pendingBotResolveQueries.lookup s.currentBotResolveQueryId = none := by
    cases hp : s.pendingBotResolveQueries.lookup s.currentBotResolveQueryId with
    | none => rfl
    | some p => exact absurd (h.counted _ p hp).2.2.2 (Int.lt_irrefl _)
  have hlater : ∀ n, s.currentBotResolveQueryId ∉ s.awaitedBy n := fun n hmem =>
    absurd ((h.joined n).2 _ hmem) (Int.lt_irrefl _)
  let await : Slice → List Int := fun n =>
    s.awaitedBy n ++ if n ∈ s.ids.unresolvedBotUsernames then [s.currentBotResolveQueryId] else []
  have hmem : ∀ n k, k ∈ await n ↔
      k ∈ s.awaitedBy n ∨ n ∈ s.ids.unresolvedBotUsernames ∧ k = s.currentBotResolveQueryId := fun n k => by
    change k ∈ s.awaitedBy n ++ (if n ∈ _ then _ else _) ↔ _
    rw [List.mem_append]
    refine or_congr_right ?_
    split_ifs with hn
    · rw [List.mem_singleton, and_iff_right hn]
    · exact iff_of_false List.not_mem_nil fun hboth => hn hboth.1
  have hentered : Waiting myId { s with
      currentBotResolveQueryId := s.currentBotResolveQueryId + 1
      pendingBotResolveQueries := s.pendingBotResolveQueries.insert s.currentBotResolveQueryId
        { pendingResolveCount := s.ids.unresolvedBotUsernames.length, query := query, buttons := buttons,
          awaited := s.ids.unresolvedBotUsernames } } await none := by
    refine ⟨h.numbered, h.default, fun n hn hcurrent => ?_, h.real, fun j p hp => ?_, fun j p hp n => ?_,
      fun n => ⟨?_, fun j hj => ?_⟩, fun j p hp => ?_, fun j p hp => ?_, fun j p hp => ?_, h.carried, h.failures,
      h.sound⟩
    · by_cases hnew : n ∈ s.ids.unresolvedBotUsernames
      · exact hunknown n hnew
      · refine h.unknown n (fun hnil => hn ?_) hcurrent
        change s.awaitedBy n ++ (if n ∈ _ then _ else _) = []
        rw [if_neg hnew, hnil]
        rfl
    · rcases (TableLookup.of_insert hp).symm with ⟨-, hold⟩ | ⟨rfl, rfl⟩
      · obtain ⟨hcount, hne, hnodup', hlt⟩ := h.counted j p hold
        exact ⟨hcount, hne, hnodup', Int.lt_trans hlt (Int.lt_succ _)⟩
      · exact ⟨rfl, hsome, hnodup, Int.lt_succ _⟩
    · rw [hmem]
      rcases (TableLookup.of_insert hp).symm with ⟨hj, hold⟩ | ⟨rfl, rfl⟩
      · rw [h.awaits j p hold n]
        exact (or_iff_left fun hboth => hj hboth.2).symm
      · rw [or_iff_right (hlater n)]
        exact (and_iff_left rfl).symm
    · refine List.nodup_append.2 ⟨(h.joined n).1, ?_, fun a ha b hb hab => ?_⟩
      · split_ifs
        · exact List.nodup_singleton _
        · exact List.nodup_nil
      · split_ifs at hb
        · rw [List.mem_singleton.1 hb] at hab
          exact hlater n (hab ▸ ha)
        · exact absurd hb List.not_mem_nil
    · change j < s.currentBotResolveQueryId + 1
      rcases (hmem n j).1 hj with hold | ⟨-, rfl⟩
      · exact Int.lt_trans ((h.joined n).2 j hold) (Int.lt_succ _)
      · exact Int.lt_succ _
    · rcases (TableLookup.of_insert hp).symm with ⟨-, hold⟩ | ⟨rfl, rfl⟩
      · exact h.buttons j p hold
      · exact hbuttons
    · rcases (TableLookup.of_insert hp).symm with ⟨-, hold⟩ | ⟨rfl, rfl⟩
      · exact h.listed j p hold
      · exact fun button hbutton hname _ => hlisted button hbutton hname
    · rcases (TableLookup.of_insert hp).symm with ⟨-, hold⟩ | ⟨rfl, rfl⟩
      · exact h.named j p hold
      · exact hnamed
  obtain ⟨hwaiting, hflying, hplaces, hchecking, hcount⟩ :=
    hentered.awaitUsernames s.ids.unresolvedBotUsernames ⟨hflight.nodup, hflight.awaited, hflight.nonempty⟩ hnodup
      fun n => rfl
  have hcheck : s.check (decide (s.ids.unresolvedBotUsernames ≠ [])) = s := by
    unfold check
    rw [decide_eq_true hsome, Bool.not_true, Bool.or_false]
  unfold LoginUrlClient.resolveBotUsernames
  dsimp only
  rw [hcheck]
  refine ⟨hwaiting.setUnresolved [], ⟨hflying.nodup, hflying.awaited, hflying.nonempty⟩, ?_, hchecking, hcount⟩
  refine List.Perm.trans hplaces ?_
  unfold places
  dsimp only
  have hentries : (s.pendingBotResolveQueries.insert s.currentBotResolveQueryId
      { pendingResolveCount := s.ids.unresolvedBotUsernames.length, query := query, buttons := buttons,
        awaited := s.ids.unresolvedBotUsernames }).entries =
      ⟨s.currentBotResolveQueryId, _⟩ :: (s.pendingBotResolveQueries.erase s.currentBotResolveQueryId).entries := rfl
  rw [hentries, TableSum.erase_of_lookup_eq_none hfresh, List.map_cons, List.append_assoc, List.append_assoc]
  exact List.perm_middle

/-- Reading keyboards changes nothing for the queries that wait. -/
theorem Waiting.reads (h : Waiting myId s await none) {ids : BotUserIds} (hreads : Reads s.lookups s.ids ids) :
    Waiting myId { s with ids := ids } await none := by
  refine ⟨hreads.numbered, hreads.default.trans h.default, fun n hn hcurrent => ?_, fun number userId hreal => ?_,
    h.counted, h.awaits, h.joined, fun j p hp button hbutton => ?_, fun j p hp button hbutton hmem hcurrent => ?_,
    h.named, h.carried, h.failures, h.sound⟩
  · obtain ⟨number, hunknown⟩ := h.unknown n hn hcurrent
    exact ⟨number, hreads.unknown hunknown⟩
  · obtain ⟨owner, howner, hfound⟩ := h.real number userId hreal
    exact ⟨owner, hreads.temporary _ _ howner, hfound⟩
  · rcases h.buttons j p hp button hbutton with hcarries | ⟨hne, number, hid, htemp, hready⟩
    · exact Or.inl hcarries
    · exact Or.inr ⟨hne, number, hid, hreads.temporary _ _ htemp, hready⟩
  · obtain ⟨number, hid, hlisted⟩ := h.listed j p hp button hbutton hmem hcurrent
    exact ⟨number, hid, hreads.kept _ _ hlisted⟩

end LoginUrlClient

end TelegramBotApi
