import TelegramBotApi.RequestLoads

/-!
# Steps of the request statistics

The actor of a client is to count the unanswered queries of the client, whatever happens, and the one of the
manager at least those of the clients whose actor has started (`Sound`). It is to count exactly those it has
heard of (`Exact`) until a step loses an event; every lemma below says of one operation what becomes of both.
-/

namespace TelegramBotApi

namespace RequestStats

variable {s t : RequestStats} {c i : Nat} {client : StatClient} {held : SentQuery}

/-! ### Messages to the actors -/

theorem addRootEvent_spec {event : StatEvent} (h : s.root.Steady) (hnonneg : 0 ≤ s.root.total + event.change) :
    ∃ root, s.addRootEvent event = { s with root := root } ∧ root.Steady ∧
      root.total = s.root.total + event.change := by
  obtain ⟨root, hadd, hsteady, htotal, -⟩ := h.addEvent hnonneg
  refine ⟨root, ?_, hsteady, htotal⟩
  unfold addRootEvent
  rw [hadd]

theorem foldl_addRootEvent (messages : List StatMessage) (s : RequestStats) (h : s.root.Steady)
    (hnonneg : ∀ before, before <+: messages → 0 ≤ s.root.total + StatMailbox.pending before) :
    ∃ root, (messages.filterMap StatMessage.event?).foldl addRootEvent s = { s with root := root } ∧ root.Steady ∧
      root.total = s.root.total + StatMailbox.pending messages := by
  induction messages generalizing s with
  | nil => exact ⟨s.root, rfl, h, (add_zero _).symm⟩
  | cons m messages ih =>
      have hnext (before : List StatMessage) (hbefore : before <+: messages) :=
        hnonneg (m :: before) ((List.prefix_cons_inj m).2 hbefore)
      cases m with
      | start =>
          obtain ⟨root, hfold, hsteady, htotal⟩ := ih s h fun before hbefore => by
            simpa [StatMessage.change] using hnext before hbefore
          refine ⟨root, hfold, hsteady, ?_⟩
          rw [htotal, StatMailbox.pending_cons]
          exact congrArg _ (zero_add _).symm
      | addEvent event =>
          have hfirst := hnonneg [.addEvent event] (List.prefix_append _ _)
          rw [StatMailbox.pending_cons, StatMailbox.pending_nil, add_zero] at hfirst
          obtain ⟨root, hadd, hsteady, htotal⟩ := addRootEvent_spec h hfirst
          obtain ⟨last, hfold, hlast, hall⟩ := ih { s with root := root } hsteady fun before hbefore => by
            change 0 ≤ root.total + _
            rw [htotal, add_assoc]
            exact hnext before hbefore
          refine ⟨last, ?_, hlast, ?_⟩
          · rw [List.filterMap_cons_some (show StatMessage.event? (.addEvent event) = some event from rfl),
              List.foldl_cons, hadd, hfold]
          · rw [hall, StatMailbox.pending_cons]
            change root.total + _ = _
            rw [htotal, add_assoc]
            rfl

/-- An event of a client is kept for its actor, or counted there and passed on. -/
theorem addEvent_spec (event : StatEvent) (hclient : s.clients.lookup c = some client) (h : client.stat.Steady)
    (hroot : s.root.Steady) (hnonneg : 0 ≤ client.stat.total + event.change)
    (hrootNonneg : client.stat.mailbox.isEmpty = true → 0 ≤ s.root.total + event.change) :
    ∃ stat root, s.addEvent c event =
        { s with clients := s.clients.insert c { client with stat := stat }, root := root } ∧
      stat.Steady ∧ stat.total = client.stat.total + event.change ∧
      stat.mailbox.isEmpty = client.stat.mailbox.isEmpty ∧ root.Steady ∧
      root.total = s.root.total + if client.stat.mailbox.isEmpty then event.change else 0 := by
  obtain ⟨stat, hadd, hsteady, htotal, hempty⟩ := h.addEvent hnonneg
  have heq : s.addEvent c event =
      if client.stat.mailbox.isEmpty then
        { s with clients := s.clients.insert c { client with stat := stat } }.addRootEvent event
      else { s with clients := s.clients.insert c { client with stat := stat } } := by
    unfold addEvent
    rw [hclient]
    dsimp only
    rw [hadd]
  rw [heq]
  by_cases hstarted : client.stat.mailbox.isEmpty = true
  · rw [if_pos hstarted, if_pos hstarted]
    obtain ⟨root, hrootAdd, hrootSteady, hrootTotal⟩ :=
      addRootEvent_spec (s := { s with clients := s.clients.insert c { client with stat := stat } }) hroot
        (hrootNonneg hstarted)
    exact ⟨stat, root, hrootAdd, hsteady, htotal, hempty, hrootSteady, hrootTotal⟩
  · rw [if_neg hstarted, if_neg hstarted]
    exact ⟨stat, s.root, rfl, hsteady, htotal, hempty, hroot, (add_zero _).symm⟩

/-! ### The invariant -/

def started (s : RequestStats) (c : Nat) : Bool := (s.clients.lookup c).any fun client => client.stat.mailbox.isEmpty

/-- The manager has heard of the requests of the client: its actor has started, or has gone. -/
def heard (s : RequestStats) (c : Nat) : Bool := (s.clients.lookup c).all fun client => client.stat.mailbox.isEmpty

/-- The manager is to count the unanswered queries of the clients that it has heard of. -/
def Exact (s : RequestStats) : Prop := s.root.total = s.load s.heard

structure Placed (s : RequestStats) (held : SentQuery) : Prop where
  own : ∀ c, held.query.statActor = some c → held.client = c
  known : held.client < s.clientCount
  running : held.isUnanswered = true → held.isHeld = true →
    ∃ client, s.clients.lookup held.client = some client ∧ client.isRunning = true

structure Sound (s : RequestStats) : Prop where
  crashed : s.crashed = false
  known : ∀ c client, s.clients.lookup c = some client → c < s.clientCount
  placed : ∀ held ∈ s.queries, s.Placed held
  steady : ∀ c client, s.clients.lookup c = some client → client.stat.Steady ∧ client.stat.total = s.load (· == c)
  root : s.root.Steady
  covered : s.load s.started ≤ s.root.total

theorem started_of_lookup (h : s.clients.lookup c = some client) : s.started c = client.stat.mailbox.isEmpty := by
  unfold started
  rw [h]
  rfl

theorem heard_of_lookup (h : s.clients.lookup c = some client) : s.heard c = client.stat.mailbox.isEmpty := by
  unfold heard
  rw [h]
  rfl

theorem Placed.congr (h : s.Placed held) (hcount : s.clientCount ≤ t.clientCount)
    (hrunning : ∀ c client, s.clients.lookup c = some client → client.isRunning = true →
      ∃ client', t.clients.lookup c = some client' ∧ client'.isRunning = true) : t.Placed held := by
  refine ⟨h.own, h.known.trans_le hcount, fun hunready hheld => ?_⟩
  obtain ⟨client, hclient, hruns⟩ := h.running hunready hheld
  exact hrunning _ client hclient hruns

/-- A change of the queries of one client that its actor and the manager take note of. -/
structure Noted (s t : RequestStats) (c : Nat) (client client' : StatClient) (d : StatCounter → ℤ) : Prop where
  crashed : t.crashed = false
  count : t.clientCount = s.clientCount
  placed : ∀ held ∈ t.queries, t.Placed held
  load : ∀ P, t.load P = s.load P + if P c then d else 0
  before : s.clients.lookup c = some client
  after : t.clients.lookup c = some client'
  others : ∀ n, n ≠ c → t.clients.lookup n = s.clients.lookup n
  steady : client'.stat.Steady
  total : client'.stat.total = client.stat.total + d
  mailbox : client'.stat.mailbox.isEmpty = client.stat.mailbox.isEmpty
  root : t.root.Steady
  rootTotal : t.root.total = s.root.total + if client.stat.mailbox.isEmpty then d else 0

theorem Noted.sound {client' : StatClient} {d : StatCounter → ℤ} (h : s.Sound) (hnoted : Noted s t c client client' d) :
    t.Sound ∧ (t.Exact ↔ s.Exact) := by
  have hsame (P : Option StatClient → Bool)
      (hP : P (some client') = P (some client)) (n : Nat) : P (t.clients.lookup n) = P (s.clients.lookup n) := by
    by_cases hn : n = c
    · rw [hn, hnoted.before, hnoted.after, hP]
    · rw [hnoted.others n hn]
  have hstarted : t.started = s.started :=
    funext (hsame (Option.any fun x : StatClient => x.stat.mailbox.isEmpty) hnoted.mailbox)
  have hheard : t.heard = s.heard :=
    funext (hsame (Option.all fun x : StatClient => x.stat.mailbox.isEmpty) hnoted.mailbox)
  refine ⟨⟨hnoted.crashed, fun n x hx => ?_, hnoted.placed, fun n x hx => ?_, hnoted.root, ?_⟩, ?_⟩
  · rw [hnoted.count]
    by_cases hn : n = c
    · exact hn ▸ h.known c client hnoted.before
    · exact h.known n x ((hnoted.others n hn).symm.trans hx)
  · by_cases hn : n = c
    · subst hn
      rw [hnoted.after] at hx
      cases hx
      rw [hnoted.load, hnoted.total, (h.steady n client hnoted.before).2, if_pos (beq_self_eq_true n)]
      exact ⟨hnoted.steady, rfl⟩
    · rw [hnoted.others n hn] at hx
      rw [hnoted.load, if_neg (by rwa [beq_iff_eq, eq_comm]), add_zero]
      exact h.steady n x hx
  · rw [hstarted, hnoted.load, hnoted.rootTotal, started_of_lookup hnoted.before]
    exact add_le_add_left h.covered _
  · unfold Exact
    rw [hheard, hnoted.load, hnoted.rootTotal, heard_of_lookup hnoted.before]
    exact add_left_inj _

/-! ### Queries -/

/-- The client that has admitted the query is gone, and its actor with it. -/
def Orphan (s : RequestStats) (held : SentQuery) : Prop :=
  ∃ c, held.query.statActor = some c ∧ s.clients.lookup c = none

theorem find_eq_some {isHeld : Bool} (h : s.find i isHeld = some held) :
    s.queries[i]? = some held ∧ held.query.isReady = false ∧ held.isHeld = isHeld := by
  obtain ⟨hget, hfind⟩ := Option.filter_eq_some_iff.1 h
  rw [Bool.and_eq_true, beq_iff_eq] at hfind
  exact ⟨hget, SentQuery.isReady_of_unanswered hfind.1, hfind.2⟩

theorem isUnanswered_of_find {isHeld : Bool} (h : s.find i isHeld = some held) : held.isUnanswered = true :=
  (Bool.and_eq_true_iff.1 (Option.filter_eq_some_iff.1 h).2).1

theorem find_of_unanswered (hget : s.queries[i]? = some held) (h : held.isUnanswered = true) :
    s.find i held.isHeld = some held := by
  unfold find
  rw [hget, Option.filter_some, h, beq_self_eq_true]
  rfl

theorem Sound.not_orphan (h : s.Sound) (hheld : held ∈ s.queries) (hunanswered : held.isUnanswered = true)
    (hholds : held.isHeld = true) : ¬ s.Orphan held := by
  rintro ⟨c, hsent, hgone⟩
  obtain ⟨client, hclient, -⟩ := (h.placed held hheld).running hunanswered hholds
  rw [(h.placed held hheld).own c hsent, hgone] at hclient
  cases hclient

def withQueries (s : RequestStats) (queries : List SentQuery) : RequestStats := { s with queries := queries }

@[simp] theorem queries_withQueries (s : RequestStats) (queries : List SentQuery) :
    (s.withQueries queries).queries = queries := rfl

/-- A change of the queries that the counters do not see. -/
theorem Sound.withQueries (h : s.Sound) {queries : List SentQuery} (hplaced : ∀ held ∈ queries, s.Placed held)
    (hload : ∀ P, (s.withQueries queries).load P = s.load P) :
    (s.withQueries queries).Sound ∧ ((s.withQueries queries).Exact ↔ s.Exact) := by
  refine ⟨⟨h.crashed, h.known, fun held hheld => (hplaced held hheld).congr le_rfl fun _ client hc hr =>
    ⟨client, hc, hr⟩, fun n x hx => ?_, h.root, ?_⟩, ?_⟩
  · rw [hload]
    exact h.steady n x hx
  · rw [hload]
    exact h.covered
  · unfold Exact
    rw [hload]
    exact Iff.rfl

structure Answered (s t : RequestStats) (i : Nat) (held : SentQuery) : Prop where
  sound : t.Sound
  exact : s.Exact → (t.Exact ↔ ¬ s.Orphan held)
  queries : ∃ state, state ≠ .query ∧ t.queries = s.queries.set i (held.answered state)
  running : ∀ c, (t.clients.lookup c).map StatClient.isRunning = (s.clients.lookup c).map StatClient.isRunning

theorem isReady_answered (held : SentQuery) {state : QueryState} (h : state ≠ .query) :
    (held.answered state).query.isReady = true := bne_iff_ne.2 h

theorem weight_answered (held : SentQuery) (state : QueryState) :
    (held.answered state).query.weight = held.query.weight := by
  funext k
  cases k <;> rfl

/-- An answered query is counted no more. -/
theorem load_answered (hget : s.queries[i]? = some held) (hunready : held.query.isReady = false)
    (hsent : held.query.statActor = some c) {state : QueryState} (hstate : state ≠ .query) (P : Nat → Bool) :
    (s.withQueries (s.queries.set i (held.answered state))).load P =
      s.load P + if P c then -held.query.weight else 0 := by
  rw [load_set hget rfl, SentQuery.load_of_ready (isReady_answered held hstate),
    SentQuery.load_of_sent hunready hsent, zero_sub]
  split
  · rfl
  · rw [neg_zero]

theorem Sound.placed_answered (h : s.Sound) (hget : s.queries[i]? = some held) (state : QueryState) :
    ∀ other ∈ s.queries.set i (held.answered state), s.Placed other := fun other hother => by
  rcases List.mem_or_eq_of_mem_set hother with hother | rfl
  · exact h.placed other hother
  · obtain ⟨hown, hknown, -⟩ := h.placed held (List.mem_of_getElem? hget)
    exact ⟨hown, hknown, fun _ hfalse => absurd hfalse Bool.false_ne_true⟩

/-- The response of a query whose client is gone is lost. -/
theorem Sound.answer_orphan (h : s.Sound) (hget : s.queries[i]? = some held)
    (hunready : held.query.isReady = false) (hsent : held.query.statActor = some c)
    (hgone : s.clients.lookup c = none) {state : QueryState} (hstate : state ≠ .query) :
    Answered s (s.withQueries (s.queries.set i (held.answered state))) i held := by
  have hload := load_answered hget hunready hsent hstate
  have hstarted : s.started c = false := by
    unfold started
    rw [hgone]
    rfl
  have hheard : s.heard c = true := by
    unfold heard
    rw [hgone]
    rfl
  refine ⟨⟨h.crashed, h.known, fun other hother => (h.placed_answered hget state other hother).congr le_rfl
    fun _ client hc hr => ⟨client, hc, hr⟩, fun n x hx => ?_, h.root, ?_⟩, fun hs => ?_, ⟨state, hstate, rfl⟩,
    fun _ => rfl⟩
  · have hne : c ≠ n := fun heq => by
      rw [← heq] at hx
      exact absurd (hgone.symm.trans hx) nofun
    rw [hload, if_neg (by rwa [beq_iff_eq]), add_zero]
    exact h.steady n x hx
  · rw [hload]
    change s.load s.started + (if s.started c = true then _ else _) ≤ s.root.total
    rw [hstarted, if_neg Bool.false_ne_true, add_zero]
    exact h.covered
  · refine iff_of_false (fun hexact => ?_) fun horphan => horphan ⟨c, hsent, hgone⟩
    unfold Exact at hs hexact
    rw [hload] at hexact
    change s.root.total = s.load s.heard + (if s.heard c = true then _ else _) at hexact
    rw [hheard, if_pos rfl, hs] at hexact
    have hzero := congrFun (left_eq_add.1 hexact) .requests
    exact absurd hzero (by decide : (-1 : ℤ) ≠ 0)

/-- The response of a query whose client is there. -/
theorem Sound.answer_known (h : s.Sound) (hget : s.queries[i]? = some held)
    (hunready : held.query.isReady = false) (hsent : held.query.statActor = some c)
    (hclient : s.clients.lookup c = some client) {state : QueryState} (hstate : state ≠ .query) (size : Nat) :
    Answered s ((s.withQueries (s.queries.set i (held.answered state))).addEvent c
      ((held.answered state).query.responseStat size)) i held := by
  have hload := load_answered hget hunready hsent hstate
  have hchange : ((held.answered state).query.responseStat size).change = -held.query.weight := by
    rw [change_responseStat, weight_answered]
  have hweight (P : Nat → Bool) (hP : P c = true) : held.query.weight ≤ s.load P := by
    have hle := le_load (List.mem_of_getElem? hget) P
    rwa [SentQuery.load_of_sent hunready hsent, if_pos hP] at hle
  obtain ⟨hsteady, htotal⟩ := h.steady c client hclient
  obtain ⟨stat, root, heq, hstat, hstatTotal, hempty, hroot, hrootTotal⟩ :=
    addEvent_spec (s := s.withQueries (s.queries.set i (held.answered state)))
      ((held.answered state).query.responseStat size) hclient hsteady h.root
      (by rw [hchange, htotal, ← sub_eq_add_neg, sub_nonneg]
          exact hweight _ (beq_self_eq_true c))
      (fun hstarted => by
        rw [hchange, ← sub_eq_add_neg, sub_nonneg]
        exact (hweight s.started ((started_of_lookup hclient).trans hstarted)).trans h.covered)
  rw [heq]
  rw [hchange] at hstatTotal hrootTotal
  have hothers (n : Nat) (hn : n ≠ c) :
      (s.clients.insert c { client with stat := stat }).lookup n = s.clients.lookup n := AList.lookup_insert_ne hn
  have hlast : (s.clients.insert c { client with stat := stat }).lookup c = some { client with stat := stat } :=
    AList.lookup_insert _
  obtain ⟨hsound, hexact⟩ := Noted.sound h
    (t := { s with
      queries := s.queries.set i (held.answered state)
      clients := s.clients.insert c { client with stat := stat }
      root := root })
    { crashed := h.crashed
      count := rfl
      placed := fun other hother => (h.placed_answered hget state other hother).congr le_rfl fun n x hx hr => by
        by_cases hn : n = c
        · rw [hn, hclient] at hx
          cases hx
          exact ⟨{ client with stat := stat }, hn ▸ hlast, hr⟩
        · exact ⟨x, (hothers n hn).trans hx, hr⟩
      load := hload
      before := hclient
      after := hlast
      others := hothers
      steady := hstat
      total := hstatTotal
      mailbox := hempty
      root := hroot
      rootTotal := hrootTotal }
  refine ⟨hsound, fun hs => iff_of_true (hexact.2 hs) ?_, ⟨state, hstate, rfl⟩, fun n => ?_⟩
  · rintro ⟨n, hn, hgone⟩
    rw [hsent] at hn
    cases hn
    exact absurd (hgone.symm.trans hclient) nofun
  · by_cases hn : n = c
    · rw [hn, hclient]
      exact (congrArg (Option.map StatClient.isRunning) hlast).trans rfl
    · exact congrArg (Option.map StatClient.isRunning) (hothers n hn)

theorem Sound.setAnswer (h : s.Sound) (hget : s.queries[i]? = some held) (hunready : held.query.isReady = false)
    {state : QueryState} (hstate : state ≠ .query) (size : Nat) : Answered s (s.setAnswer i state size) i held := by
  have hrunning : ¬ held.query.isReady = true := by
    rw [hunready]
    exact Bool.false_ne_true
  unfold RequestStats.setAnswer
  rw [hget]
  dsimp only
  rw [if_neg hrunning]
  cases hactor : held.query.statActor with
  | none =>
      obtain ⟨hsound, hexact⟩ := h.withQueries (h.placed_answered hget state) fun P => by
        rw [load_set hget rfl, SentQuery.load_of_ready (isReady_answered held hstate),
          SentQuery.load_of_internal hactor, sub_zero, add_zero]
      refine ⟨hsound, fun hs => iff_of_true (hexact.2 hs) ?_, ⟨state, hstate, rfl⟩, fun _ => rfl⟩
      rintro ⟨c, hsent, -⟩
      rw [hactor] at hsent
      cases hsent
  | some c =>
      cases hclient : s.clients.lookup c with
      | some client => exact h.answer_known hget hunready hactor hclient hstate size
      | none =>
          have hdropped : (s.withQueries (s.queries.set i (held.answered state))).addEvent c
              ((held.answered state).query.responseStat size) =
              s.withQueries (s.queries.set i (held.answered state)) := by
            have hclients : (s.withQueries (s.queries.set i (held.answered state))).clients = s.clients := rfl
            unfold RequestStats.addEvent
            rw [hclients, hclient]
          change Answered s ((s.withQueries (s.queries.set i (held.answered state))).addEvent c
            ((held.answered state).query.responseStat size)) i held
          rw [hdropped]
          exact h.answer_orphan hget hunready hactor hclient hstate

/-- A client whose other fields change; it may stop when it holds no query. -/
theorem Sound.touch (h : s.Sound) (hclient : s.clients.lookup c = some client) (client' : StatClient)
    (hstat : client'.stat = client.stat)
    (hrunning : client'.isRunning = client.isRunning ∨ ∀ held ∈ s.queries, held.isUnanswered = true →
      held.isHeld = true → held.client ≠ c) :
    ({ s with clients := s.clients.insert c client' } : RequestStats).Sound ∧
      (({ s with clients := s.clients.insert c client' } : RequestStats).Exact ↔ s.Exact) := by
  obtain ⟨hsteady, -⟩ := h.steady c client hclient
  have hothers (n : Nat) (hn : n ≠ c) : (s.clients.insert c client').lookup n = s.clients.lookup n :=
    AList.lookup_insert_ne hn
  refine Noted.sound (c := c) (d := 0) h
    { crashed := h.crashed
      count := rfl
      placed := fun other hother => by
        obtain ⟨hown, hknown, hruns⟩ := h.placed other hother
        refine ⟨hown, hknown, fun hunready hholds => ?_⟩
        obtain ⟨x, hx, hr⟩ := hruns hunready hholds
        by_cases hn : other.client = c
        · rw [hn, hclient] at hx
          cases hx
          refine ⟨client', hn ▸ AList.lookup_insert _, ?_⟩
          exact hrunning.elim (fun hsame => hsame.trans hr) fun hnone => absurd hn (hnone other hother hunready hholds)
        · exact ⟨x, (hothers _ hn).trans hx, hr⟩
      load := fun P => ((congrArg _ (ite_self _)).trans (add_zero _)).symm
      before := hclient
      after := AList.lookup_insert _
      others := hothers
      steady := hstat ▸ hsteady
      total := by rw [hstat, add_zero]
      mailbox := by rw [hstat]
      root := h.root
      rootTotal := ((congrArg _ (ite_self _)).trans (add_zero _)).symm }

theorem Sound.setHeld (h : s.Sound) (i : Nat) (isHeld : Bool)
    (hrunning : ∀ held, s.queries[i]? = some held → held.isUnanswered = true → isHeld = true →
      ∃ client, s.clients.lookup held.client = some client ∧ client.isRunning = true) :
    (s.setHeld i isHeld).Sound ∧ ((s.setHeld i isHeld).Exact ↔ s.Exact) := by
  unfold RequestStats.setHeld
  cases hget : s.queries[i]? with
  | none => exact ⟨h, Iff.rfl⟩
  | some held =>
      refine h.withQueries (fun other hother => ?_) fun P => ?_
      · rcases List.mem_or_eq_of_mem_set hother with hother | rfl
        · exact h.placed other hother
        · obtain ⟨hown, hknown, -⟩ := h.placed held (List.mem_of_getElem? hget)
          exact ⟨hown, hknown, hrunning held hget⟩
      · rw [load_set hget rfl]
        exact (congrArg _ (sub_self _)).trans (add_zero _)

/-- The query is gone, for the client's actor and for the manager; without a promise both go on counting it. -/
structure Destroyed (s t : RequestStats) (i : Nat) (held : SentQuery) : Prop where
  sound : t.Sound
  exact : s.Exact → (t.Exact ↔ ¬ (held.hasPromise = true ∧ s.Orphan held))
  queries : ∃ held', held'.isHeld = false ∧ t.queries = s.queries.set i held' ∧
    held'.isForgotten = (!held.hasPromise && held.query.statActor.isSome)
  running : ∀ c, (t.clients.lookup c).map StatClient.isRunning = (s.clients.lookup c).map StatClient.isRunning

theorem Sound.destroyQuery (h : s.Sound) (hget : s.queries[i]? = some held) (hunanswered : held.isUnanswered = true)
    (size : Nat) : Destroyed s (s.destroyQuery i size) i held := by
  have hunready := SentQuery.isReady_of_unanswered hunanswered
  unfold RequestStats.destroyQuery
  rw [hget]
  dsimp only
  rw [if_pos hunanswered]
  by_cases hpromise : held.hasPromise = true
  · rw [if_pos hpromise]
    obtain ⟨hsound, hexact, ⟨state, hstate, hqueries⟩, hrunning⟩ :=
      h.setAnswer hget hunready (QueryState.noConfusion : QueryState.error ≠ .query) size
    refine ⟨hsound, fun hs => (hexact hs).trans (not_congr (and_iff_right hpromise).symm), ?_, hrunning⟩
    refine ⟨held.answered state, rfl, hqueries, ?_⟩
    rw [SentQuery.isForgotten_of_ready (isReady_answered held hstate), hpromise]
    rfl
  · rw [if_neg hpromise]
    have hplaced : ∀ other ∈ s.queries.set i held.destroyed, s.Placed other := by
      intro other hother
      rcases List.mem_or_eq_of_mem_set hother with hother | rfl
      · exact h.placed other hother
      · obtain ⟨hown, hknown, -⟩ := h.placed held (List.mem_of_getElem? hget)
        exact ⟨hown, hknown, fun _ hfalse => absurd hfalse Bool.false_ne_true⟩
    obtain ⟨hsound, hexact⟩ := h.withQueries hplaced fun P => by
      rw [load_set hget rfl]
      exact (congrArg _ (sub_self _)).trans (add_zero _)
    refine ⟨hsound, fun hs => iff_of_true (hexact.2 hs) fun hlost => hpromise hlost.1, ?_, fun _ => rfl⟩
    refine ⟨held.destroyed, rfl, rfl, ?_⟩
    rw [Bool.eq_false_of_not_eq_true hpromise, SentQuery.isForgotten_destroyed hunready]
    rfl

/-- A query that a client admits, once its request was sent. -/
theorem Sound.admit (h : s.Sound) (hclient : s.clients.lookup c = some client) (hruns : client.isRunning = true)
    {q : CountedQuery} (hunready : q.isReady = false) (hsent : q.statActor = some c) (isHeld hasPromise : Bool)
    {clients : AList fun _ : Nat => StatClient} {root : StatMailbox} {client' : StatClient}
    (hlast : clients.lookup c = some client') (hothers : ∀ n, n ≠ c → clients.lookup n = s.clients.lookup n)
    (hrunning : client'.isRunning = client.isRunning) (hsteady : client'.stat.Steady)
    (htotal : client'.stat.total = client.stat.total + q.weight)
    (hempty : client'.stat.mailbox.isEmpty = client.stat.mailbox.isEmpty) (hroot : root.Steady)
    (hrootTotal : root.total = s.root.total + if client.stat.mailbox.isEmpty then q.weight else 0) :
    (addQuery { s with clients := clients, root := root } q c isHeld hasPromise).Sound ∧
      ((addQuery { s with clients := clients, root := root } q c isHeld hasPromise).Exact ↔ s.Exact) := by
  have hkeeps (n : Nat) (x : StatClient) (hx : s.clients.lookup n = some x) (hr : x.isRunning = true) :
      ∃ x', clients.lookup n = some x' ∧ x'.isRunning = true := by
    by_cases hn : n = c
    · exact ⟨client', hn ▸ hlast, hrunning.trans hruns⟩
    · exact ⟨x, (hothers n hn).trans hx, hr⟩
  refine Noted.sound (c := c) (d := q.weight) h
    { crashed := h.crashed
      count := rfl
      placed := fun other hother => ?_
      load := fun P => ?_
      before := hclient
      after := hlast
      others := hothers
      steady := hsteady
      total := htotal
      mailbox := hempty
      root := hroot
      rootTotal := hrootTotal }
  · rcases List.mem_append.1 hother with hother | hother
    · exact (h.placed other hother).congr le_rfl hkeeps
    · rw [List.mem_singleton.1 hother]
      refine ⟨fun n hn => ?_, h.known c client hclient, fun _ _ => hkeeps c client hclient hruns⟩
      rw [hsent] at hn
      exact Option.some.inj hn
  · rw [load_append (s := s) rfl P]
    have hadded : ({ query := q, client := c, isHeld := isHeld, hasPromise := hasPromise } : SentQuery).load P =
        if P c then q.weight else 0 :=
      SentQuery.load_of_sent hunready hsent P
    exact congrArg _ hadded

theorem Sound.send (h : s.Sound) (hclient : s.clients.lookup c = some client) (hruns : client.isRunning = true)
    {query : CountedQuery} (hunready : query.isReady = false) (hnew : query.statActor = none) (hasPromise : Bool)
    (check : FloodCheck) :
    (s.send c query hasPromise check).Sound ∧ ((s.send c query hasPromise check).Exact ↔ s.Exact) := by
  unfold RequestStats.send
  by_cases hinternal : query.isInternal = true
  · rw [if_pos hinternal]
    refine h.withQueries (fun other hother => ?_) fun P => ?_
    · rcases List.mem_append.1 hother with hother | hother
      · exact h.placed other hother
      · rw [List.mem_singleton.1 hother]
        refine ⟨fun n hn => ?_, h.known c client hclient, fun _ _ => ⟨client, hclient, hruns⟩⟩
        rw [hnew] at hn
        cases hn
    · have hadded :
          ({ query := query, client := c, isHeld := true, hasPromise := hasPromise } : SentQuery).load P = 0 :=
        SentQuery.load_of_internal hnew P
      rw [load_append rfl P]
      exact (congrArg _ hadded).trans (add_zero _)
  · rw [if_neg hinternal]
    set q : CountedQuery := { query with statActor := some c }
    obtain ⟨hsteady, htotal⟩ := h.steady c client hclient
    obtain ⟨stat, root, heq, hstat, hstatTotal, hempty, hroot, hrootTotal⟩ :=
      addEvent_spec q.requestStat hclient hsteady h.root
        (by rw [change_requestStat, htotal]
            exact add_nonneg (s.load_nonneg _) q.weight_nonneg)
        (fun _ => by
          rw [change_requestStat]
          exact add_nonneg ((s.load_nonneg _).trans h.covered) q.weight_nonneg)
    rw [change_requestStat] at hstatTotal hrootTotal
    have hlast (x : StatClient) : (s.clients.insert c x).lookup c = some x := AList.lookup_insert _
    have hothers (x : StatClient) (n : Nat) (hn : n ≠ c) :
        (s.clients.insert c x).lookup n = s.clients.lookup n := AList.lookup_insert_ne hn
    have hadmit (x : StatClient) (hx : x.stat = stat) (hr : x.isRunning = client.isRunning) (isHeld : Bool) :=
      h.admit hclient hruns (q := q) hunready rfl isHeld hasPromise (hlast x) (hothers x) hr (by rw [hx]; exact hstat)
        (by rw [hx]; exact hstatTotal) (by rw [hx]; exact hempty) hroot hrootTotal
    dsimp only
    rw [heq]
    dsimp only
    rw [hlast]
    dsimp only
    split
    · rw [AList.insert_insert]
      exact hadmit { client with
        stat := stat
        floodLimitedQueryCount := client.floodLimitedQueryCount + 1 } rfl rfl false
    · exact hadmit { client with stat := stat } rfl rfl true

/-- An actor that runs the messages it has, which are all it was to count. -/
theorem Sound.flush (h : s.Sound) (hclient : s.clients.lookup c = some client) :
    ∃ stat root, s.flush c = { s with clients := s.clients.insert c { client with stat := stat }, root := root } ∧
      stat.mailbox = [] ∧ (s.flush c).Sound ∧ ((s.flush c).Exact ↔ s.Exact) := by
  obtain ⟨hsteady, htotal⟩ := h.steady c client hclient
  obtain ⟨stat, hflush, hstat, hstatTotal, hmailbox, -⟩ := hsteady.flush
  have hpending (before : List StatMessage) (hbefore : before <+: client.stat.mailbox) :
      0 ≤ s.root.total + StatMailbox.pending before := by
    have hnonneg := hsteady.nonneg before hbefore
    refine add_nonneg ((s.load_nonneg _).trans h.covered) ?_
    cases hcase : client.stat.mailbox with
    | nil =>
        rw [hcase, List.prefix_nil] at hbefore
        rw [hbefore, StatMailbox.pending_nil]
    | cons m messages =>
        rwa [hsteady.waiting (by rw [hcase]; exact List.cons_ne_nil _ _), zero_add] at hnonneg
  obtain ⟨root, hfold, hroot, hrootTotal⟩ := foldl_addRootEvent client.stat.mailbox
    { s with clients := s.clients.insert c { client with stat := stat } } h.root hpending
  have heq : s.flush c = { s with clients := s.clients.insert c { client with stat := stat }, root := root } := by
    unfold RequestStats.flush
    rw [hclient]
    dsimp only
    rw [hflush]
    exact hfold
  have hlast : (s.flush c).clients.lookup c = some { client with stat := stat } := by
    rw [heq]
    exact AList.lookup_insert _
  have hothers (n : Nat) (hn : n ≠ c) : (s.flush c).clients.lookup n = s.clients.lookup n := by
    rw [heq]
    exact AList.lookup_insert_ne hn
  have hload (P : Nat → Bool) : (s.flush c).load P = s.load P := by
    rw [heq]
    rfl
  -- The actor passes on what it was to count, unless it has started before.
  have hpassed : (s.flush c).root.total =
      s.root.total + if client.stat.mailbox.isEmpty then 0 else s.load (· == c) := by
    rw [heq]
    change root.total = _
    rw [hrootTotal]
    refine congrArg (s.root.total + ·) ?_
    cases hcase : client.stat.mailbox with
    | nil => rfl
    | cons m messages =>
        rw [List.isEmpty_cons, if_neg Bool.false_ne_true, ← htotal]
        unfold StatMailbox.total
        rw [hsteady.waiting (by rw [hcase]; exact List.cons_ne_nil _ _), zero_add, hcase]
  have hopen (F : RequestStats → Nat → Bool) (hF : ∀ t : RequestStats, ∀ n x, t.clients.lookup n = some x →
      F t n = x.stat.mailbox.isEmpty) (hsame : ∀ n, n ≠ c → F (s.flush c) n = F s n) :
      (s.flush c).load (F (s.flush c)) =
        s.load (F s) + if client.stat.mailbox.isEmpty then 0 else s.load (· == c) := by
    rw [hload, ← hF s c client hclient]
    refine load_insert ?_ hsame
    rw [hF (s.flush c) c _ hlast]
    exact List.isEmpty_iff.2 hmailbox
  have hstarted := hopen started (fun _ _ _ hx => started_of_lookup hx) fun n hn => by
    unfold started
    rw [hothers n hn]
  have hheard := hopen heard (fun _ _ _ hx => heard_of_lookup hx) fun n hn => by
    unfold heard
    rw [hothers n hn]
  refine ⟨stat, root, heq, hmailbox, ⟨?_, fun n x hx => ?_, fun other hother => ?_, fun n x hx => ?_, ?_, ?_⟩, ?_⟩
  · rw [heq]
    exact h.crashed
  · have hcount : (s.flush c).clientCount = s.clientCount := by rw [heq]
    rw [hcount]
    by_cases hn : n = c
    · exact hn ▸ h.known c client hclient
    · exact h.known n x ((hothers n hn).symm.trans hx)
  · rw [heq] at hother ⊢
    refine (h.placed other hother).congr le_rfl fun n x hx hr => ?_
    rw [← heq]
    by_cases hn : n = c
    · rw [hn, hclient] at hx
      cases hx
      exact ⟨{ client with stat := stat }, hn ▸ hlast, hr⟩
    · exact ⟨x, (hothers n hn).trans hx, hr⟩
  · rw [hload]
    by_cases hn : n = c
    · subst hn
      rw [hlast] at hx
      cases hx
      exact ⟨hstat, hstatTotal.trans htotal⟩
    · exact h.steady n x ((hothers n hn).symm.trans hx)
  · rw [heq]
    exact hroot
  · rw [hstarted, hpassed]
    exact add_le_add_left h.covered _
  · unfold Exact
    rw [hheard, hpassed]
    exact add_left_inj _

theorem Sound.flushRoot (h : s.Sound) :
    s.flushRoot.Sound ∧ (s.flushRoot.Exact ↔ s.Exact) ∧ s.flushRoot.clients = s.clients ∧
      s.flushRoot.queries = s.queries ∧ s.flushRoot.root.mailbox = [] := by
  obtain ⟨root, hflush, hsteady, htotal, hmailbox, -⟩ := h.root.flush
  have heq : s.flushRoot = { s with root := root } := by
    unfold RequestStats.flushRoot
    rw [hflush]
  rw [heq]
  refine ⟨⟨h.crashed, h.known, fun other hother => (h.placed other hother).congr le_rfl fun _ x hx hr => ⟨x, hx, hr⟩,
    h.steady, hsteady, h.covered.trans htotal.ge⟩, ?_, rfl, rfl, hmailbox⟩
  unfold Exact
  exact ⟨fun hs => htotal.symm.trans hs, fun hs => htotal.trans hs⟩

/-! ### Clients -/

theorem Sound.createClient (h : s.Sound) : s.createClient.Sound ∧ (s.createClient.Exact ↔ s.Exact) := by
  have hnone : s.clients.lookup s.clientCount = none := by
    by_contra hsome
    obtain ⟨client, hclient⟩ := Option.ne_none_iff_exists'.1 hsome
    exact lt_irrefl _ (h.known _ client hclient)
  have hlast : s.createClient.clients.lookup s.clientCount = some {} := AList.lookup_insert _
  have hothers (n : Nat) (hn : n ≠ s.clientCount) : s.createClient.clients.lookup n = s.clients.lookup n :=
    AList.lookup_insert_ne hn
  have hsent (held : SentQuery) (hheld : held ∈ s.queries) (n : Nat) (hn : held.query.statActor = some n) :
      n ≠ s.clientCount := by
    obtain ⟨hown, hknown, -⟩ := h.placed held hheld
    exact ne_of_lt (hown n hn ▸ hknown)
  have hstarted : s.load s.createClient.started = s.load s.started := load_congr fun held hheld n hn => by
    unfold started
    rw [hothers n (hsent held hheld n hn)]
  have hheard : s.load s.createClient.heard = s.load s.heard := load_congr fun held hheld n hn => by
    unfold heard
    rw [hothers n (hsent held hheld n hn)]
  refine ⟨⟨h.crashed, fun n x hx => ?_, fun other hother => ?_, fun n x hx => ?_, h.root, ?_⟩, ?_⟩
  · by_cases hn : n = s.clientCount
    · exact hn ▸ Nat.lt_succ_self _
    · exact (h.known n x ((hothers n hn).symm.trans hx)).trans (Nat.lt_succ_self _)
  · refine (h.placed other hother).congr (Nat.le_succ _) fun n x hx hr => ⟨x, ?_, hr⟩
    exact (hothers n (h.known n x hx).ne).trans hx
  · by_cases hn : n = s.clientCount
    · subst hn
      rw [hlast] at hx
      cases hx
      refine ⟨StatMailbox.steady_initial, StatMailbox.total_initial.trans ?_⟩
      exact (load_eq_zero (s := s) fun held hheld _ n hn => beq_false_of_ne (hsent held hheld n hn)).symm
    · exact h.steady n x ((hothers n hn).symm.trans hx)
  · exact hstarted.le.trans h.covered
  · unfold Exact
    exact ⟨fun hs => hs.trans hheard, fun hs => hs.trans hheard.symm⟩

/-- The statistics actor of a client goes without having passed on the request of a query that is still
unanswered. -/
def LosesRequest (s : RequestStats) (c : Nat) : Prop :=
  ∃ client, s.clients.lookup c = some client ∧ client.isRunning = false ∧ client.stat.mailbox ≠ [] ∧
    ∃ held ∈ s.queries, held.query.isReady = false ∧ held.query.statActor = some c

theorem load_pos (hheld : held ∈ s.queries) (hunready : held.query.isReady = false)
    (hsent : held.query.statActor = some c) : 0 < s.load (· == c) .requests := by
  have hle := le_load hheld (· == c) .requests
  rw [SentQuery.load_of_sent hunready hsent, if_pos (beq_self_eq_true c)] at hle
  exact Int.zero_lt_one.trans_le hle

theorem Sound.hangupShared (h : s.Sound) (c : Nat) :
    (s.hangupShared c).Sound ∧ (s.Exact → ((s.hangupShared c).Exact ↔ ¬ s.LosesRequest c)) := by
  unfold RequestStats.hangupShared
  cases hclient : s.clients.lookup c with
  | none => exact ⟨h, fun hs => iff_of_true hs fun ⟨x, hx, _⟩ => absurd (hclient.symm.trans hx) nofun⟩
  | some client =>
      dsimp only
      by_cases hruns : client.isRunning = true
      · rw [if_pos hruns]
        refine ⟨h, fun hs => iff_of_true hs ?_⟩
        rintro ⟨x, hx, hstopped, -⟩
        rw [hclient] at hx
        cases hx
        exact absurd (hruns.symm.trans hstopped) nofun
      · rw [if_neg hruns]
        have hgone : (s.clients.erase c).lookup c = none := AList.lookup_erase c s.clients
        have hothers (n : Nat) (hn : n ≠ c) : (s.clients.erase c).lookup n = s.clients.lookup n :=
          AList.lookup_erase_ne hn
        have hkept (n : Nat) (x : StatClient) (hx : (s.clients.erase c).lookup n = some x) :
            n ≠ c ∧ s.clients.lookup n = some x := by
          by_cases hn : n = c
          · rw [hn, hgone] at hx
            cases hx
          · exact ⟨hn, (hothers n hn).symm.trans hx⟩
        set t : RequestStats := { s with clients := s.clients.erase c }
        have hheard : t.load t.heard = s.load s.heard + if s.heard c then 0 else s.load (· == c) := by
          refine load_insert (s := s) ?_ fun n hn => ?_
          · unfold heard
            rw [hgone]
            rfl
          · unfold heard
            rw [hothers n hn]
        have hstarted : t.load t.started ≤ s.load s.started := load_mono (s := s) fun n hn => by
          unfold started at hn ⊢
          obtain ⟨x, hx, hempty⟩ := (Option.any_eq_true _ _).1 hn
          exact (Option.any_eq_true _ _).2 ⟨x, (hkept n x hx).2, hempty⟩
        refine ⟨⟨h.crashed, fun n x hx => h.known n x (hkept n x hx).2, fun other hother => ?_,
          fun n x hx => h.steady n x (hkept n x hx).2, h.root, hstarted.trans h.covered⟩, fun hs => ?_⟩
        · refine (h.placed other hother).congr le_rfl fun n x hx hr => ⟨x, (hothers n fun hn => ?_).trans hx, hr⟩
          rw [hn, hclient] at hx
          cases hx
          exact hruns hr
        · unfold Exact at hs ⊢
          rw [hheard]
          change s.root.total = _ ↔ _
          rw [hs, left_eq_add, heard_of_lookup hclient]
          by_cases hempty : client.stat.mailbox.isEmpty = true
          · rw [if_pos hempty]
            refine iff_of_true rfl ?_
            rintro ⟨x, hx, -, hne, -⟩
            rw [hclient] at hx
            cases hx
            exact hne (List.isEmpty_iff.1 hempty)
          · rw [if_neg hempty]
            constructor
            · rintro hzero ⟨x, -, -, -, held, hheld, hunready, hsent⟩
              have hpos := load_pos hheld hunready hsent
              rw [hzero] at hpos
              exact lt_irrefl _ hpos
            · intro hnone
              refine load_eq_zero fun held hheld hunready n hsent => beq_false_of_ne fun hn => ?_
              refine hnone ⟨client, hclient, ?_, ?_, held, hheld, hunready, hn ▸ hsent⟩
              · exact Bool.eq_false_of_not_eq_true hruns
              · exact fun hnil => hempty (List.isEmpty_iff.2 hnil)

/-- The queries with a number in `is` are no longer held by the client. -/
theorem Sound.foldl_destroyQuery (h : s.Sound) (c size : Nat) (is : List Nat) :
    let t := is.foldl (destroyHeld c size) s
    t.Sound ∧ (s.Exact → t.Exact) ∧
      (∀ j held, t.queries[j]? = some held → held.isUnanswered = true → held.isHeld = true →
        s.queries[j]? = some held ∧ (j ∈ is → held.client ≠ c)) ∧
      ∀ n, (t.clients.lookup n).map StatClient.isRunning = (s.clients.lookup n).map StatClient.isRunning := by
  induction is generalizing s with
  | nil => exact ⟨h, id, fun j held hget _ _ => ⟨hget, nofun⟩, fun _ => rfl⟩
  | cons i is ih =>
      rw [List.foldl_cons]
      unfold destroyHeld
      cases hfind : s.find i true with
      | none =>
          obtain ⟨hsound, hexact, hgone, hrunning⟩ := ih h
          refine ⟨hsound, hexact, fun j held hget hunready hholds => ?_, hrunning⟩
          obtain ⟨hbefore, hnot⟩ := hgone j held hget hunready hholds
          refine ⟨hbefore, fun hj => (List.mem_cons.1 hj).elim (fun hj => ?_) hnot⟩
          have hsome : s.find i true = some held := by
            rw [← hj, ← hholds]
            exact find_of_unanswered hbefore hunready
          rw [hfind] at hsome
          cases hsome
      | some first =>
          obtain ⟨hget, -, hholds⟩ := find_eq_some hfind
          dsimp only
          by_cases hclient : first.client = c
          · rw [if_pos hclient]
            have hdestroyed := h.destroyQuery hget (isUnanswered_of_find hfind) size
            obtain ⟨held', hfree, hqueries, -⟩ := hdestroyed.queries
            obtain ⟨hsound, hexact, hgone, hrunning⟩ := ih hdestroyed.sound
            refine ⟨hsound, fun hs => hexact ((hdestroyed.exact hs).2 ?_), fun j held hj hjready hjholds => ?_,
              fun n => (hrunning n).trans (hdestroyed.running n)⟩
            · exact fun hlost => h.not_orphan (List.mem_of_getElem? hget) (isUnanswered_of_find hfind) hholds hlost.2
            · obtain ⟨hbefore, hnot⟩ := hgone j held hj hjready hjholds
              have hne : j ≠ i := fun heq => by
                rw [heq, hqueries, List.getElem?_set_self (List.getElem?_eq_some_iff.1 hget).1] at hbefore
                cases hbefore
                exact Bool.false_ne_true (hfree.symm.trans hjholds)
              rw [hqueries, List.getElem?_set_ne hne.symm] at hbefore
              exact ⟨hbefore, fun hmem => hnot ((List.mem_cons.1 hmem).resolve_left hne)⟩
          · rw [if_neg hclient]
            obtain ⟨hsound, hexact, hgone, hrunning⟩ := ih h
            refine ⟨hsound, hexact, fun j held hj hjready hjholds => ?_, hrunning⟩
            obtain ⟨hbefore, hnot⟩ := hgone j held hj hjready hjholds
            refine ⟨hbefore, fun hmem => (List.mem_cons.1 hmem).elim (fun heq => ?_) hnot⟩
            rw [heq, hget] at hbefore
            cases hbefore
            exact hclient

theorem Sound.stop (h : s.Sound) (c size : Nat) : (s.stop c size).Sound ∧ (s.Exact → (s.stop c size).Exact) := by
  obtain ⟨hsound, hexact, hgone, -⟩ := h.foldl_destroyQuery c size (List.range s.queries.length)
  have hfold : (List.range s.queries.length).foldl (destroyHeld c size) s = s.destroyQueries c size := rfl
  rw [hfold] at hsound hexact hgone
  unfold RequestStats.stop
  cases hclient : (s.destroyQueries c size).clients.lookup c with
  | none =>
      dsimp only
      rw [hclient]
      exact ⟨hsound, hexact⟩
  | some client =>
      dsimp only
      rw [hclient]
      obtain ⟨hstopped, hiff⟩ := hsound.touch hclient { client with isRunning := false } rfl
        (Or.inr fun held hheld hunready hholds => by
          obtain ⟨j, hj⟩ := List.getElem?_of_mem hheld
          obtain ⟨hbefore, hnot⟩ := hgone j held hj hunready hholds
          exact hnot (List.mem_range.2 (List.getElem?_eq_some_iff.1 hbefore).1))
      exact ⟨hstopped, fun hs => hiff.2 (hexact hs)⟩

end RequestStats

end TelegramBotApi
