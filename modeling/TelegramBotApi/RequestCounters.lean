import Mathlib.Data.List.Induction
import TelegramBotApi.RequestPromises

/-!
# The counters of the manager

No `CHECK` of a statistics actor fails in any run, and the counters of the manager are those of the unanswered
queries as long as no query is answered after its client is gone, no actor goes with a request that the
manager has not heard of, and no counted query without a promise is destroyed.
-/

namespace TelegramBotApi

namespace RequestStats

variable {s t : RequestStats} {c i : Nat} {client : StatClient} {held : SentQuery}

/-! ### Runs -/

/-- The step answers a query whose client is gone, or takes an actor away with a request that the manager
has not heard of. -/
def Loses (s : RequestStats) : StatAction → Prop
  | .resume i _ => ∃ held, s.find i false = some held ∧ held.hasPromise = true ∧ s.Orphan held
  | .wake i _ => ∃ held, s.find i false = some held ∧ s.Orphan held
  | .destroy i _ => ∃ held, s.find i false = some held ∧ held.hasPromise = true ∧ s.Orphan held
  | .hangupShared c => s.LosesRequest c
  | _ => False

theorem Sound.failQueryConflict (h : s.Sound) (hfind : s.find i true = some held)
    (hclient : s.clients.lookup c = some client) (now : ℚ) (size : Nat) :
    (s.failQueryConflict c client i now size).Sound ∧ (s.Exact → (s.failQueryConflict c client i now size).Exact) := by
  obtain ⟨hget, hunready, hholds⟩ := find_eq_some hfind
  unfold RequestStats.failQueryConflict
  split
  · obtain ⟨hsound, hexact⟩ := h.touch hclient { client with nextGetUpdatesConflictTime := now + 3 } rfl (Or.inl rfl)
    have hanswered := hsound.setAnswer hget hunready (by decide : QueryState.error ≠ .query) size
    refine ⟨hanswered.sound, fun hs => (hanswered.exact (hexact.2 hs)).2 ?_⟩
    exact hsound.not_orphan (List.mem_of_getElem? hget) (isUnanswered_of_find hfind) hholds
  · obtain ⟨hsound, hexact⟩ := h.setHeld i false nofun
    exact ⟨hsound, hexact.2⟩

theorem exists_find_iff (p : SentQuery → Prop) {isHeld : Bool} (hfind : s.find i isHeld = some held) :
    (∃ held, s.find i isHeld = some held ∧ p held) ↔ p held := by
  simp only [hfind, Option.some.injEq, exists_eq_left']

theorem Destroyed.lose (h : Destroyed s t i held) (hfind : s.find i false = some held) :
    t.Sound ∧ (s.Exact → (t.Exact ↔
      ¬ ∃ held, s.find i false = some held ∧ held.hasPromise = true ∧ s.Orphan held)) :=
  ⟨h.sound, fun hs => (h.exact hs).trans
    (not_congr (exists_find_iff (fun held => held.hasPromise = true ∧ s.Orphan held) hfind).symm)⟩

theorem Sound.answered (h : s.Sound) (hfind : s.find i true = some held) {state : QueryState} (hstate : state ≠ .query)
    (size : Nat) : (s.setAnswer i state size).Sound ∧ (s.Exact → (s.setAnswer i state size).Exact) := by
  obtain ⟨hget, hunready, hholds⟩ := find_eq_some hfind
  have hanswered := h.setAnswer hget hunready hstate size
  exact ⟨hanswered.sound, fun hs => (hanswered.exact hs).2
    (h.not_orphan (List.mem_of_getElem? hget) (isUnanswered_of_find hfind) hholds)⟩

/-- An update of a client, which no active counter sees. -/
theorem Sound.update (h : s.Sound) (c : Nat) :
    (s.addEvent c .update).Sound ∧ ((s.addEvent c .update).Exact ↔ s.Exact) := by
  cases hclient : s.clients.lookup c with
  | none =>
      have heq : s.addEvent c .update = s := by
        unfold RequestStats.addEvent
        rw [hclient]
      rw [heq]
      exact ⟨h, Iff.rfl⟩
  | some client =>
      obtain ⟨hsteady, htotal⟩ := h.steady c client hclient
      obtain ⟨stat, root, heq, hstat, hstatTotal, hempty, hroot, hrootTotal⟩ :=
        addEvent_spec .update hclient hsteady h.root
          (by rw [change_update, htotal, add_zero]
              exact s.load_nonneg _)
          (fun _ => by
            rw [change_update, add_zero]
            exact (s.load_nonneg _).trans h.covered)
      rw [heq]
      have hothers (n : Nat) (hn : n ≠ c) :
          (s.clients.insert c { client with stat := stat }).lookup n = s.clients.lookup n := AList.lookup_insert_ne hn
      have hlast : (s.clients.insert c { client with stat := stat }).lookup c = some { client with stat := stat } :=
        AList.lookup_insert _
      refine Noted.sound (c := c) (d := 0) h
        { crashed := h.crashed
          count := rfl
          placed := fun other hother => (h.placed other hother).congr le_rfl fun n x hx hr => ?_
          load := fun P => ((congrArg _ (ite_self _)).trans (add_zero _)).symm
          before := hclient
          after := hlast
          others := hothers
          steady := hstat
          total := hstatTotal
          mailbox := hempty
          root := hroot
          rootTotal := hrootTotal }
      by_cases hn : n = c
      · rw [hn, hclient] at hx
        cases hx
        exact ⟨{ client with stat := stat }, hn ▸ hlast, hr⟩
      · exact ⟨x, (hothers n hn).trans hx, hr⟩

theorem Sound.resume (h : s.Sound) (i size : Nat) :
    (s.act (.resume i size)).Sound ∧ (s.Exact → ((s.act (.resume i size)).Exact ↔ ¬ s.Loses (.resume i size))) := by
  unfold Loses
  cases hfind : s.find i false with
  | none =>
      simp only [RequestStats.act, hfind]
      refine ⟨h, fun hs => iff_of_true hs ?_⟩
      rintro ⟨held, hnone, -⟩
      cases hnone
  | some held =>
      obtain ⟨hget, hunready, -⟩ := find_eq_some hfind
      have hlost := (h.destroyQuery hget (isUnanswered_of_find hfind) size).lose hfind
      rw [hfind] at hlost
      simp only [RequestStats.act, hfind]
      cases hclient : s.clients.lookup held.client with
      | none => exact hlost
      | some client =>
          dsimp only
          by_cases hruns : client.isRunning = true
          · rw [if_pos hruns]
            obtain ⟨hsound, hexact⟩ := h.setHeld i true fun other hother _ _ => by
              rw [hget] at hother
              cases hother
              exact ⟨client, hclient, hruns⟩
            refine ⟨hsound, fun hs => iff_of_true (hexact.2 hs) ?_⟩
            rintro ⟨other, hother, -, c, hsent, hgone⟩
            cases hother
            rw [← (h.placed held (List.mem_of_getElem? hget)).own c hsent, hclient] at hgone
            cases hgone
          · rw [if_neg hruns]
            exact hlost

theorem Sound.destroy (h : s.Sound) (i size : Nat) :
    (s.destroyQuery i size).Sound ∧
      (s.Exact → ((s.destroyQuery i size).Exact ↔ ¬ s.Loses (.destroy i size))) := by
  unfold Loses
  by_cases hover : ∀ held, s.queries[i]? = some held → held.isUnanswered = false
  · rw [destroyQuery_of_over hover]
    refine ⟨h, fun hs => iff_of_true hs ?_⟩
    rintro ⟨held, hfind, -⟩
    have hfalse := hover held (find_eq_some hfind).1
    exact absurd (hfalse.symm.trans (isUnanswered_of_find hfind)) nofun
  push Not at hover
  obtain ⟨held, hget, hne⟩ := hover
  have hunanswered : held.isUnanswered = true := Bool.eq_true_of_not_eq_false hne
  have hdestroyed := h.destroyQuery hget hunanswered size
  have hfind := find_of_unanswered hget hunanswered
  cases hholds : held.isHeld with
  | false => exact hdestroyed.lose (hholds ▸ hfind)
  | true =>
      have hkept := h.not_orphan (List.mem_of_getElem? hget) hunanswered hholds
      refine ⟨hdestroyed.sound, fun hs => iff_of_true ((hdestroyed.exact hs).2 fun hlost => hkept hlost.2) ?_⟩
      rintro ⟨other, hother, -⟩
      obtain ⟨hsame, -, hfalse⟩ := find_eq_some hother
      rw [hget] at hsame
      cases hsame
      exact absurd (hholds.symm.trans hfalse) nofun

theorem Sound.act (h : s.Sound) (a : StatAction) :
    (s.act a).Sound ∧ (s.Exact → ((s.act a).Exact ↔ ¬ s.Loses a)) := by
  have hkept : s.Sound ∧ (s.Exact → (s.Exact ↔ ¬ False)) := ⟨h, fun hs => iff_of_true hs id⟩
  have htrue {t : RequestStats} (ht : t.Sound ∧ (s.Exact → t.Exact)) : t.Sound ∧ (s.Exact → (t.Exact ↔ ¬ False)) :=
    ⟨ht.1, fun hs => iff_of_true (ht.2 hs) id⟩
  cases a with
  | create => exact htrue ⟨h.createClient.1, h.createClient.2.2⟩
  | send c container files isInternal hasPromise check =>
      simp only [RequestStats.act]
      cases hclient : s.clients.lookup c with
      | none => exact hkept
      | some client =>
          dsimp only
          by_cases hruns : client.isRunning = true
          · rw [if_pos hruns]
            have hsend (query : CountedQuery) (hunready : query.isReady = false) (hnew : query.statActor = none) :=
              htrue ⟨(h.send hclient hruns hunready hnew hasPromise check).1,
                (h.send hclient hruns hunready hnew hasPromise check).2.2⟩
            exact hsend { container := container, files := files, isInternal := isInternal } rfl rfl
          · rw [if_neg hruns]
            exact hkept
  | update c =>
      obtain ⟨hsound, hexact⟩ := h.update c
      exact htrue ⟨hsound, hexact.2⟩
  | answer i ok size =>
      simp only [RequestStats.act]
      cases hfind : s.find i true with
      | none => exact hkept
      | some held =>
          dsimp only
          split
          · exact htrue (h.answered hfind (by decide : QueryState.ok ≠ .query) size)
          · exact htrue (h.answered hfind (by decide : QueryState.error ≠ .query) size)
  | conflict i now size =>
      simp only [RequestStats.act]
      cases hfind : s.find i true with
      | none => exact hkept
      | some held =>
          dsimp only
          cases hclient : s.clients.lookup held.client with
          | none => exact hkept
          | some client => exact htrue (h.failQueryConflict hfind hclient now size)
  | closing i retryAfter size =>
      simp only [RequestStats.act]
      cases hfind : s.find i true with
      | none => exact hkept
      | some held =>
          have herror := htrue (h.answered hfind (by decide : QueryState.error ≠ .query) size)
          unfold failQueryClosing
          dsimp only
          split
          · exact herror
          · exact herror
  | detach i =>
      simp only [RequestStats.act]
      cases hfind : s.find i true with
      | none => exact hkept
      | some held =>
          obtain ⟨hsound, hexact⟩ := h.setHeld i false fun _ _ _ hfalse => absurd hfalse Bool.false_ne_true
          exact htrue ⟨hsound, hexact.2⟩
  | resume i size => exact h.resume i size
  | wake i size =>
      simp only [RequestStats.act]
      cases hfind : s.find i false with
      | none =>
          refine ⟨h, fun hs => iff_of_true hs ?_⟩
          rintro ⟨held, hheld, -⟩
          rw [hfind] at hheld
          cases hheld
      | some held =>
          obtain ⟨hget, hunready, -⟩ := find_eq_some hfind
          have hanswered := h.setAnswer hget hunready (by decide : QueryState.error ≠ .query) size
          exact ⟨hanswered.sound,
            fun hs => (hanswered.exact hs).trans (not_congr (exists_find_iff s.Orphan hfind).symm)⟩
  | destroy i size => exact h.destroy i size
  | stop c size => exact htrue (h.stop c size)
  | hangupShared c => exact h.hangupShared c
  | flush c =>
      simp only [RequestStats.act]
      cases hclient : s.clients.lookup c with
      | none =>
          have heq : s.flush c = s := by
            unfold RequestStats.flush
            rw [hclient]
          rw [heq]
          exact hkept
      | some client =>
          obtain ⟨-, -, -, -, hsound, hexact⟩ := h.flush hclient
          exact htrue ⟨hsound, hexact.2⟩
  | flushRoot =>
      obtain ⟨hsound, hexact, -⟩ := h.flushRoot
      exact htrue ⟨hsound, hexact.2⟩

theorem Sound.step (h : s.Sound) (a : StatAction) :
    (s.step a).Sound ∧ (s.Exact → ((s.step a).Exact ↔ ¬ s.Loses a)) := by
  have heq : s.step a = s.act a := if_neg (by rw [h.crashed]; exact Bool.false_ne_true)
  rw [heq]
  exact h.act a

theorem sound_initial : Sound {} := by
  refine ⟨rfl, fun c client hc => ?_, nofun, fun c client hc => ?_, StatMailbox.steady_initial, ?_⟩
  · rw [AList.lookup_empty] at hc
    cases hc
  · rw [AList.lookup_empty] at hc
    cases hc
  · rw [StatMailbox.total_initial]
    exact le_rfl

theorem exact_initial : Exact {} := StatMailbox.total_initial

theorem complete_initial : Complete {} := nofun

/-- No step both loses an event and forgets a query. -/
theorem Loses.not_forgets {a : StatAction} (hloses : s.Loses a) : ¬ s.Forgets a := by
  cases a with
  | resume i size =>
      rintro ⟨held, hfind, ⟨hfalse, -⟩, -⟩
      obtain ⟨other, hother, hpromise, -⟩ := hloses
      rw [hfind] at hother
      cases hother
      exact absurd (hfalse.symm.trans hpromise) nofun
  | destroy i size =>
      rintro ⟨held, hget, -, hfalse, -⟩
      obtain ⟨other, hother, hpromise, -⟩ := hloses
      rw [(find_eq_some hother).1] at hget
      cases hget
      exact absurd (hfalse.symm.trans hpromise) nofun
  | stop c size => exact absurd hloses id
  | _ => exact id

/-! ### What the counters say -/

def unanswered (s : RequestStats) : List CountedQuery :=
  (s.queries.filter fun held => held.isUnanswered && held.query.statActor.isSome).map SentQuery.query

structure Counted (s : RequestStats) : Prop where
  requests : s.root.actor.activeRequestCount = s.unanswered.length
  fileUploads : s.root.actor.activeFileUploadCount = (s.unanswered.map fun q => (q.fileCount : ℤ)).sum
  fileUploadBytes : s.root.actor.activeFileUploadBytes = (s.unanswered.map fun q => (q.filesSize : ℤ)).sum

structure Quiet (s : RequestStats) : Prop where
  clients : ∀ c client, s.clients.lookup c = some client → ∀ event, .addEvent event ∉ client.stat.mailbox
  root : ∀ event, .addEvent event ∉ s.root.mailbox

def forgotten (s : RequestStats) : List CountedQuery := (s.queries.filter SentQuery.isForgotten).map SentQuery.query

def weightOf (queries : List CountedQuery) : StatCounter → ℤ := (queries.map CountedQuery.weight).sum

theorem complete_iff : s.Complete ↔ s.forgotten = [] := by
  unfold Complete forgotten
  rw [List.map_eq_nil_iff, List.filter_eq_nil_iff]
  exact forall₂_congr fun held _ => Bool.not_eq_true _ ▸ Iff.rfl

theorem weightOf_requests (queries : List CountedQuery) : weightOf queries .requests = queries.length := by
  induction queries with
  | nil => rfl
  | cons q queries ih =>
      unfold weightOf at ih ⊢
      rw [List.map_cons, List.sum_cons, Pi.add_apply, ih, List.length_cons, Nat.cast_succ, add_comm]
      rfl

theorem weightOf_apply (queries : List CountedQuery) (k : StatCounter) :
    weightOf queries k = (queries.map fun q => q.weight k).sum := by
  induction queries with
  | nil => rfl
  | cons q queries ih =>
      unfold weightOf at ih ⊢
      rw [List.map_cons, List.sum_cons, Pi.add_apply, ih, List.map_cons, List.sum_cons]

theorem load_all (s : RequestStats) : (s.load fun _ => true) = weightOf s.unanswered + weightOf s.forgotten := by
  unfold load unanswered forgotten weightOf
  induction s.queries with
  | nil => rfl
  | cons held queries ih =>
      rw [List.map_cons, List.sum_cons, ih, List.filter_cons, List.filter_cons]
      unfold SentQuery.isUnanswered SentQuery.isForgotten
      cases hready : held.query.isReady with
      | true =>
          rw [SentQuery.load_of_ready hready, zero_add]
          rfl
      | false =>
          cases hsent : held.query.statActor with
          | none =>
              rw [SentQuery.load_of_internal hsent, zero_add, Option.isSome_none, Bool.and_false, Bool.and_false]
              rfl
          | some c =>
              rw [SentQuery.load_of_sent hready hsent, if_pos rfl]
              cases held.isDestroyed with
              | false => exact (add_assoc _ _ _).symm
              | true => exact add_left_comm _ _ _

theorem counted_iff : s.Counted ↔ s.root.actor.active = weightOf s.unanswered := by
  constructor
  · rintro ⟨hrequests, huploads, hbytes⟩
    funext k
    cases k with
    | requests => exact hrequests.trans (weightOf_requests _).symm
    | fileUploads => exact huploads.trans (weightOf_apply _ .fileUploads).symm
    | fileUploadBytes => exact hbytes.trans (weightOf_apply _ .fileUploadBytes).symm
  · intro h
    have hk (k : StatCounter) := (congrFun h k).trans (weightOf_apply s.unanswered k)
    exact ⟨(congrFun h .requests).trans (weightOf_requests _), hk .fileUploads, hk .fileUploadBytes⟩

theorem pending_eq_zero {messages : List StatMessage} (h : ∀ event, .addEvent event ∉ messages) :
    StatMailbox.pending messages = 0 := by
  refine List.sum_eq_zero fun x hx => ?_
  obtain ⟨m, hm, rfl⟩ := List.mem_map.1 hx
  cases m with
  | start => rfl
  | addEvent event => exact absurd hm (h event)

/-- Where no message is in flight, what the manager is to count is what it counts. -/
theorem Sound.root_eq (h : s.Sound) (hquiet : s.Quiet) :
    s.root.actor.active = (s.load fun _ => true) ↔ s.Exact := by
  have hroot : s.root.total = s.root.actor.active := by
    unfold StatMailbox.total
    rw [pending_eq_zero hquiet.root, add_zero]
  have hunheard : s.load (fun c => !s.heard c) = 0 := load_eq_zero fun held hheld hunready c hsent => by
    rw [Bool.not_eq_false']
    cases hclient : s.clients.lookup c with
    | none =>
        unfold heard
        rw [hclient]
        rfl
    | some client =>
        obtain ⟨hsteady, htotal⟩ := h.steady c client hclient
        rw [heard_of_lookup hclient, List.isEmpty_iff]
        by_contra hne
        have hzero : client.stat.total = 0 := by
          unfold StatMailbox.total
          rw [hsteady.waiting hne, pending_eq_zero (hquiet.clients c client hclient), add_zero]
        have hpos := load_pos hheld hunready hsent
        rw [← htotal, hzero] at hpos
        exact lt_irrefl _ hpos
  have hall : s.load (fun _ => true) = s.load s.heard + s.load (fun c => !s.heard c) :=
    load_add (fun c => (Bool.or_not_self _).symm) fun c hc => by rw [hc]; rfl
  rw [hall, hunheard, add_zero, ← hroot]
  exact Iff.rfl

/-- The counters are right exactly if nothing was lost and nothing forgotten, where not both have happened. -/
theorem Sound.counted_iff (h : s.Sound) (hquiet : s.Quiet) (hone : s.Exact ∨ s.Complete) :
    s.Counted ↔ s.Exact ∧ s.Complete := by
  have hroot := h.root_eq hquiet
  rw [RequestStats.counted_iff]
  rw [s.load_all] at hroot
  by_cases hcomplete : s.Complete
  · have hnone : weightOf s.forgotten = 0 := by
      rw [complete_iff.1 hcomplete]
      rfl
    rw [hnone, add_zero] at hroot
    exact hroot.trans (and_iff_left hcomplete).symm
  · refine iff_of_false (fun hcounted => hcomplete ?_) fun hboth => hcomplete hboth.2
    have hexact := hroot.2 (hone.resolve_right hcomplete)
    rw [hcounted, left_eq_add] at hexact
    have hlength := (weightOf_requests s.forgotten).symm.trans (congrFun hexact .requests)
    exact complete_iff.2 (List.length_eq_zero_iff.1 (Int.natCast_eq_zero.1 hlength))

def IsFlush : StatAction → Prop
  | .flush _ => True
  | .flushRoot => True
  | _ => False

theorem Sound.step_flush (h : s.Sound) {a : StatAction} (ha : IsFlush a) :
    (s.step a).Sound ∧ ((s.step a).Exact ↔ s.Exact) := by
  have heq : s.step a = s.act a := if_neg (by rw [h.crashed]; exact Bool.false_ne_true)
  rw [heq]
  cases a with
  | flushRoot =>
      obtain ⟨hsound, hexact, -⟩ := h.flushRoot
      exact ⟨hsound, hexact⟩
  | flush c =>
      simp only [RequestStats.act]
      cases hclient : s.clients.lookup c with
      | none =>
          have hsame : s.flush c = s := by
            unfold RequestStats.flush
            rw [hclient]
          rw [hsame]
          exact ⟨h, Iff.rfl⟩
      | some client =>
          obtain ⟨-, -, -, -, hsound, hexact⟩ := h.flush hclient
          exact ⟨hsound, hexact⟩
  | _ => exact absurd ha id

theorem Sound.complete_flush (h : s.Sound) {a : StatAction} (ha : IsFlush a) : (s.step a).Complete ↔ s.Complete := by
  refine (h.complete_step a).trans (and_iff_left ?_)
  cases a with
  | flush c => exact id
  | flushRoot => exact id
  | _ => exact absurd ha id

theorem Sound.run_flushes (h : s.Sound) {flushes : List StatAction} (hflushes : ∀ a ∈ flushes, IsFlush a) :
    let t := StepRun.run RequestStats.step s flushes
    t.Sound ∧ (t.Exact ↔ s.Exact) ∧ (t.Complete ↔ s.Complete) := by
  induction flushes generalizing s with
  | nil => exact ⟨h, Iff.rfl, Iff.rfl⟩
  | cons a flushes ih =>
      have ha := hflushes a List.mem_cons_self
      obtain ⟨hsound, hexact⟩ := h.step_flush ha
      obtain ⟨hrest, hiff, hcomplete⟩ := ih hsound fun b hb => hflushes b (List.mem_cons_of_mem _ hb)
      exact ⟨hrest, hiff.trans hexact, hcomplete.trans (h.complete_flush ha)⟩

/-- Where the counters were right, one step cannot make them wrong in both ways. -/
theorem Sound.step_good (h : s.Sound) (hgood : s.Exact ∧ s.Complete) (a : StatAction) :
    ((s.step a).Exact ∨ (s.step a).Complete) ∧
      ((s.step a).Exact ∧ (s.step a).Complete ↔ ¬ s.Loses a ∧ ¬ s.Forgets a) := by
  have hexact := (h.step a).2 hgood.1
  have hcomplete := (h.complete_step a).trans (and_iff_right hgood.2)
  refine ⟨?_, and_congr hexact hcomplete⟩
  by_cases hloses : s.Loses a
  · exact Or.inr (hcomplete.2 hloses.not_forgets)
  · exact Or.inl (hexact.2 hloses)

/-- The actors of some clients run the messages that they have. -/
theorem Sound.run_flush_clients (h : s.Sound) (clients : List Nat) :
    ∀ c client, (StepRun.run RequestStats.step s (clients.map .flush)).clients.lookup c = some client →
      client.stat.mailbox = [] ∨ (c ∉ clients ∧ s.clients.lookup c = some client) := by
  induction clients generalizing s with
  | nil => exact fun c client hclient => .inr ⟨List.not_mem_nil, hclient⟩
  | cons first clients ih =>
      intro c client hclient
      rw [List.map_cons, StepRun.run_cons] at hclient
      obtain hempty | ⟨hnot, hbefore⟩ := ih (h.step_flush (a := .flush first) trivial).1 c client hclient
      · exact .inl hempty
      have hact : s.step (.flush first) = s.flush first := if_neg (by rw [h.crashed]; exact Bool.false_ne_true)
      rw [hact] at hbefore
      cases hfirst : s.clients.lookup first with
      | none =>
          have hsame : s.flush first = s := by
            unfold RequestStats.flush
            rw [hfirst]
          rw [hsame] at hbefore
          refine .inr ⟨List.not_mem_cons_of_ne_of_not_mem (fun heq => ?_) hnot, hbefore⟩
          rw [heq, hfirst] at hbefore
          cases hbefore
      | some other =>
          obtain ⟨stat, root, heq, hmailbox, -⟩ := h.flush hfirst
          rw [heq] at hbefore
          by_cases hc : c = first
          · rw [hc] at hbefore
            cases (AList.lookup_insert _).symm.trans hbefore
            exact .inl hmailbox
          · exact .inr ⟨List.not_mem_cons_of_ne_of_not_mem hc hnot, (AList.lookup_insert_ne hc).symm.trans hbefore⟩

/-- All messages in flight can arrive. -/
theorem Sound.exists_quiet (h : s.Sound) :
    ∃ flushes, (∀ a ∈ flushes, IsFlush a) ∧ (StepRun.run RequestStats.step s flushes).Quiet := by
  have hclients : ∀ a ∈ s.clients.keys.map StatAction.flush, IsFlush a := fun a ha => by
    obtain ⟨c, -, rfl⟩ := List.mem_map.1 ha
    exact trivial
  have hsound := (h.run_flushes hclients).1
  obtain ⟨-, -, htable, -, hroot⟩ := hsound.flushRoot
  have hact : (StepRun.run RequestStats.step s (s.clients.keys.map .flush)).step .flushRoot =
      (StepRun.run RequestStats.step s (s.clients.keys.map .flush)).flushRoot :=
    if_neg (by rw [hsound.crashed]; exact Bool.false_ne_true)
  refine ⟨s.clients.keys.map .flush ++ [.flushRoot], fun a ha => ?_, ?_⟩
  · rcases List.mem_append.1 ha with ha | ha
    · exact hclients a ha
    · rw [List.mem_singleton.1 ha]
      exact trivial
  · rw [StepRun.run_concat, hact]
    refine ⟨fun c client hclient event hevent => ?_, fun event hevent => ?_⟩
    · rw [htable] at hclient
      obtain hempty | ⟨hnot, hbefore⟩ := h.run_flush_clients s.clients.keys c client hclient
      · rw [hempty] at hevent
        cases hevent
      · exact hnot (AList.mem_keys.1 (AList.lookup_isSome.1 (by rw [hbefore]; rfl)))
    · rw [hroot] at hevent
      cases hevent

/-- In every run no `CHECK` of a statistics actor fails and no counter of the manager is negative. They count the
unanswered queries whenever no message is in flight, now or later, if and only if no step of the run answers a
query whose client is gone, takes an actor away with a request that the manager has not heard of, or destroys a
counted query that has no promise. -/
theorem request_counters (actions : List StatAction) :
    let t := StepRun.run step {} actions
    (t.crashed = false ∧ 0 ≤ t.root.actor.activeRequestCount ∧ 0 ≤ t.root.actor.activeFileUploadCount ∧
      0 ≤ t.root.actor.activeFileUploadBytes) ∧
    ((∀ before flushes, before <+: actions → (∀ a ∈ flushes, IsFlush a) →
        (StepRun.run step {} (before ++ flushes)).Quiet → (StepRun.run step {} (before ++ flushes)).Counted) ↔
      StepRun.AllSteps step (fun s a => ¬ s.Loses a ∧ ¬ s.Forgets a) {} actions) := by
  have hsound (actions : List StatAction) : (StepRun.run step {} actions).Sound :=
    StepRun.run_invariant_always (I := Sound) (fun s a h => (h.step a).1) sound_initial actions
  have hgood := StepRun.allSteps_good_iff (I := Sound) (fun s a h => (h.step a).1)
    (fun s a h (hs : s.Exact ∧ s.Complete) => (h.step_good hs a).2) sound_initial ⟨exact_initial, complete_initial⟩
  -- the flushes of a run are those of the state they start from
  have hflush (before flushes : List StatAction) (hflushes : ∀ a ∈ flushes, IsFlush a)
      (hquiet : (StepRun.run step {} (before ++ flushes)).Quiet)
      (hone : (StepRun.run step {} before).Exact ∨ (StepRun.run step {} before).Complete) :
      (StepRun.run step {} (before ++ flushes)).Counted ↔
        (StepRun.run step {} before).Exact ∧ (StepRun.run step {} before).Complete := by
    obtain ⟨hlast, hexact, hcomplete⟩ := (hsound before).run_flushes hflushes
    rw [← StepRun.run_append] at hlast hexact hcomplete
    exact (hlast.counted_iff hquiet (hone.imp hexact.2 hcomplete.2)).trans (and_congr hexact hcomplete)
  refine ⟨?_, ?_⟩
  · have hnonneg := (hsound actions).root.active_nonneg
    exact ⟨(hsound actions).crashed, hnonneg .requests, hnonneg .fileUploads, hnonneg .fileUploadBytes⟩
  · rw [← hgood actions, StepRun.allSteps_iff_split]
    constructor
    · intro hcounted before a after hsplit
      have hall (front : List StatAction) (hfront : front <+: actions) :
          (StepRun.run step {} front).Exact ∧ (StepRun.run step {} front).Complete := by
        induction front using List.reverseRecOn with
        | nil => exact ⟨exact_initial, complete_initial⟩
        | append_singleton front b ih =>
            have hbefore := ih ((List.prefix_append _ _).trans hfront)
            obtain ⟨hone, -⟩ := (hsound front).step_good hbefore b
            rw [← StepRun.run_concat step {} front b] at hone
            obtain ⟨flushes, hflushes, hquiet⟩ := (hsound (front ++ [b])).exists_quiet
            rw [← StepRun.run_append] at hquiet
            exact (hflush _ flushes hflushes hquiet hone).1 (hcounted _ flushes hfront hflushes hquiet)
      rw [← StepRun.run_concat step {} before a]
      exact hall (before ++ [a]) ⟨after, by rw [hsplit, List.append_assoc]; rfl⟩
    · intro hall before flushes hprefix hflushes hquiet
      have hbefore : (StepRun.run step {} before).Exact ∧ (StepRun.run step {} before).Complete := by
        rcases List.eq_nil_or_concat before with rfl | ⟨front, a, rfl⟩
        · exact ⟨exact_initial, complete_initial⟩
        · obtain ⟨after, hafter⟩ := hprefix
          rw [List.concat_eq_append] at hafter ⊢
          rw [StepRun.run_concat]
          exact hall front a after (by rw [← hafter, List.append_assoc]; rfl)
      exact (hflush before flushes hflushes hquiet (Or.inl hbefore.1)).2 hbefore

/-- The second conflict within three seconds is answered when its client is gone, and stays counted. -/
theorem delayed_answer_lost :
    let check : FloodCheck := { localMode := true, isLocalMethod := false, isWarm := false, updatePerMinute := 0 }
    let actions : List StatAction := [.create, .flush 0, .flushRoot, .send 0 [] [] false true check,
      .send 0 [] [] false true check, .conflict 0 100 0, .conflict 1 101 0, .stop 0 0, .hangupShared 0, .wake 1 0]
    let t := StepRun.run step {} actions
    (t.Quiet ∧ t.unanswered = [] ∧ t.root.actor.activeRequestCount = 1) ∧
      ¬ ∀ actions, (StepRun.run step {} actions).Quiet → (StepRun.run step {} actions).Counted := by
  intro check actions t
  have heval : t.clients.keys = [] ∧ t.root.mailbox.length = 0 ∧ t.unanswered.length = 0 ∧
      t.root.actor.activeRequestCount = 1 := by
    decide +kernel
  obtain ⟨hclients, hroot, hunanswered, hcount⟩ := heval
  have hquiet : t.Quiet := by
    refine ⟨fun c client hclient => ?_, fun event hevent => ?_⟩
    · have hmem : c ∈ t.clients.keys := AList.mem_keys.1 (AList.lookup_isSome.1 (by rw [hclient]; rfl))
      rw [hclients] at hmem
      cases hmem
    · rw [List.length_eq_zero_iff.1 hroot] at hevent
      cases hevent
  refine ⟨⟨hquiet, List.length_eq_zero_iff.1 hunanswered, hcount⟩, fun h => ?_⟩
  have hcounted : t.root.actor.activeRequestCount = t.unanswered.length := (h actions hquiet).requests
  rw [hcount, hunanswered] at hcounted
  exact absurd hcounted (by decide)

end RequestStats

end TelegramBotApi
