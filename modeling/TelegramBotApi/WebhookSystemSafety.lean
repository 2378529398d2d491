import TelegramBotApi.WebhookSystem

/-!
# Webhooks and internal addresses

Outside the local mode only public addresses are reported, so only such addresses are stored. `Secured`
says this of the settings of a client, of the queries that wait in it and of its effects; it does not
cover the settings of a webhook that still waits for its first report, since these are never stored.
With it every actor starts with a fixed address, which it checks, or with a public one.
-/

namespace TelegramBotApi

/-- The text of an address that may be reported outside the local mode. -/
def SafeText (text : Slice) : Prop := text = [] ∨ ∃ a, (IPAddress.ipv4 a 0).IsPublic ∧ text = ipv4Str a

theorem safeText_nil : SafeText [] := Or.inl rfl

theorem SafeText.no_slash {text : Slice} (h : SafeText text) : '/' ∉ text := by
  rcases h with rfl | ⟨a, -, rfl⟩
  · simp
  · exact notMem_ipv4Str rfl (by decide) a

theorem IPAddress.safeText {inet : InetText} {address : IPAddress} (h : address = .invalid ∨ address.IsPublic) :
    SafeText (address.verifiedText inet) := by
  cases address with
  | invalid => exact safeText_nil
  | ipv4 a port => exact Or.inr ⟨a, h.resolve_left (by simp), rfl⟩
  | ipv6 a port => exact absurd (h.resolve_left (by simp)) id

namespace WebhookSettings

/-- What the text of the settings is decoded by. -/
structure Shape (w : WebhookSettings) : Prop where
  url : ∀ tag, ¬ '#' :: tag <+: w.url
  maxConnections : 0 ≤ w.maxConnections
  secretToken : '/' ∉ w.secretToken

theorem shape_empty (hasCertificate : Bool) : Shape { hasCertificate := hasCertificate } :=
  ⟨fun _ => by simp, Int.le_refl 0, by simp⟩

/-- Settings whose address may be stored. -/
structure Storable (w : WebhookSettings) : Prop extends w.Shape where
  address : SafeText w.ipAddress

/-- Settings that an actor may be created with. -/
def Checkable (w : WebhookSettings) : Prop := w.fixIpAddress = true ∨ SafeText w.ipAddress

end WebhookSettings

/-- An internal request was decoded from settings that may be stored. -/
def BotQuery.Trusted (query : BotQuery) : Prop :=
  query.isInternal = true → ∃ w mask, w.Storable ∧ WebhookSettings.Restored w mask query

theorem BotQuery.Trusted.restored {w : WebhookSettings} (h : w.Storable) (mask : Nat) (token : Slice) :
    (getWebhookRestoreQuery token (saveWebhook w mask)).Trusted := fun _ =>
  ⟨w, mask, h, WebhookSettings.restored mask token h.url h.maxConnections h.address.no_slash h.secretToken⟩

theorem BotQuery.Trusted.checkable {query : BotQuery} (h : query.Trusted) (P : WebhookParameters)
    (hasCertificate : Bool) : (installedWebhook P query hasCertificate).Checkable := by
  cases hinternal : query.isInternal with
  | true =>
      obtain ⟨w, mask, hw, hrestored⟩ := h hinternal
      refine Or.inr ?_
      change SafeText (query.arg "ip_address".toList)
      rw [hrestored.ipAddress]
      exact hw.address
  | false =>
      by_cases hempty : query.arg "ip_address".toList = []
      · refine Or.inr ?_
        change SafeText (query.arg "ip_address".toList)
        rw [hempty]
        exact safeText_nil
      · refine Or.inl ?_
        change query.getWebhookFixIpAddress = true
        unfold BotQuery.getWebhookFixIpAddress
        rw [hinternal, if_neg Bool.false_ne_true]
        exact decide_eq_true hempty

namespace ClientWebhookEffect

/-- The effect stores nothing that is not to be trusted, and creates no actor with it. -/
def Safe : ClientWebhookEffect → Prop
  | .saveWebhook value => ∃ w mask, WebhookSettings.Storable w ∧ value = TelegramBotApi.saveWebhook w mask
  | .createWebhook _ settings => settings.Checkable
  | _ => True

end ClientWebhookEffect

namespace ClientWebhook

variable {inet : InetPton} {P : WebhookParameters} {s t : ClientWebhook}

/-- What is stored, and what waits to become a webhook, can be trusted. -/
structure Trusting (s : ClientWebhook) : Prop where
  shape : s.settings.Shape
  noUrl : s.settings.url = [] → SafeText s.settings.ipAddress
  set : ∀ q ∈ s.webhookSetQuery, q.query.Trusted
  active : ∀ q ∈ s.activeWebhookSetQuery, q.query.Trusted ∧ '/' ∉ q.query.arg "secret_token".toList
  out : ∀ effect ∈ s.out, effect.Safe

/-- Only the settings of a webhook that waits for its first report are exempt. -/
structure Secured (s : ClientWebhook) : Prop extends Trusting s where
  address : s.isClosing = true ∨ s.webhookSetQuery.isSome = true ∨ SafeText s.settings.ipAddress

theorem Trusting.emit (h : Trusting s) {effect : ClientWebhookEffect} (heffect : effect.Safe) :
    Trusting (s.emit effect) := by
  refine ⟨h.shape, h.noUrl, h.set, h.active, fun e he => ?_⟩
  cases List.mem_append.1 he with
  | inl hold => exact h.out e hold
  | inr hnew =>
      cases List.mem_singleton.1 hnew
      exact heffect

theorem Secured.emit (h : Secured s) {effect : ClientWebhookEffect} (heffect : effect.Safe) :
    Secured (s.emit effect) := ⟨h.toTrusting.emit heffect, h.address⟩

/-- If the handler went through, the invariant holds. -/
def Secures (r : Except WebhookAssertion ClientWebhook) : Prop := ∀ t, r = .ok t → Secured t

theorem Secured.secures (h : Secured s) : Secures (.ok s) := fun _ ht => by
  cases ht
  exact h

theorem secures_error (assertion : WebhookAssertion) : Secures (.error assertion) := fun _ ht => by cases ht

theorem Secured.respond (h : Secured s) (query : PromisedQuery) (answer : QueryAnswer) :
    Secures (s.respond query answer) := by
  have hsafe : ClientWebhookEffect.Safe (.answered query.query answer) := trivial
  unfold ClientWebhook.respond
  split_ifs
  · exact secures_error _
  · exact (h.emit hsafe).secures

/-- The settings that are in place may be stored. -/
theorem Secured.saveWebhook (h : Secured s) (haddress : SafeText s.settings.ipAddress) : Secured s.saveWebhook :=
  h.emit ⟨s.settings, s.allowedUpdateTypes, ⟨h.shape, haddress⟩, rfl⟩

theorem Secured.withCertificate (h : Secured s) (hasCertificate : Bool) : Secured (s.withCertificate hasCertificate) :=
  ⟨⟨⟨h.shape.url, h.shape.maxConnections, h.shape.secretToken⟩, h.noUrl, h.set, h.active, h.out⟩, h.address⟩

theorem shape_installedWebhook {query : BotQuery} {u : HttpUrl}
    (hurl : HttpUrl.parseUrl inet (query.arg "url".toList) .https = .ok u)
    (hsecret : '/' ∉ query.arg "secret_token".toList) (hasCertificate : Bool) :
    (installedWebhook P query hasCertificate).Shape := by
  refine ⟨fun _ => WebhookSettings.not_prefix_url (HttpUrl.parseUrl_head inet hurl), ?_, hsecret⟩
  have hbounds := WebhookSettings.maxWebhookConnections_bounds P
  change 0 ≤ query.getWebhookMaxConnections P
  unfold BotQuery.getWebhookMaxConnections BotQuery.getIntegerArg
  dsimp only
  split_ifs <;> omega

theorem Secured.finishSetWebhook (h : Secured s) {query : PromisedQuery} (htrusted : query.query.Trusted)
    (hsecret : '/' ∉ query.query.arg "secret_token".toList) (now : Int) :
    Secures (s.finishSetWebhook inet P query now) := by
  unfold ClientWebhook.finishSetWebhook
  split
  · exact secures_error _
  split
  · exact secures_error _
  split
  · exact secures_error _
  split
  · exact h.respond query _
  split
  · exact secures_error _
  · rename_i hempty
    split
    · exact secures_error _
    · rename_i u hurl
      refine Secured.secures ⟨⟨shape_installedWebhook hurl hsecret _, fun hnil => absurd hnil hempty, ?_, h.active,
        fun effect hmem => ?_⟩, Or.inr (Or.inl rfl)⟩
      · intro q hq
        cases hq
        exact htrusted
      · cases List.mem_append.1 hmem with
        | inl hold => exact h.out effect hold
        | inr hnew =>
            cases List.mem_singleton.1 hnew
            exact htrusted.checkable P _

theorem checkWebhook_secret {query : BotQuery} (hcheck : checkWebhook inet query = .ok ()) :
    '/' ∉ query.arg "secret_token".toList := by
  unfold checkWebhook at hcheck
  split at hcheck
  · cases hcheck
  · split_ifs at hcheck with _ hsecret
    exact WebhookSettings.slash_notMem_secret hsecret

theorem Secured.startSetWebhook (h : Secured s) {query : PromisedQuery} (htrusted : query.query.Trusted)
    (hsecret : '/' ∉ query.query.arg "secret_token".toList) (now : Int) :
    Secures (s.startSetWebhook inet P query now) := by
  unfold ClientWebhook.startSetWebhook
  split
  · exact h.respond query _
  split
  · exact secures_error _
  split
  · exact (h.withCertificate _).finishSetWebhook htrusted hsecret now
  · split
    · exact h.finishSetWebhook htrusted hsecret now
    · split_ifs
      · exact h.respond query _
      · exact secures_error _
      · refine Secured.secures ⟨⟨h.shape, h.noUrl, h.set, ?_, h.out⟩, h.address⟩
        intro q hq
        cases hq
        exact ⟨htrusted, hsecret⟩

theorem Secured.checkSetWebhook (h : Secured s) {query : PromisedQuery} (htrusted : query.query.Trusted)
    (wasDeleted : Bool) (now : Int) : Secures (s.checkSetWebhook inet P query wasDeleted now) := by
  unfold ClientWebhook.checkSetWebhook
  split
  · exact h.respond query _
  · split
    · exact h.respond query _
    · rename_i hcheck
      exact h.startSetWebhook htrusted (checkWebhook_secret hcheck) now

theorem Secured.clearTqueue (h : Secured s) : Secures s.clearTqueue := by
  have hsafe : ClientWebhookEffect.Safe .clearTqueue := trivial
  unfold ClientWebhook.clearTqueue
  split_ifs
  · exact secures_error _
  · exact (h.emit hsafe).secures

theorem Secured.doSetWebhook (h : Secured s) {query : PromisedQuery} (htrusted : query.query.Trusted)
    (wasDeleted : Bool) (now : Int) : Secures (s.doSetWebhook inet P query wasDeleted now) := by
  have hclear := h.clearTqueue
  unfold ClientWebhook.doSetWebhook
  split
  · exact secures_error _
  split
  · exact h.respond query _
  split
  · split
    · exact secures_error _
    · rename_i t ht
      exact (hclear t ht).checkSetWebhook htrusted wasDeleted now
  · exact h.checkSetWebhook htrusted wasDeleted now

theorem Secured.onWebhookCertificateCopied (h : Secured s) (success : Bool) (now : Int) :
    Secures (s.onWebhookCertificateCopied inet P success now) := by
  unfold ClientWebhook.onWebhookCertificateCopied
  split
  · exact secures_error _
  · rename_i query hquery
    obtain ⟨htrusted, hsecret⟩ := h.active query hquery
    have htaken : Secured { s with activeWebhookSetQuery := none } :=
      ⟨⟨h.shape, h.noUrl, h.set, fun q hq => (by cases hq), h.out⟩, h.address⟩
    dsimp only
    split_ifs
    · exact (htaken.withCertificate true).finishSetWebhook htrusted hsecret now
    · exact htaken.respond query _

theorem Trusting.replaceWebhook (h : Trusting s) {query : BotQuery} (htrusted : query.Trusted) (now : Int) :
    Secures (s.replaceWebhook inet P query now) := by
  have hnext : Trusting { s with webhookGeneration := s.webhookGeneration + 1 } :=
    ⟨h.shape, h.noUrl, h.set, h.active, h.out⟩
  have hwaits : ∀ q ∈ some { query := query }, PromisedQuery.query q |>.Trusted := fun q hq => by
    cases hq
    exact htrusted
  unfold ClientWebhook.replaceWebhook
  dsimp only
  split
  · split
    · exact secures_error _
    · refine Secured.secures ⟨?_, Or.inr (Or.inl rfl)⟩
      cases s.webhookId with
      | none => exact ⟨h.shape, h.noUrl, hwaits, h.active, h.out⟩
      | some generation =>
          have hclose := hnext.emit (show ClientWebhookEffect.Safe (.closeWebhook generation) from trivial)
          exact ⟨h.shape, h.noUrl, hwaits, h.active, hclose.out⟩
  · rename_i hurl
    have hempty : s.settings.url = [] := not_not.1 hurl
    exact Secured.doSetWebhook ⟨hnext, Or.inr (Or.inr (h.noUrl hempty))⟩ htrusted false now

theorem Secured.dropPending (h : Secured s) : Trusting { s with webhookSetQuery := none } :=
  ⟨h.shape, h.noUrl, fun q hq => (by cases hq), h.active, h.out⟩

theorem respond_ok {query : PromisedQuery} {answer : QueryAnswer} (ht : s.respond query answer = .ok t) :
    t = s.emit (.answered query.query answer) := by
  unfold ClientWebhook.respond at ht
  split_ifs at ht
  cases ht
  rfl

theorem Secured.changeWebhook (h : Secured s) (hclosing : s.isClosing = false) {query : BotQuery}
    (htrusted : query.Trusted) (now : Int) : Secures (s.changeWebhook inet P query now) := by
  unfold ClientWebhook.changeWebhook
  cases hset : s.webhookSetQuery with
  | some pending =>
      dsimp only
      split
      · exact secures_error _
      · rename_i u hu
        rw [respond_ok hu]
        have hanswered (a : QueryAnswer) : ClientWebhookEffect.Safe (.answered pending.query a) := trivial
        exact (h.dropPending.emit (hanswered _)).replaceWebhook htrusted now
  | none =>
      -- the settings in place were verified
      have haddress : SafeText s.settings.ipAddress := by
        have haddress := h.address
        rw [hclosing, hset] at haddress
        simpa using haddress
      dsimp only
      split
      · exact h.respond _ _
      split
      · refine Secured.respond ?_ _ _
        split_ifs
        · refine Secured.saveWebhook ?_ haddress
          exact ⟨⟨h.shape, h.noUrl, fun q hq => (by cases hq), h.active, h.out⟩, Or.inr (Or.inr haddress)⟩
        · exact h
      · exact h.toTrusting.replaceWebhook htrusted now

theorem Secured.processSetWebhookQuery (h : Secured s) (hclosing : s.isClosing = false) {query : BotQuery}
    (htrusted : query.Trusted) (now : Int) : Secures (s.processSetWebhookQuery inet P query now) := by
  have hlimited : Secured { s with nextAllowedSetWebhookTime := now + 10 ^ 9 } :=
    ⟨⟨h.shape, h.noUrl, h.set, h.active, h.out⟩, h.address⟩
  unfold ClientWebhook.processSetWebhookQuery
  split
  · split
    · exact h.respond _ _
    · exact hlimited.changeWebhook hclosing htrusted now
  · exact h.changeWebhook hclosing htrusted now

theorem Secured.webhookVerified (h : Secured s) (generation : Nat) {text : Slice} (htext : SafeText text) :
    Secures (s.webhookVerified generation text) := by
  have hreported : Secured { s with
      settings := { s.settings with ipAddress := text }
      webhookSetQuery := none } :=
    ⟨⟨⟨h.shape.url, h.shape.maxConnections, h.shape.secretToken⟩, fun _ => htext, fun q hq => (by cases hq),
      h.active, h.out⟩, Or.inr (Or.inr htext)⟩
  unfold ClientWebhook.webhookVerified
  split
  · exact h.secures
  dsimp only
  cases hset : s.webhookSetQuery with
  | none =>
      dsimp only
      split
      · exact (hreported.saveWebhook htext).secures
      · exact hreported.secures
  | some query =>
      dsimp only
      split
      · exact secures_error _
      · rename_i u hu
        rw [respond_ok hu]
        refine (Secured.saveWebhook ?_ htext).secures
        exact hreported.emit (show ClientWebhookEffect.Safe (.answered query.query _) from trivial)

theorem Secured.onWebhookClosed (h : Secured s) (status : Option Status) (now : Int) :
    Secures (s.onWebhookClosed inet P status now) := by
  have hempty : Secured { s with webhookId := none, settings := {}, webhookSetQuery := none } :=
    ⟨⟨WebhookSettings.shape_empty false, fun _ => safeText_nil, fun q hq => (by cases hq), h.active, h.out⟩,
      Or.inr (Or.inr safeText_nil)⟩
  have hnone := hempty.emit (show ClientWebhookEffect.Safe .eraseWebhook from trivial)
  unfold ClientWebhook.onWebhookClosed
  cases hset : s.webhookSetQuery with
  | none => exact hnone.secures
  | some query =>
      dsimp only
      split
      · exact hnone.respond query _
      · exact hnone.doSetWebhook (h.set query hset) true now

theorem Secured.webhookClosed (h : Secured s) (status : Option Status) (now : Int) :
    Secures (s.webhookClosed inet P status now) := by
  unfold ClientWebhook.webhookClosed
  split
  · exact Secured.secures ⟨⟨h.shape, h.noUrl, h.set, h.active, h.out⟩, h.address⟩
  · exact h.onWebhookClosed status now

theorem Secured.finishClosing (h : Secured s) : Secures s.finishClosing := by
  have hclear := h.clearTqueue
  unfold ClientWebhook.finishClosing
  split
  · split
    · exact secures_error _
    · rename_i u hu
      have hcleared := hclear u hu
      exact Secured.secures ⟨⟨hcleared.shape, hcleared.noUrl, hcleared.set, hcleared.active, hcleared.out⟩,
        hcleared.address⟩
  · exact Secured.secures ⟨⟨h.shape, h.noUrl, h.set, h.active, h.out⟩, h.address⟩

/-- What is left of a member was there before, up to its answer. -/
theorem failMemberClosing_ok {query query' : Option PromisedQuery} {now : Int}
    (hfail : s.failMemberClosing query now = .ok (query', t)) :
    (∀ q ∈ query', ∃ q' ∈ query, q.query = q'.query) ∧ (t = s ∨ ∃ q answer, t = s.emit (.answered q answer)) := by
  unfold ClientWebhook.failMemberClosing at hfail
  cases query with
  | none =>
      cases hfail
      exact ⟨fun q hq => (by cases hq), Or.inl rfl⟩
  | some query =>
      dsimp only at hfail
      split_ifs at hfail
      · cases hfail
        refine ⟨fun q hq => ?_, Or.inl rfl⟩
        cases hq
        exact ⟨query, rfl, rfl⟩
      · cases hfail
        exact ⟨fun q hq => (by cases hq), Or.inr ⟨_, _, rfl⟩⟩

theorem Trusting.failMemberClosing (h : Trusting s) {query query' : Option PromisedQuery} {now : Int}
    (hfail : s.failMemberClosing query now = .ok (query', t)) : Trusting t ∧ t.isClosing = s.isClosing ∧
      t.activeWebhookSetQuery = s.activeWebhookSetQuery := by
  obtain ⟨-, rfl | ⟨q, answer, rfl⟩⟩ := failMemberClosing_ok hfail
  · exact ⟨h, rfl, rfl⟩
  · exact ⟨h.emit trivial, rfl, rfl⟩

theorem Trusting.resetWebhook (h : Trusting s) : Trusting s.resetWebhook := by
  unfold ClientWebhook.resetWebhook
  split
  · exact h
  · split
    · exact h
    · rename_i generation _
      have hreset : Trusting { s with webhookId := none } := ⟨h.shape, h.noUrl, h.set, h.active, h.out⟩
      exact hreset.emit (show ClientWebhookEffect.Safe (.hangupWebhook generation) from trivial)

theorem resetWebhook_isClosing (s : ClientWebhook) : s.resetWebhook.isClosing = s.isClosing := by
  unfold ClientWebhook.resetWebhook
  split_ifs
  · rfl
  · cases s.webhookId <;> rfl

theorem Secured.onClosed (h : Secured s) (now : Int) : Secures (s.onClosed now) := by
  unfold ClientWebhook.onClosed
  split
  · exact secures_error _
  rename_i hclosing
  split
  · exact secures_error _
  rename_i webhookSetQuery u hset
  split
  · exact secures_error _
  rename_i activeWebhookSetQuery v hactive
  have hclosed : Trusting { s with tdClosed := true } := ⟨h.shape, h.noUrl, h.set, h.active, h.out⟩
  obtain ⟨hu, huclosing, huactive⟩ := hclosed.failMemberClosing hset
  obtain ⟨hv, hvclosing, -⟩ := hu.failMemberClosing hactive
  have hleft : Trusting { v with
      webhookSetQuery := webhookSetQuery
      activeWebhookSetQuery := activeWebhookSetQuery } := by
    refine ⟨hv.shape, hv.noUrl, fun q hq => ?_, fun q hq => ?_, hv.out⟩
    · obtain ⟨q', hq', heq⟩ := (failMemberClosing_ok hset).1 q hq
      rw [heq]
      exact h.set q' hq'
    · obtain ⟨q', hq', heq⟩ := (failMemberClosing_ok hactive).1 q hq
      rw [heq]
      exact hu.active q' hq'
  have hreset := hleft.resetWebhook
  have hstill := (resetWebhook_isClosing { v with
      webhookSetQuery := webhookSetQuery
      activeWebhookSetQuery := activeWebhookSetQuery }).trans (hvclosing.trans (huclosing.trans (not_not.1 hclosing)))
  dsimp only
  split
  · have herased := hreset.emit (show ClientWebhookEffect.Safe .eraseWebhook from trivial)
    exact Secured.secures ⟨⟨herased.shape, herased.noUrl, herased.set, herased.active, herased.out⟩,
      Or.inl hstill⟩
  · exact Secured.finishClosing ⟨hreset, Or.inl hstill⟩

/-- A message of the client keeps the invariant, if what the client is asked and told can be trusted. -/
theorem Secured.step (h : Secured s) {e : ClientWebhookEvent}
    (hquery : ∀ query now, e = .query query now → query.Trusted)
    (hreport : ∀ generation text, e = .webhookVerified generation text → SafeText text) :
    Secures (s.step inet P e) := by
  unfold ClientWebhook.step
  split
  · exact h.secures
  cases e with
  | query query now =>
      dsimp only
      split
      · exact h.respond _ _
      · rename_i hclosing
        exact h.processSetWebhookQuery (Bool.eq_false_of_not_eq_true hclosing) (hquery query now rfl) now
  | logOutRequested =>
      dsimp only
      split_ifs
      · exact h.secures
      · exact Secured.secures ⟨⟨h.shape, h.noUrl, h.set, h.active, h.out⟩, h.address⟩
  | closeRequested => exact Secured.secures ⟨⟨h.shape, h.noUrl, h.set, h.active, h.out⟩, h.address⟩
  | authorizationFailed apiIdInvalid nextAuthorizationTime =>
      dsimp only
      split_ifs
      · exact h.secures
      · exact Secured.secures ⟨⟨h.shape, h.noUrl, h.set, h.active, h.out⟩, h.address⟩
  | authorizationStateLoggingOut =>
      dsimp only
      split_ifs
      · exact h.secures
      · exact Secured.secures ⟨⟨h.shape, h.noUrl, h.set, h.active, h.out⟩, Or.inl rfl⟩
  | authorizationStateClosing =>
      dsimp only
      split_ifs
      · exact h.secures
      · exact Secured.secures ⟨⟨h.shape, h.noUrl, h.set, h.active, h.out⟩, Or.inl (Bool.or_true _)⟩
  | authorizationStateClosed now =>
      dsimp only
      split
      · exact h.secures
      · exact h.onClosed now
  | directoryRemoved =>
      dsimp only
      split
      · have hremoved : Secured { s with removingDirectory := false } :=
          ⟨⟨h.shape, h.noUrl, h.set, h.active, h.out⟩, h.address⟩
        exact hremoved.finishClosing
      · exact h.secures
  | timeoutExpired =>
      dsimp only
      split_ifs
      · exact Secured.secures ⟨⟨h.shape, h.noUrl, h.set, h.active, h.out⟩, h.address⟩
      · exact h.secures
  | webhookVerified generation cachedIpAddress =>
      dsimp only
      split
      · exact h.webhookVerified generation (hreport generation cachedIpAddress rfl)
      · exact h.secures
  | webhookClosed generation status now =>
      have herased : Secured { s with callbacks := s.callbacks.erase generation } :=
        ⟨⟨h.shape, h.noUrl, h.set, h.active, h.out⟩, h.address⟩
      dsimp only
      split
      · exact herased.webhookClosed status now
      · exact h.secures
  | hangupShared generation now =>
      have herased : Secured { s with callbacks := s.callbacks.erase generation } :=
        ⟨⟨h.shape, h.noUrl, h.set, h.active, h.out⟩, h.address⟩
      dsimp only
      split
      · exact herased.webhookClosed _ now
      · exact h.secures
  | certificateCopied success now =>
      have hcopied : Secured { s with copies := s.copies - 1 } :=
        ⟨⟨h.shape, h.noUrl, h.set, h.active, h.out⟩, h.address⟩
      dsimp only
      split
      · exact h.secures
      · exact hcopied.onWebhookCertificateCopied success now
  | certificateUnlinked now =>
      dsimp only
      split
      · exact h.secures
      · rename_i status unlinks _
        have hunlinked : Secured { s with unlinks := unlinks } :=
          ⟨⟨h.shape, h.noUrl, h.set, h.active, h.out⟩, h.address⟩
        exact hunlinked.onWebhookClosed status now

end ClientWebhook

/-! ### The actors -/

theorem IPAddress.cached_port (inet : InetText) (text : Slice) (port : Int) :
    IPAddress.cached inet text port = .invalid ∨ (IPAddress.cached inet text port).port = port % 2 ^ 16 := by
  unfold IPAddress.cached
  split
  · exact Or.inl rfl
  split
  · exact Or.inl rfl
  · rename_i address _
    cases address with
    | invalid => exact Or.inl rfl
    | ipv4 address _ => exact Or.inr rfl
    | ipv6 address _ => exact Or.inr rfl

theorem WebhookConfig.create_safe {inet : InetText} (hinet : inet.ReadsBack) {P : WebhookParameters}
    (hlocal : P.localMode = false) {hasProxy fromDb : Bool} {settings : WebhookSettings} (h : settings.Checkable)
    {cfg : WebhookConfig} (hcreate : WebhookConfig.create inet P hasProxy settings fromDb = some cfg) :
    WebhookActor.SafeConfig cfg := by
  unfold WebhookConfig.create at hcreate
  split at hcreate
  · cases hcreate
  rename_i url _
  split_ifs at hcreate
  cases hcreate
  refine ⟨hlocal, IPAddress.cached_port inet _ _, ?_⟩
  cases h with
  | inl hfix => exact Or.inl hfix
  | inr haddress =>
      refine Or.inr ?_
      dsimp only
      rcases haddress with hempty | ⟨a, hpublic, htext⟩
      · rw [hempty]
        exact Or.inl rfl
      · rw [htext]
        cases cached_ipv4Str hinet a url.port with
        | inl hcached =>
            rw [hcached]
            exact Or.inr hpublic
        | inr hcached => exact Or.inl hcached

namespace WebhookProcess

/-- The actor was created with safe arguments, and was checked since it runs. -/
structure Safe (process : WebhookProcess) : Prop where
  cfg : WebhookActor.SafeConfig process.cfg
  actor : ∀ actor ∈ process.actor, WebhookActor.Guarded process.cfg actor

end WebhookProcess

namespace WebhookSystem

variable {inet : InetText} {P : WebhookParameters} {hasProxy : Bool} {token : Slice} {s : WebhookSystem}

structure Safe (s : WebhookSystem) : Prop where
  client : s.client.Secured
  restoring : ∀ query ∈ s.restoring, query.Trusted
  webhookDb : ∀ value ∈ s.webhookDb, ∃ w mask, WebhookSettings.Storable w ∧ value = saveWebhook w mask
  processes : ∀ process ∈ s.processes, process.Safe
  targets : ∀ target ∈ s.targets, target.Allowed

theorem Safe.crash (h : Safe s) : Safe { s with crashed := true } :=
  ⟨h.client, h.restoring, h.webhookDb, h.processes, h.targets⟩

theorem Safe.apply (hinet : inet.ReadsBack) (hlocal : P.localMode = false) (h : Safe s)
    {effect : ClientWebhookEffect} (heffect : effect.Safe) : Safe (s.apply inet P hasProxy effect) := by
  unfold WebhookSystem.apply
  cases effect with
  | saveWebhook value =>
      refine ⟨h.client, h.restoring, fun v hv => ?_, h.processes, h.targets⟩
      cases hv
      exact heffect
  | eraseWebhook => exact ⟨h.client, h.restoring, fun v hv => (by cases hv), h.processes, h.targets⟩
  | createWebhook generation settings =>
      dsimp only
      split
      · exact h.crash
      · rename_i cfg hcreate
        refine ⟨h.client, h.restoring, h.webhookDb, fun process hprocess => ?_, h.targets⟩
        cases List.mem_append.1 hprocess with
        | inl hold => exact h.processes process hold
        | inr hnew =>
            cases List.mem_singleton.1 hnew
            exact ⟨WebhookConfig.create_safe hinet hlocal heffect hcreate, fun actor hactor => by cases hactor⟩
  | _ => exact h

theorem Safe.foldl_apply (hinet : inet.ReadsBack) (hlocal : P.localMode = false) (h : Safe s)
    {effects : List ClientWebhookEffect} (heffects : ∀ effect ∈ effects, effect.Safe) :
    Safe (effects.foldl (WebhookSystem.apply inet P hasProxy) s) := by
  induction effects generalizing s with
  | nil => exact h
  | cons effect effects ih =>
      rw [List.foldl_cons]
      apply ih
      · exact h.apply hinet hlocal (heffects effect List.mem_cons_self)
      · exact fun e he => heffects e (List.mem_cons_of_mem effect he)

theorem Safe.onClient (hinet : inet.ReadsBack) (hlocal : P.localMode = false) (h : Safe s)
    {r : Except WebhookAssertion ClientWebhook} (hr : ClientWebhook.Secures r) :
    Safe (s.onClient inet P hasProxy r) := by
  unfold WebhookSystem.onClient
  cases r with
  | error assertion => exact h.crash
  | ok client =>
      have hclient := hr client rfl
      apply Safe.foldl_apply hinet hlocal
      · exact ⟨hclient, h.restoring, h.webhookDb, h.processes, h.targets⟩
      · exact fun effect heffect => hclient.out effect (List.mem_of_mem_drop heffect)

theorem Safe.setActor (h : Safe s) (index : Nat) {process : WebhookProcess}
    (hcfg : WebhookActor.SafeConfig process.cfg) {actor : WebhookActor}
    (hactor : WebhookActor.Guarded process.cfg actor) : Safe (s.setActor index process actor) := by
  refine ⟨h.client, h.restoring, h.webhookDb, fun p hp => ?_, h.targets⟩
  cases List.mem_or_eq_of_mem_set hp with
  | inl hold => exact h.processes p hold
  | inr hnew =>
      rw [hnew]
      refine ⟨hcfg, fun a ha => ?_⟩
      cases ha
      exact hactor

theorem Safe.onWebhook (h : Safe s) (index : Nat) {process : WebhookProcess}
    (hcfg : WebhookActor.SafeConfig process.cfg) {actor : WebhookActor}
    (hactor : WebhookActor.Guarded process.cfg actor) (event : WebhookEvent) :
    Safe (s.onWebhook index process actor event) := by
  have htargets : Safe { s with
      targets := s.targets ++ actor.stepTargets process.cfg (event.onPort process.cfg.url.port) } := by
    refine ⟨h.client, h.restoring, h.webhookDb, h.processes, fun target htarget => ?_⟩
    cases List.mem_append.1 htarget with
    | inl hold => exact h.targets target hold
    | inr hnew => exact hactor.stepTargets hcfg.notLocal event target hnew
  unfold WebhookSystem.onWebhook
  dsimp only
  split
  · exact htargets.crash
  · rename_i actor' hstep
    exact htargets.setActor index hcfg (hactor.step hcfg.notLocal event hstep)

/-- What an actor has reported is public. -/
theorem Safe.onReport (hinet : inet.ReadsBack) (hlocal : P.localMode = false) (h : Safe s) (generation : Nat)
    {cfg : WebhookConfig} {actor : WebhookActor} (hactor : WebhookActor.Guarded cfg actor) (message : Nat) :
    Safe (s.onReport inet P hasProxy generation actor.out[message]?) := by
  unfold WebhookSystem.onReport
  split
  · rename_i address hmessage
    have hmem := List.mem_of_getElem? hmessage
    have hpublic : address = .invalid ∨ address.IsPublic := by
      cases hactor with
      | inl hadmitted => exact hadmitted.reports address hmem
      | inr hrefused => exact absurd hmem (hrefused.reports address)
    refine h.onClient hinet hlocal (h.client.step ?_ ?_)
    · intro query now hquery
      cases hquery
    · intro generation' text hreport
      cases hreport
      exact IPAddress.safeText hpublic
  · exact h

theorem isForeign_trusted {e : ClientWebhookEvent} (h : e.isForeign = true) :
    (∀ query now, e = .query query now → query.Trusted) ∧
      ∀ generation text, e = .webhookVerified generation text → SafeText text := by
  refine ⟨fun query now he => ?_, fun generation text he => ?_⟩
  · rw [he] at h
    intro hinternal
    rw [ClientWebhookEvent.isForeign, hinternal] at h
    cases h
  · rw [he] at h
    cases h

theorem Safe.step (hinet : inet.ReadsBack) (hlocal : P.localMode = false) (h : Safe s) (e : WebhookSystemEvent) :
    Safe (s.step inet P hasProxy token e) := by
  unfold WebhookSystem.step
  cases e with
  | restart =>
      refine ⟨⟨⟨WebhookSettings.shape_empty false, fun _ => safeText_nil, fun q hq => (by cases hq),
        fun q hq => (by cases hq), fun effect heffect => (by cases heffect)⟩, Or.inr (Or.inr safeText_nil)⟩, ?_,
        h.webhookDb, fun process hprocess => (by cases hprocess), h.targets⟩
      intro query hquery
      obtain ⟨value, hvalue, rfl⟩ := Option.mem_map.1 hquery
      obtain ⟨w, mask, hw, rfl⟩ := h.webhookDb value hvalue
      exact BotQuery.Trusted.restored hw mask token
  | client event =>
      dsimp only
      split
      · exact h
      · rename_i hforeign
        obtain ⟨hquery, hreport⟩ := isForeign_trusted (not_not.1 (not_or.1 hforeign).2)
        exact h.onClient hinet hlocal (h.client.step hquery hreport)
  | restore now =>
      dsimp only
      split
      · exact h
      · split
        · exact h
        · rename_i query hrestoring
          have htaken : Safe { s with restoring := none } :=
            ⟨h.client, fun q hq => (by cases hq), h.webhookDb, h.processes, h.targets⟩
          refine htaken.onClient hinet hlocal (h.client.step ?_ ?_)
          · intro q _ hq
            cases hq
            exact h.restoring query hrestoring
          · intro generation text hreport
            cases hreport
  | startUp index now resolveDelay =>
      dsimp only
      split
      · rename_i generation cfg hprocess
        have hcfg := (h.processes _ (List.mem_of_getElem? hprocess)).cfg
        split
        · exact h
        · exact h.setActor index hcfg (WebhookActor.guarded_startUp hcfg now resolveDelay)
      · exact h
  | webhook index event =>
      dsimp only
      split
      · rename_i generation cfg actor hprocess
        have hsafe := h.processes _ (List.mem_of_getElem? hprocess)
        split
        · exact h
        · exact h.onWebhook index hsafe.cfg (hsafe.actor actor rfl) event
      · exact h
  | verified index message =>
      dsimp only
      split
      · rename_i generation cfg actor hprocess
        have hsafe := h.processes _ (List.mem_of_getElem? hprocess)
        split
        · exact h
        · exact h.onReport hinet hlocal generation (hsafe.actor actor rfl) message
      · exact h

theorem safe_init : Safe {} :=
  ⟨⟨⟨WebhookSettings.shape_empty false, fun _ => safeText_nil, fun q hq => (by cases hq),
    fun q hq => (by cases hq), fun effect heffect => (by cases heffect)⟩, Or.inr (Or.inr safeText_nil)⟩,
    fun q hq => (by cases hq), fun value hvalue => (by cases hvalue), fun process hprocess => (by cases hprocess),
    fun target htarget => (by cases htarget)⟩

theorem webhook_unresolved {index generation : Nat} {cfg : WebhookConfig} {actor : WebhookActor}
    (hprocess : s.processes[index]? = some ⟨generation, cfg, some actor⟩) {result : Except Status IPAddress}
    (hfails : WebhookActor.Fails cfg (IPAddress.getIpPort cfg.url.port result)) (io : LoopInput)
    {process : WebhookProcess} {actor' : WebhookActor}
    (hafter : (s.step inet P hasProxy token (.webhook index (.onResolvedIpAddress result io))).processes[index]? =
      some process) (hactor : process.actor = some actor') : actor'.ipAddress = actor.ipAddress := by
  have hsame : s.processes[index]? = some process → actor'.ipAddress = actor.ipAddress := fun hsome => by
    rw [hprocess] at hsome
    cases hsome
    cases hactor
    rfl
  unfold WebhookSystem.step at hafter
  dsimp only at hafter
  rw [hprocess] at hafter
  dsimp only at hafter
  split at hafter
  · exact hsame hafter
  · unfold WebhookSystem.onWebhook at hafter
    dsimp only [WebhookEvent.onPort] at hafter
    split at hafter
    · exact hsame hafter
    · rename_i u hstep
      have hlt : index < s.processes.length := (List.getElem?_eq_some_iff.1 hprocess).1
      unfold WebhookSystem.setActor at hafter
      rw [List.getElem?_set_self hlt] at hafter
      cases hafter
      cases hactor
      exact WebhookActor.step_unresolved hfails hstep

/-- Outside the local mode every connection of every run goes to a public IPv4 address, over HTTPS and to one of
the four ports; and an address never gives way to one that fails the check. -/
theorem webhook_connections_public (inet : InetText) (hinet : inet.ReadsBack) (P : WebhookParameters)
    (hlocal : P.localMode = false) (hasProxy : Bool) (token : Slice) (events : List WebhookSystemEvent) :
    (∀ target ∈ (StepRun.run (step inet P hasProxy token) {} events).targets, target.Allowed) ∧
      ∀ index generation cfg actor result io process actor',
        (StepRun.run (step inet P hasProxy token) {} events).processes[index]? =
            some ⟨generation, cfg, some actor⟩ →
          WebhookActor.Fails cfg (IPAddress.getIpPort cfg.url.port result) →
          ((StepRun.run (step inet P hasProxy token) {} events).step inet P hasProxy token
            (.webhook index (.onResolvedIpAddress result io))).processes[index]? = some process →
          process.actor = some actor' → actor'.ipAddress = actor.ipAddress := by
  have hsafe : Safe (StepRun.run (step inet P hasProxy token) {} events) :=
    StepRun.run_invariant_always (I := Safe) (fun _ e hs => hs.step hinet hlocal e) safe_init events
  constructor
  · exact hsafe.targets
  · intro index generation cfg actor result io process actor' hprocess hfails hafter hactor
    exact webhook_unresolved hprocess hfails io hafter hactor

/-- A C library without IPv6. -/
def dottedInet : InetText where
  ipv4 := readIpv4
  ipv6 _ := none
  inetAddr text := (readIpv4 text).bind fun a => if a = BitVec.allOnes 32 then none else some a
  ipv6Str _ := []
  idnToAscii := some

theorem dottedInet_readsBack : dottedInet.ReadsBack where
  inetAddr a := by
    change (readIpv4 (ipv4Str a)).bind _ = _
    rw [readIpv4_ipv4Str]
    rfl
  ipv4 := readIpv4_ipv4Str
  ipv6 _ := rfl

/-- A webhook with a fixed address, which is connected to once there is an SSL context. -/
def fixedAddress : List WebhookSystemEvent :=
  [.client (.query {
      token := "1:a".toList
      method := "setwebhook".toList
      args := [("url".toList, "https://a.b:8443".toList), ("ip_address".toList, "8.8.8.8".toList)] } 0),
    .startUp 0 0 0,
    .webhook 0 (.onSslContextCreated (.ok ()) {
      now := 1
      unixTime := 1
      queue := none
      connects := [.opened]
      sendTime := fun _ => 1 })]

theorem webhook_connections_public_fixed :
    (StepRun.run (step dottedInet {} false []) {} fixedAddress).targets ≠ [] ∧
      ∀ target ∈ (StepRun.run (step dottedInet {} false []) {} fixedAddress).targets, target.Allowed :=
  ⟨by decide +kernel, (webhook_connections_public dottedInet dottedInet_readsBack {} rfl false [] fixedAddress).1⟩

end WebhookSystem

end TelegramBotApi
