import TelegramBotApi.ClientWebhook

/-!
# The assertions of the webhook handlers

`Inv` holds between any two messages. Under it each handler goes through, or stops at an assertion that
is not its own. The one exception is a certificate that has been copied when its query was already
taken by `on_closed`; the last section shows that the runs without it are exactly the sound ones.
-/

namespace TelegramBotApi

namespace ClientWebhook

variable {inet : InetPton} {P : WebhookParameters} {s : ClientWebhook}

def AcceptableUrl (inet : InetPton) (query : BotQuery) : Prop :=
  query.newWebhookUrl ≠ [] ∧ ∃ url, HttpUrl.parseUrl inet query.newWebhookUrl .https = .ok url

structure Inv (inet : InetPton) (s : ClientWebhook) : Prop where
  exclusive : s.webhookSetQuery = none ∨ s.activeWebhookSetQuery = none
  noUrl : s.settings.url = [] → s.webhookSetQuery = none ∧ s.webhookId = none ∧ s.callbacks = [] ∧
    s.unlinks = []
  noCertificate : s.settings.url = [] → s.isClosing = false → s.settings.hasCertificate = false
  oneWebhook : s.callbacks.length + s.unlinks.length ≤ 1
  noActive : s.settings.url ≠ [] → s.activeWebhookSetQuery = none
  copies_le : s.copies ≤ 1
  copying : s.activeWebhookSetQuery.isSome = true → s.copies = 1
  copied : s.copies = 1 → s.activeWebhookSetQuery = none → s.tdClosed = true ∧ s.retriesLater = false
  kept : s.tdClosed = true → s.activeWebhookSetQuery.isSome = true → s.retriesLater = true
  activeUrl : ∀ q, s.activeWebhookSetQuery = some q → AcceptableUrl inet q.query
  closed : s.tdClosed = true → s.isClosing = true
  hungUp : s.tdClosed = true → s.webhookId = none
  removing : s.removingDirectory = true → s.tdClosed = true

/-- What the invariant is about. -/
def core (s : ClientWebhook) :=
  (s.settings.url, s.settings.hasCertificate, s.webhookId, s.webhookSetQuery, s.activeWebhookSetQuery,
    s.callbacks, s.copies, s.unlinks, s.isClosing, s.retriesLater, s.tdClosed, s.removingDirectory)

theorem Inv.congr {t : ClientWebhook} (h : Inv inet s) (hcore : t.core = s.core) : Inv inet t := by
  simp only [core, Prod.mk.injEq] at hcore
  obtain ⟨hurl, hcert, hid, hset, hactive, hcallbacks, hcopies, hunlinks, hclosing, hretries, htd,
    hremoving⟩ := hcore
  constructor
  · rw [hset, hactive]
    exact h.exclusive
  · rw [hurl, hset, hid, hcallbacks, hunlinks]
    exact h.noUrl
  · rw [hurl, hclosing, hcert]
    exact h.noCertificate
  · rw [hcallbacks, hunlinks]
    exact h.oneWebhook
  · rw [hurl, hactive]
    exact h.noActive
  · rw [hcopies]
    exact h.copies_le
  · rw [hactive, hcopies]
    exact h.copying
  · rw [hcopies, hactive, htd, hretries]
    exact h.copied
  · rw [htd, hactive, hretries]
    exact h.kept
  · rw [hactive]
    exact h.activeUrl
  · rw [htd, hclosing]
    exact h.closed
  · rw [htd, hid]
    exact h.hungUp
  · rw [hremoving, htd]
    exact h.removing

/-- The handler went through and kept the invariant, or stopped at an assertion of others. -/
def Safe (inet : InetPton) : Except WebhookAssertion ClientWebhook → Prop
  | .ok s => Inv inet s
  | .error assertion => assertion.isOwn = false

theorem Inv.emit (h : Inv inet s) (effect : ClientWebhookEffect) : Inv inet (s.emit effect) :=
  h.congr rfl

theorem Inv.respond (h : Inv inet s) (query : PromisedQuery) (answer : QueryAnswer) :
    Safe inet (s.respond query answer) := by
  unfold ClientWebhook.respond
  split_ifs
  · rfl
  · exact h.emit _

/-- Nothing is set and nothing is under way; a certificate may be there already. -/
structure Idle (s : ClientWebhook) : Prop where
  noPending : s.webhookSetQuery = none
  noActive : s.activeWebhookSetQuery = none
  noUrl : s.settings.url = []
  noWebhook : s.webhookId = none
  noCallback : s.callbacks = []
  noUnlink : s.unlinks = []
  noCopy : s.copies = 0
  closed : s.tdClosed = true → s.isClosing = true
  removing : s.removingDirectory = true → s.tdClosed = true

theorem Idle.inv (h : Idle s) (hcert : s.isClosing = false → s.settings.hasCertificate = false) :
    Inv inet s where
  exclusive := Or.inl h.noPending
  noUrl _ := ⟨h.noPending, h.noWebhook, h.noCallback, h.noUnlink⟩
  noCertificate _ := hcert
  oneWebhook := by rw [h.noCallback, h.noUnlink]; decide
  noActive hurl := absurd h.noUrl hurl
  copies_le := by rw [h.noCopy]; decide
  copying hactive := by rw [h.noActive] at hactive; cases hactive
  copied hcopies := by rw [h.noCopy] at hcopies; cases hcopies
  kept _ hactive := by rw [h.noActive] at hactive; cases hactive
  activeUrl q hq := by rw [h.noActive] at hq; cases hq
  closed := h.closed
  hungUp _ := h.noWebhook
  removing := h.removing

theorem Idle.withCertificate (h : Idle s) (hasCertificate : Bool) :
    Idle (s.withCertificate hasCertificate) :=
  ⟨h.noPending, h.noActive, h.noUrl, h.noWebhook, h.noCallback, h.noUnlink, h.noCopy, h.closed,
    h.removing⟩

/-- The copy of a certificate begins. -/
theorem Idle.activate (h : Idle s) {query : PromisedQuery} (hq : AcceptableUrl inet query.query)
    (hclosing : s.isClosing = false)
    (hcert : s.isClosing = false → s.settings.hasCertificate = false) :
    Inv inet { s with activeWebhookSetQuery := some query, copies := s.copies + 1 } where
  exclusive := Or.inl h.noPending
  noUrl _ := ⟨h.noPending, h.noWebhook, h.noCallback, h.noUnlink⟩
  noCertificate _ := hcert
  oneWebhook := by
    change s.callbacks.length + s.unlinks.length ≤ 1
    rw [h.noCallback, h.noUnlink]
    decide
  noActive hurl := absurd h.noUrl hurl
  copies_le := by
    change s.copies + 1 ≤ 1
    rw [h.noCopy]
  copying _ := by
    change s.copies + 1 = 1
    rw [h.noCopy]
  copied _ hnone := by cases hnone
  kept hc := by
    rw [h.closed hc] at hclosing
    cases hclosing
  activeUrl q hsome := by
    rw [← Option.some.inj hsome]
    exact hq
  closed := h.closed
  hungUp _ := h.noWebhook
  removing := h.removing

theorem Inv.idle (h : Inv inet s) (hurl : s.settings.url = []) (hactive : s.activeWebhookSetQuery = none)
    (hclosing : s.isClosing = false) : Idle s := by
  obtain ⟨hpending, hid, hcallbacks, hunlinks⟩ := h.noUrl hurl
  have hclosed : ¬ s.tdClosed = true := fun hc => by
    rw [h.closed hc] at hclosing
    cases hclosing
  have hle := h.copies_le
  have hcopies : s.copies ≠ 1 := fun hone => hclosed (h.copied hone hactive).1
  exact ⟨hpending, hactive, hurl, hid, hcallbacks, hunlinks, by omega, h.closed, h.removing⟩

theorem AcceptableUrl.arg {query : BotQuery} (h : AcceptableUrl inet query) :
    query.newWebhookUrl = query.arg "url".toList := by
  have hne := h.1
  unfold BotQuery.newWebhookUrl at hne ⊢
  split_ifs at hne ⊢ with hmethod
  · rfl
  · exact absurd rfl hne

theorem Idle.install (h : Idle s) {query : PromisedQuery} (hq : AcceptableUrl inet query.query)
    (hclosing : s.isClosing = false) : Inv inet (s.installWebhook P query) where
  exclusive := Or.inr h.noActive
  noUrl hurl := by
    change query.query.arg "url".toList = [] at hurl
    rw [← hq.arg] at hurl
    exact absurd hurl hq.1
  noCertificate hurl := by
    change query.query.arg "url".toList = [] at hurl
    rw [← hq.arg] at hurl
    exact absurd hurl hq.1
  oneWebhook := by
    change (s.callbacks ++ [s.webhookGeneration]).length + s.unlinks.length ≤ 1
    rw [h.noCallback, h.noUnlink]
    simp
  noActive _ := h.noActive
  copies_le := by
    change s.copies ≤ 1
    rw [h.noCopy]
    decide
  copying hactive := by
    change s.activeWebhookSetQuery.isSome = true at hactive
    rw [h.noActive] at hactive
    cases hactive
  copied hcopies := by
    change s.copies = 1 at hcopies
    rw [h.noCopy] at hcopies
    cases hcopies
  kept _ hactive := by
    change s.activeWebhookSetQuery.isSome = true at hactive
    rw [h.noActive] at hactive
    cases hactive
  activeUrl q hactive := by
    change s.activeWebhookSetQuery = some q at hactive
    rw [h.noActive] at hactive
    cases hactive
  closed := h.closed
  hungUp hc := by
    change s.tdClosed = true at hc
    rw [h.closed hc] at hclosing
    cases hclosing
  removing := h.removing

theorem Idle.finishSetWebhook (h : Idle s) {query : PromisedQuery} (hq : AcceptableUrl inet query.query)
    (now : Int) : Safe inet (s.finishSetWebhook inet P query now) := by
  unfold ClientWebhook.finishSetWebhook
  rw [if_neg (by simp [h.noActive]), if_neg (by simp [h.noPending]), if_neg (not_not_intro h.noUrl)]
  cases hclosing : s.isClosing with
  | true =>
      rw [if_pos rfl]
      exact Inv.respond (h.inv (by simp [hclosing])) _ _
  | false =>
      obtain ⟨url, hurl⟩ := hq.2
      rw [if_neg (by simp), if_neg (by rw [← hq.arg]; exact hq.1), ← hq.arg, hurl]
      exact h.install hq hclosing

/-- An accepted request has an acceptable address. -/
theorem acceptableUrl_of_checkWebhook {query : BotQuery} (hne : query.newWebhookUrl ≠ [])
    {u : Unit} (h : checkWebhook inet query = .ok u) : AcceptableUrl inet query := by
  refine ⟨hne, ?_⟩
  unfold checkWebhook at h
  cases hurl : HttpUrl.parseUrl inet query.newWebhookUrl .https with
  | error status =>
      rw [hurl] at h
      cases h
  | ok url => exact ⟨url, rfl⟩

theorem Inv.startSetWebhook (h : Inv inet s) (hurl : s.settings.url = []) (hclosing : s.isClosing = false)
    {query : PromisedQuery} (hq : AcceptableUrl inet query.query) (now : Int) :
    Safe inet (s.startSetWebhook inet P query now) := by
  unfold ClientWebhook.startSetWebhook
  by_cases hactive : s.activeWebhookSetQuery.isSome = true
  · rw [if_pos hactive]
    exact h.respond _ _
  rw [if_neg hactive, if_neg (by simp [h.noCertificate hurl hclosing])]
  have hidle := h.idle hurl (by simpa using hactive) hclosing
  by_cases hinternal : query.query.isInternal = true
  · rw [if_pos hinternal]
    exact (hidle.withCertificate _).finishSetWebhook hq now
  rw [if_neg hinternal]
  cases query.query.getWebhookCertificate with
  | none => exact hidle.finishSetWebhook hq now
  | some file =>
      simp only
      split_ifs with hsize hpending
      · exact h.respond _ _
      · rw [hidle.noPending] at hpending
        cases hpending
      · exact hidle.activate hq hclosing (h.noCertificate hurl)

theorem Inv.checkSetWebhook (h : Inv inet s) (hurl : s.settings.url = []) (hclosing : s.isClosing = false)
    (query : PromisedQuery) (wasDeleted : Bool) (now : Int) :
    Safe inet (s.checkSetWebhook inet P query wasDeleted now) := by
  unfold ClientWebhook.checkSetWebhook
  by_cases hne : query.query.newWebhookUrl = []
  · rw [if_pos hne]
    exact h.respond _ _
  rw [if_neg hne]
  cases hcheck : checkWebhook inet query.query with
  | error status => exact h.respond _ _
  | ok _ => exact h.startSetWebhook hurl hclosing (acceptableUrl_of_checkWebhook hne hcheck) now

theorem Inv.doSetWebhook (h : Inv inet s) (hurl : s.settings.url = []) (query : PromisedQuery)
    (wasDeleted : Bool) (now : Int) : Safe inet (s.doSetWebhook inet P query wasDeleted now) := by
  unfold ClientWebhook.doSetWebhook
  rw [if_neg (not_not_intro hurl)]
  cases hclosing : s.isClosing with
  | true =>
      rw [if_pos rfl]
      exact h.respond _ _
  | false =>
      rw [if_neg (by simp)]
      split_ifs
      · unfold clearTqueue
        rw [if_neg (by simp [(h.noUrl hurl).2.1])]
        exact (h.emit .clearTqueue).checkSetWebhook hurl hclosing query wasDeleted now
      · exact h.checkSetWebhook hurl hclosing query wasDeleted now

/-- The certificate of the active query was copied. -/
theorem Inv.certificateCopied (h : Inv inet s) {query : PromisedQuery}
    (hactive : s.activeWebhookSetQuery = some query) (success : Bool) (now : Int) :
    Safe inet ({ s with copies := s.copies - 1 }.onWebhookCertificateCopied inet P success now) := by
  have hcopies := h.copying (by rw [hactive]; rfl)
  have hurl : s.settings.url = [] := by
    by_contra hne
    rw [h.noActive hne] at hactive
    cases hactive
  have hpending : s.webhookSetQuery = none := by
    rcases h.exclusive with hnone | hnone
    · exact hnone
    · rw [hnone] at hactive
      cases hactive
  obtain ⟨-, hid, hcallbacks, hunlinks⟩ := h.noUrl hurl
  have hidle : Idle { s with copies := s.copies - 1, activeWebhookSetQuery := none } := by
    have hcopy : s.copies - 1 = 0 := by omega
    exact ⟨hpending, rfl, hurl, hid, hcallbacks, hunlinks, hcopy, h.closed, h.removing⟩
  unfold onWebhookCertificateCopied
  simp only [hactive]
  split_ifs
  · exact (hidle.withCertificate true).finishSetWebhook (h.activeUrl query hactive) now
  · exact Inv.respond (hidle.inv (h.noCertificate hurl)) _ _

/-- The webhook is gone, and its certificate too. -/
theorem Inv.onWebhookClosed (h : Inv inet s) (hcallbacks : s.callbacks = []) (hunlinks : s.unlinks = [])
    (status : Option Status) (now : Int) : Safe inet (s.onWebhookClosed inet P status now) := by
  have hreset : Inv inet ({ s with webhookId := none, settings := {}, webhookSetQuery := none }.emit
      .eraseWebhook) := by
    refine Inv.emit ?_ _
    exact
      { exclusive := Or.inl rfl
        noUrl := fun _ => ⟨rfl, rfl, hcallbacks, hunlinks⟩
        noCertificate := fun _ _ => rfl
        oneWebhook := h.oneWebhook
        noActive := fun hne => absurd rfl hne
        copies_le := h.copies_le
        copying := h.copying
        copied := h.copied
        kept := h.kept
        activeUrl := h.activeUrl
        closed := h.closed
        hungUp := fun _ => rfl
        removing := h.removing }
  unfold ClientWebhook.onWebhookClosed
  simp only
  cases s.webhookSetQuery with
  | none => exact hreset
  | some query =>
      simp only
      split_ifs
      · exact hreset.respond _ _
      · exact hreset.doSetWebhook rfl query true now

/-- An actor gives its callback back. -/
theorem Inv.eraseCallback (h : Inv inet s) (generation : Nat) :
    Inv inet { s with callbacks := s.callbacks.erase generation } where
  exclusive := h.exclusive
  noUrl hurl := by
    obtain ⟨hpending, hid, hcallbacks, hunlinks⟩ := h.noUrl hurl
    exact ⟨hpending, hid, by simp [hcallbacks], hunlinks⟩
  noCertificate := h.noCertificate
  oneWebhook := by
    have hle := h.oneWebhook
    have herase := List.length_erase_le (a := generation) (l := s.callbacks)
    change (s.callbacks.erase generation).length + s.unlinks.length ≤ 1
    omega
  noActive := h.noActive
  copies_le := h.copies_le
  copying := h.copying
  copied := h.copied
  kept := h.kept
  activeUrl := h.activeUrl
  closed := h.closed
  hungUp := h.hungUp
  removing := h.removing

theorem Inv.webhookClosed (h : Inv inet s) {generation : Nat} (hmem : generation ∈ s.callbacks)
    (status : Option Status) (now : Int) :
    Safe inet ({ s with callbacks := s.callbacks.erase generation }.webhookClosed inet P status now) := by
  have hle := h.oneWebhook
  have hpos := List.length_pos_of_mem hmem
  have hcallbacks : s.callbacks.erase generation = [] := by
    refine List.eq_nil_of_length_eq_zero ?_
    rw [List.length_erase_of_mem hmem]
    omega
  have hunlinks : s.unlinks = [] := List.eq_nil_of_length_eq_zero (by omega)
  have herase := h.eraseCallback generation
  unfold ClientWebhook.webhookClosed
  split_ifs
  · refine
      { exclusive := h.exclusive
        noUrl := fun hurl => ?_
        noCertificate := h.noCertificate
        oneWebhook := ?_
        noActive := h.noActive
        copies_le := h.copies_le
        copying := h.copying
        copied := h.copied
        kept := h.kept
        activeUrl := h.activeUrl
        closed := h.closed
        hungUp := h.hungUp
        removing := h.removing }
    · rw [(h.noUrl hurl).2.2.1] at hmem
      cases hmem
    · change (s.callbacks.erase generation).length + (s.unlinks ++ [status]).length ≤ 1
      rw [hcallbacks, hunlinks]
      simp
  · exact herase.onWebhookClosed hcallbacks hunlinks status now

theorem Inv.certificateUnlinked (h : Inv inet s) {status : Option Status} {unlinks : List (Option Status)}
    (hunlinks : s.unlinks = status :: unlinks) (now : Int) :
    Safe inet ({ s with unlinks := unlinks }.onWebhookClosed inet P status now) := by
  have hle := h.oneWebhook
  rw [hunlinks, List.length_cons] at hle
  have hcallbacks : s.callbacks = [] := List.eq_nil_of_length_eq_zero (by omega)
  have hrest : unlinks = [] := List.eq_nil_of_length_eq_zero (by omega)
  refine Inv.onWebhookClosed (s := { s with unlinks := unlinks }) ?_ hcallbacks hrest status now
  exact
    { exclusive := h.exclusive
      noUrl := fun hurl => ⟨(h.noUrl hurl).1, (h.noUrl hurl).2.1, hcallbacks, hrest⟩
      noCertificate := h.noCertificate
      oneWebhook := by
        change s.callbacks.length + unlinks.length ≤ 1
        rw [hcallbacks, hrest]
        decide
      noActive := h.noActive
      copies_le := h.copies_le
      copying := h.copying
      copied := h.copied
      kept := h.kept
      activeUrl := h.activeUrl
      closed := h.closed
      hungUp := h.hungUp
      removing := h.removing }

/-- The query that waits for the webhook goes. -/
theorem Inv.dropPending (h : Inv inet s) : Inv inet { s with webhookSetQuery := none } :=
  ⟨Or.inl rfl, fun hurl => ⟨rfl, (h.noUrl hurl).2⟩, h.noCertificate, h.oneWebhook, h.noActive,
    h.copies_le, h.copying, h.copied, h.kept, h.activeUrl, h.closed, h.hungUp, h.removing⟩

theorem Inv.respond_ok (h : Inv inet s) {query : PromisedQuery} {answer : QueryAnswer} {t : ClientWebhook}
    (ht : s.respond query answer = .ok t) : Inv inet t := by
  have hsafe := h.respond query answer
  rw [ht] at hsafe
  exact hsafe

theorem respond_error {query : PromisedQuery} {answer : QueryAnswer} {assertion : WebhookAssertion}
    (h : s.respond query answer = .error assertion) : assertion.isOwn = false := by
  unfold ClientWebhook.respond at h
  split_ifs at h
  rw [← Except.error.inj h]
  rfl

theorem Inv.webhookVerified (h : Inv inet s) (generation : Nat) (cachedIpAddress : Slice) :
    Safe inet (s.webhookVerified generation cachedIpAddress) := by
  have haddress : Inv inet { s with settings := { s.settings with ipAddress := cachedIpAddress } } :=
    h.congr rfl
  unfold ClientWebhook.webhookVerified
  by_cases hstale : generation ≠ s.webhookGeneration
  · rw [if_pos hstale]
    exact h
  rw [if_neg hstale]
  simp only
  split
  · split_ifs
    · exact haddress.emit _
    · exact haddress
  · split
    · rename_i hanswer
      exact respond_error hanswer
    · rename_i hanswer
      exact (haddress.dropPending.respond_ok hanswer).emit _

theorem Inv.replaceWebhook (h : Inv inet s) (query : BotQuery) (now : Int) :
    Safe inet (s.replaceWebhook inet P query now) := by
  have hnext : Inv inet { s with webhookGeneration := s.webhookGeneration + 1 } := h.congr rfl
  unfold ClientWebhook.replaceWebhook
  simp only
  by_cases hurl : s.settings.url = []
  · rw [if_neg (not_not_intro hurl)]
    exact hnext.doSetWebhook hurl _ false now
  rw [if_pos hurl]
  have hnone := h.noActive hurl
  split
  · rw [if_neg (by simp [hnone])]
    exact ⟨Or.inr hnone, fun he => absurd he hurl, h.noCertificate, h.oneWebhook, h.noActive,
      h.copies_le, h.copying, h.copied, h.kept, h.activeUrl, h.closed, h.hungUp, h.removing⟩
  · rw [if_neg (by simp [ClientWebhook.emit, hnone])]
    exact ⟨Or.inr hnone, fun he => absurd he hurl, h.noCertificate, h.oneWebhook, h.noActive,
      h.copies_le, h.copying, h.copied, h.kept, h.activeUrl, h.closed, fun _ => rfl, h.removing⟩

theorem Inv.changeWebhook (h : Inv inet s) (query : BotQuery) (now : Int) :
    Safe inet (s.changeWebhook inet P query now) := by
  unfold ClientWebhook.changeWebhook
  split
  · split
    · rename_i hanswer
      exact respond_error hanswer
    · rename_i hanswer
      exact (h.dropPending.respond_ok hanswer).replaceWebhook query now
  · by_cases hactive : s.activeWebhookSetQuery.isSome = true
    · rw [if_pos hactive]
      exact h.respond _ _
    rw [if_neg hactive]
    by_cases hsame : s.isNotModified P query = true
    · rw [if_pos hsame]
      refine Inv.respond ?_ _ _
      split_ifs
      · exact h.congr rfl
      · exact h
    · rw [if_neg hsame]
      exact h.replaceWebhook query now

theorem Inv.processSetWebhookQuery (h : Inv inet s) (query : BotQuery) (now : Int) :
    Safe inet (s.processSetWebhookQuery inet P query now) := by
  unfold ClientWebhook.processSetWebhookQuery
  split_ifs
  · exact h.respond _ _
  · refine Inv.changeWebhook ?_ query now
    exact h.congr rfl
  · exact h.changeWebhook query now

theorem retryAfter_pos_iff (s : ClientWebhook) (now : Int) :
    0 < (s.getClosingError now).retryAfter ↔ s.retriesLater = true := by
  unfold getClosingError retriesLater
  cases s.loggingOut with
  | false => simp
  | true =>
      cases s.isApiIdInvalid with
      | true => simp
      | false =>
          by_cases hnext : 0 < s.nextAuthorizationTime
          · have hpos : 0 < max ((s.nextAuthorizationTime - now).tdiv Client.second) 0 + 1 := by omega
            rw [if_pos rfl, if_neg (by decide), if_pos hnext]
            exact iff_of_true hpos (by simp [hnext])
          · simp only [if_true, if_neg hnext]
            split_ifs <;> simp [hnext]

/-- What `on_closed` makes of a query that waits. -/
theorem failMemberClosing_cases (query : Option PromisedQuery) (now : Int) :
    s.failMemberClosing query now = .error .answeredTwice ∨
    ∃ query' t, s.failMemberClosing query now = .ok (query', t) ∧ (t = s ∨ ∃ effect, t = s.emit effect) ∧
      (query = none → query' = none) ∧ (query'.isSome = true → s.retriesLater = true) ∧
      (query.isSome = true → query' = none → s.retriesLater = false) ∧
      ∀ q', query' = some q' → ∃ q, query = some q ∧ q'.query = q.query := by
  unfold failMemberClosing
  cases query with
  | none => exact Or.inr ⟨none, s, rfl, Or.inl rfl, by simp, by simp, by simp, by simp⟩
  | some query =>
      simp only
      split_ifs with hready hretry
      · exact Or.inl rfl
      · rw [retryAfter_pos_iff] at hretry
        refine Or.inr ⟨_, s, rfl, Or.inl rfl, by simp, fun _ => hretry, by simp, fun q' hq' => ?_⟩
        exact ⟨query, rfl, by rw [← Option.some.inj hq']⟩
      · rw [retryAfter_pos_iff] at hretry
        exact Or.inr ⟨none, _, rfl, Or.inr ⟨_, rfl⟩, by simp, by simp, by simpa using hretry, by simp⟩

theorem Inv.finishClosing (h : Inv inet s) (hid : s.webhookId = none) : Safe inet s.finishClosing := by
  unfold ClientWebhook.finishClosing
  split_ifs
  · unfold clearTqueue
    rw [if_neg (by simp [hid])]
    exact h.congr rfl
  · exact h.congr rfl

/-- The state after `on_closed`, up to its effects. -/
def closedWith (s : ClientWebhook) (webhookSetQuery activeWebhookSetQuery : Option PromisedQuery) :
    ClientWebhook :=
  { s with
    tdClosed := true
    webhookId := none
    webhookSetQuery := webhookSetQuery
    activeWebhookSetQuery := activeWebhookSetQuery }

theorem Inv.closedWith (h : Inv inet s) (hclosing : s.isClosing = true) (hopen : s.tdClosed = false)
    {pending active : Option PromisedQuery} (hpending : s.webhookSetQuery = none → pending = none)
    (hactive : s.activeWebhookSetQuery = none → active = none)
    (hkept : active.isSome = true → s.retriesLater = true)
    (htaken : s.activeWebhookSetQuery.isSome = true → active = none → s.retriesLater = false)
    (hquery : ∀ q', active = some q' → ∃ q, s.activeWebhookSetQuery = some q ∧ q'.query = q.query) :
    Inv inet (s.closedWith pending active) where
  exclusive := h.exclusive.imp hpending hactive
  noUrl hurl := ⟨hpending (h.noUrl hurl).1, rfl, (h.noUrl hurl).2.2⟩
  noCertificate hurl hc := by
    change s.isClosing = false at hc
    rw [hclosing] at hc
    cases hc
  oneWebhook := h.oneWebhook
  noActive hurl := hactive (h.noActive hurl)
  copies_le := h.copies_le
  copying hsome := by
    refine h.copying ?_
    by_contra hnone
    change active.isSome = true at hsome
    rw [hactive (by simpa using hnone)] at hsome
    cases hsome
  copied hcopies hnone := by
    refine ⟨rfl, htaken ?_ hnone⟩
    by_contra hnot
    have hclosed := (h.copied hcopies (by simpa using hnot)).1
    rw [hopen] at hclosed
    cases hclosed
  kept _ := hkept
  activeUrl q' hq' := by
    obtain ⟨q, hq, heq⟩ := hquery q' hq'
    rw [heq]
    exact h.activeUrl q hq
  closed _ := hclosing
  hungUp _ := rfl
  removing _ := rfl

def Emits (s t : ClientWebhook) : Prop := t = s ∨ ∃ effect, t = s.emit effect

theorem Emits.core {t : ClientWebhook} (h : Emits s t) : t.core = s.core := by
  rcases h with rfl | ⟨effect, rfl⟩ <;> rfl

theorem resetWebhook_core {t : ClientWebhook} (hid : s.settings.url = [] → s.webhookId = none)
    (h : { s with webhookId := none }.core = t.core) : s.resetWebhook.core = t.core := by
  rw [← h]
  unfold resetWebhook
  split_ifs with hurl
  · simp only [core, hid hurl]
    rfl
  · split
    · rename_i hnone
      simp only [core, hnone]
      rfl
    · rfl

theorem Inv.onClosed (h : Inv inet s) (hopen : s.tdClosed = false) (now : Int) :
    Safe inet (s.onClosed now) := by
  unfold ClientWebhook.onClosed
  cases hclosing : s.isClosing with
  | false => exact (rfl : WebhookAssertion.onClosedNotClosing.isOwn = false)
  | true =>
      rw [if_neg (by simp)]
      rcases failMemberClosing_cases (s := { s with tdClosed := true }) s.webhookSetQuery now with
        herror | ⟨pending, t, hok, ht, hpending, -, -, -⟩
      · rw [herror]
        exact (rfl : WebhookAssertion.answeredTwice.isOwn = false)
      rw [hok]
      simp only
      rcases failMemberClosing_cases (s := t) t.activeWebhookSetQuery now with
        herror | ⟨active, v, hok', hv, hactive, hkept, htaken, hquery⟩
      · rw [herror]
        exact (rfl : WebhookAssertion.answeredTwice.isOwn = false)
      rw [hok']
      simp only
      have ht := Emits.core ht
      have hv := Emits.core hv
      simp only [core, Prod.mk.injEq] at ht hv
      obtain ⟨hurl₁, hcert₁, hid₁, -, hactive₁, hcallbacks₁, hcopies₁, hunlinks₁, hclosing₁, hretries₁, htd₁,
        hremoving₁⟩ := ht
      obtain ⟨hurl₂, hcert₂, hid₂, -, -, hcallbacks₂, hcopies₂, hunlinks₂, hclosing₂, hretries₂, htd₂,
        hremoving₂⟩ := hv
      have hinv : Inv inet (s.closedWith pending active) := by
        refine h.closedWith hclosing hopen hpending ?_ ?_ ?_ ?_
        · exact fun hnone => hactive (hactive₁.trans hnone)
        · exact fun hsome => hretries₁.symm.trans (hkept hsome)
        · exact fun hsome hnone => hretries₁.symm.trans (htaken (by rw [hactive₁]; exact hsome) hnone)
        · intro q' hq'
          obtain ⟨q, hq, heq⟩ := hquery q' hq'
          exact ⟨q, hactive₁.symm.trans hq, heq⟩
      have hcore : { v with
          webhookSetQuery := pending
          activeWebhookSetQuery := active }.resetWebhook.core = (s.closedWith pending active).core := by
        refine resetWebhook_core (fun hurl => ?_) ?_
        · exact (hid₂.trans hid₁).trans (h.noUrl ((hurl₂.trans hurl₁).symm.trans hurl)).2.1
        · simp only [core, Prod.mk.injEq]
          exact ⟨hurl₂.trans hurl₁, hcert₂.trans hcert₁, rfl, rfl, rfl, hcallbacks₂.trans hcallbacks₁,
            hcopies₂.trans hcopies₁, hunlinks₂.trans hunlinks₁, hclosing₂.trans hclosing₁,
            hretries₂.trans hretries₁, htd₂.trans htd₁, hremoving₂.trans hremoving₁⟩
      have hreset := hinv.congr hcore
      generalize { v with
          webhookSetQuery := pending
          activeWebhookSetQuery := active }.resetWebhook = w at hreset hcore
      have htd : w.tdClosed = true := by
        simp only [core, Prod.mk.injEq] at hcore
        exact hcore.2.2.2.2.2.2.2.2.2.2.1
      split_ifs
      · exact
          { exclusive := hreset.exclusive
            noUrl := hreset.noUrl
            noCertificate := hreset.noCertificate
            oneWebhook := hreset.oneWebhook
            noActive := hreset.noActive
            copies_le := hreset.copies_le
            copying := hreset.copying
            copied := hreset.copied
            kept := hreset.kept
            activeUrl := hreset.activeUrl
            closed := hreset.closed
            hungUp := hreset.hungUp
            removing := fun _ => htd }
      · exact hreset.finishClosing (hreset.hungUp htd)

/-- A message that only changes how the client ends. -/
theorem Inv.ending (h : Inv inet s) {t : ClientWebhook} (hopen : s.tdClosed = false)
    (hcore : { t with
      loggingOut := s.loggingOut
      closing := s.closing
      isApiIdInvalid := s.isApiIdInvalid
      nextAuthorizationTime := s.nextAuthorizationTime }.core = s.core)
    (hclosing : s.isClosing = true → t.isClosing = true) : Inv inet t := by
  simp only [core, Prod.mk.injEq] at hcore
  obtain ⟨hurl, hcert, hid, hset, hactive, hcallbacks, hcopies, hunlinks, -, -, htd, hremoving⟩ := hcore
  have hclosed : t.tdClosed = false := htd.trans hopen
  constructor
  · rw [hset, hactive]
    exact h.exclusive
  · rw [hurl, hset, hid, hcallbacks, hunlinks]
    exact h.noUrl
  · intro hnil hnot
    rw [hcert]
    refine h.noCertificate (hurl.symm.trans hnil) ?_
    by_contra hc
    rw [hclosing (by simpa using hc)] at hnot
    cases hnot
  · rw [hcallbacks, hunlinks]
    exact h.oneWebhook
  · rw [hurl, hactive]
    exact h.noActive
  · rw [hcopies]
    exact h.copies_le
  · rw [hactive, hcopies]
    exact h.copying
  · intro hone hnone
    have hc := (h.copied (hcopies.symm.trans hone) (hactive.symm.trans hnone)).1
    rw [hopen] at hc
    cases hc
  · intro hc
    rw [hclosed] at hc
    cases hc
  · rw [hactive]
    exact h.activeUrl
  · intro hc
    rw [hclosed] at hc
    cases hc
  · intro hc
    rw [hclosed] at hc
    cases hc
  · rw [hremoving, htd]
    exact h.removing

theorem Inv.expire (h : Inv inet s) : Inv inet { s with stopped := true } := h.congr rfl

/-! ### Runs -/

/-- A certificate has been copied after `on_closed` has answered its query, and the client lives. -/
def LateCopy (s : ClientWebhook) : ClientWebhookEvent → Prop
  | .certificateCopied _ _ => s.stopped = false ∧ 0 < s.copies ∧ s.tdClosed = true ∧ s.retriesLater = false
  | _ => False

/-- Without a late copy the copied certificate has its query. -/
theorem Inv.active_isSome (h : Inv inet s) (hcopies : s.copies ≠ 0)
    (hlate : ¬ (0 < s.copies ∧ s.tdClosed = true ∧ s.retriesLater = false)) :
    ∃ query, s.activeWebhookSetQuery = some query := by
  have hone : s.copies = 1 := by
    have := h.copies_le
    omega
  refine Option.ne_none_iff_exists'.1 fun hnone => hlate ?_
  exact ⟨by omega, h.copied hone hnone⟩

theorem Inv.step (h : Inv inet s) {e : ClientWebhookEvent} (hlate : ¬ LateCopy s e) :
    Safe inet (s.step inet P e) := by
  unfold ClientWebhook.step
  by_cases hstopped : s.stopped = true
  · rw [if_pos hstopped]
    exact h
  rw [if_neg hstopped]
  have hstopped : s.stopped = false := by simpa using hstopped
  cases e with
  | query query now =>
      simp only
      split_ifs
      · exact h.respond _ _
      · exact h.processSetWebhookQuery query now
  | logOutRequested =>
      simp only
      split_ifs
      · exact h
      · exact (h.congr rfl : Inv inet { s with clearTqueueFlag := true })
  | closeRequested => exact (h.congr rfl : Inv inet { s with needClose := true })
  | authorizationFailed apiIdInvalid nextAuthorizationTime =>
      simp only
      split_ifs with htd
      · exact h
      · exact h.ending (by simpa using htd) rfl id
  | authorizationStateLoggingOut =>
      simp only
      split_ifs with htd
      · exact h
      · exact h.ending (by simpa using htd) rfl fun _ => rfl
  | authorizationStateClosing =>
      simp only
      split_ifs with htd
      · exact h
      · exact h.ending (by simpa using htd) rfl fun _ => by simp [isClosing]
  | authorizationStateClosed now =>
      simp only
      split_ifs with htd
      · exact h
      · exact h.onClosed (by simpa using htd) now
  | directoryRemoved =>
      simp only
      split_ifs with hremoving
      · have htd := h.removing hremoving
        refine Inv.finishClosing ?_ (h.hungUp htd)
        exact ⟨h.exclusive, h.noUrl, h.noCertificate, h.oneWebhook, h.noActive, h.copies_le, h.copying,
          h.copied, h.kept, h.activeUrl, h.closed, h.hungUp, fun hc => nomatch hc⟩
      · exact h
  | timeoutExpired =>
      simp only
      split_ifs
      · exact h.expire
      · exact h
  | webhookVerified generation cachedIpAddress =>
      simp only
      split_ifs
      · exact h.webhookVerified generation cachedIpAddress
      · exact h
  | webhookClosed generation status now =>
      simp only
      split_ifs with hmem
      · exact h.webhookClosed hmem status now
      · exact h
  | hangupShared generation now =>
      simp only
      split_ifs with hmem
      · exact h.webhookClosed hmem _ now
      · exact h
  | certificateCopied success now =>
      simp only
      split_ifs with hcopies
      · exact h
      · obtain ⟨query, hactive⟩ := h.active_isSome hcopies fun hc => hlate ⟨hstopped, hc⟩
        exact h.certificateCopied hactive success now
  | certificateUnlinked now =>
      simp only
      split
      · exact h
      · rename_i hunlinks
        exact h.certificateUnlinked hunlinks now

/-- A late copy finds no query. -/
theorem Inv.step_lateCopy (h : Inv inet s) {e : ClientWebhookEvent} (hlate : LateCopy s e) :
    s.step inet P e = .error .certificateCopiedNoQuery := by
  cases e with
  | certificateCopied success now =>
      obtain ⟨hstopped, hcopies, htd, hretries⟩ := hlate
      have hnone : s.activeWebhookSetQuery = none := by
        by_contra hsome
        have hkept := h.kept htd (Option.isSome_iff_ne_none.2 hsome)
        rw [hretries] at hkept
        cases hkept
      simp only [ClientWebhook.step, hstopped, Bool.false_eq_true, if_false, if_neg (by omega : ¬ s.copies = 0),
        onWebhookCertificateCopied, hnone]
  | _ => exact hlate.elim

/-- What the handlers rely on between two messages: no assertion of theirs has failed, at most one
query waits for the webhook, and without an address there is neither an actor nor a certificate. -/
def Sound : Except WebhookAssertion ClientWebhook → Prop
  | .error assertion => assertion.isOwn = false
  | .ok s => (s.webhookSetQuery = none ∨ s.activeWebhookSetQuery = none) ∧
      (s.settings.url = [] → s.isClosing = false → s.webhookId = none ∧ s.settings.hasCertificate = false)

theorem Safe.sound {r : Except WebhookAssertion ClientWebhook} (h : Safe inet r) : Sound r := by
  cases r with
  | error assertion => exact h
  | ok s =>
      have h : Inv inet s := h
      exact ⟨h.exclusive, fun hurl hclosing => ⟨(h.noUrl hurl).2.1, h.noCertificate hurl hclosing⟩⟩

def NoLateCopy : Except WebhookAssertion ClientWebhook → ClientWebhookEvent → Prop
  | .ok s, e => ¬ LateCopy s e
  | .error _, _ => True

theorem Inv.init : Inv inet {} :=
  ⟨Or.inl rfl, fun _ => ⟨rfl, rfl, rfl, rfl⟩, fun _ _ => rfl, by decide, fun _ => rfl, by decide,
    fun h => (nomatch h), fun h => (nomatch h), fun h => (nomatch h), fun _ h => (nomatch h),
    fun h => (nomatch h), fun _ => rfl, fun h => (nomatch h)⟩

/-- A run without a late copy is safe throughout, and a late copy ends it at an assertion. -/
theorem stepRun_safe {r : Except WebhookAssertion ClientWebhook} (h : Safe inet r)
    {e : ClientWebhookEvent} (hlate : NoLateCopy r e) : Safe inet (stepRun inet P r e) := by
  cases r with
  | error assertion => exact h
  | ok s => exact Inv.step h hlate

theorem stepRun_lateCopy {r : Except WebhookAssertion ClientWebhook} (h : Safe inet r)
    {e : ClientWebhookEvent} (hlate : ¬ NoLateCopy r e) : ¬ Sound (stepRun inet P r e) := by
  cases r with
  | error assertion => exact absurd trivial hlate
  | ok s =>
      have hstep := Inv.step_lateCopy (P := P) h (not_not.1 hlate)
      change ¬ Sound (s.step inet P e)
      rw [hstep]
      exact Bool.noConfusion

/-- The handlers stay sound exactly as long as no certificate is copied too late. -/
theorem client_webhook_sound (inet : InetPton) (P : WebhookParameters) (events : List ClientWebhookEvent) :
    StepRun.AllSteps (stepRun inet P) (fun r e => Sound (stepRun inet P r e)) (.ok {}) events ↔
      StepRun.AllSteps (stepRun inet P) NoLateCopy (.ok {}) events := by
  have hinit : Safe inet (.ok {}) := Inv.init
  refine StepRun.allSteps_congr (I := Safe inet) (fun r e hr hlate => stepRun_safe hr hlate)
    (fun r e hr => ?_) hinit events
  refine ⟨fun hsound => ?_, fun hlate => (stepRun_safe hr hlate).sound⟩
  by_contra hlate
  exact stepRun_lateCopy hr hlate hsound

theorem not_sound_of_run_error {P : WebhookParameters} {events : List ClientWebhookEvent}
    {e : ClientWebhookEvent} {assertion : WebhookAssertion} (hown : assertion.isOwn = true)
    (h : StepRun.run (stepRun inet P) (.ok {}) (events ++ [e]) = .error assertion) :
    ¬ StepRun.AllSteps (stepRun inet P) (fun r e => Sound (stepRun inet P r e)) (.ok {}) (events ++ [e]) := by
  intro hall
  rw [StepRun.run_concat] at h
  have hlast := ((StepRun.allSteps_concat _ _ _).1 hall).2
  rw [h] at hlast
  exact Bool.false_ne_true (hlast.symm.trans hown)

/-- The client is logged out while the certificate of its webhook is being copied. -/
theorem client_webhook_certificate_late :
    let inet : InetPton := ⟨fun _ => none, fun _ => none⟩
    let query : BotQuery := {
      token := "1:A".toList
      method := "setwebhook".toList
      args := [("url".toList, "https://h.org/".toList)]
      files := [{ fieldName := "certificate".toList, size := 900, tempFileName := "/tmp/c".toList }] }
    let before := [.query query 0, .logOutRequested, .authorizationStateLoggingOut, .authorizationStateClosed 0]
    let events := before ++ [.certificateCopied true 0]
    StepRun.run (stepRun inet {}) (.ok {}) events = .error .certificateCopiedNoQuery ∧
      ¬ StepRun.AllSteps (stepRun inet {}) (fun r e => Sound (stepRun inet {} r e)) (.ok {}) events := by
  intro inet query before events
  have heval : (match StepRun.run (stepRun inet {}) (.ok {}) events with
      | .error assertion => assertion = .certificateCopiedNoQuery
      | .ok _ => false) = true := by
    decide +kernel
  have hrun : StepRun.run (stepRun inet {}) (.ok {}) events = .error .certificateCopiedNoQuery := by
    cases hr : StepRun.run (stepRun inet {}) (.ok {}) events with
    | ok s =>
        rw [hr] at heval
        cases heval
    | error assertion =>
        rw [hr] at heval
        rw [of_decide_eq_true heval]
  exact ⟨hrun, not_sound_of_run_error rfl hrun⟩

end ClientWebhook

end TelegramBotApi
