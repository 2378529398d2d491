import TelegramBotApi.SendOrder

/-!
# When the answers name the right messages

The answer of a complete query is read from its reports. A list in the order of the request asks for reports
in that order, because no two messages are sent under one identifier; a position is the one of the report
that gave it. An album whose second message is sent first is answered in the wrong order.
-/

namespace TelegramBotApi

section Lists

variable {α β κ : Type*} [DecidableEq κ]

/-- What is found under the key of an element is what belongs to the element, when no key occurs twice. -/
theorem findSome?_key {l : List α} {key : α → κ} (h : (l.map key).Nodup) {a : α} (ha : a ∈ l) (f : α → Option β) :
    (l.findSome? fun b => if key b = key a then f b else none) = f a := by
  induction l with
  | nil => cases ha
  | cons b l ih =>
      obtain ⟨hb, hl⟩ := List.nodup_cons.1 h
      rw [List.findSome?_cons]
      rcases List.mem_cons.1 ha with rfl | ha
      · rw [if_pos rfl]
        cases hf : f a with
        | some c => rfl
        | none =>
            refine List.findSome?_eq_none_iff.2 fun c hc => if_neg fun heq => hb ?_
            rw [← heq]
            exact List.mem_map_of_mem hc
      · have hne : key b ≠ key a := ne_of_mem_of_not_mem (List.mem_map_of_mem ha) hb |>.symm
        rw [if_neg hne]
        exact ih hl ha

theorem eq_of_map_eq {f : α → Option β} (hf : ∀ a b c, f a = some c → f b = some c → a = b) {l l' : List α}
    (hl : ∀ a ∈ l, f a ≠ none) (h : l.map f = l'.map f) : l = l' := by
  induction l generalizing l' with
  | nil => exact (List.map_eq_nil_iff.1 h.symm).symm
  | cons a l ih =>
      cases l' with
      | nil => cases h
      | cons b l' =>
          obtain ⟨hhead, htail⟩ := List.cons.inj h
          obtain ⟨c, hc⟩ := Option.ne_none_iff_exists'.1 (hl a List.mem_cons_self)
          rw [hf a b c hc (hhead.symm.trans hc), ih (fun a ha => hl a (List.mem_cons_of_mem _ ha)) htail]

end Lists

theorem map_newMessageIds {reports : List SendReport} (h : AllSent reports) :
    (newMessageIds reports).map some = reports.map (·.outcome.toOption) := by
  induction reports with
  | nil => rfl
  | cons report reports ih =>
      obtain ⟨newMessageId, hsent⟩ := Option.ne_none_iff_exists'.1 (h report List.mem_cons_self)
      have hrest := ih fun report hmem => h report (List.mem_cons_of_mem _ hmem)
      unfold newMessageIds at hrest ⊢
      rw [List.filterMap_cons, List.map_cons, hsent, ← hrest]
      rfl

namespace SendHistory

variable {h : SendHistory} {query : Nat} {messages : ReturnedMessages}

namespace Kept

theorem sentAs_of_mem (hk : Kept h) {report : SendReport} (hmem : report ∈ h.toldOf query) :
    h.sentAs query report.message.messageId = report.outcome.toOption :=
  findSome?_key (hk.once query) hmem fun report => report.outcome.toOption

/-- No two messages of a query are sent under one identifier. -/
theorem sentAs_injective (hk : Kept h) (messageId messageId' newMessageId : Int)
    (hsent : h.sentAs query messageId = some newMessageId) (hsent' : h.sentAs query messageId' = some newMessageId) :
    messageId = messageId' := by
  have hfound : ∀ {id}, h.sentAs query id = some newMessageId →
      ∃ report ∈ h.toldOf query, report.message.messageId = id ∧ report.outcome.toOption = some newMessageId :=
    fun {id} hid => by
      obtain ⟨report, hmem, heq⟩ := List.exists_of_findSome?_eq_some hid
      split_ifs at heq with hsame
      exact ⟨report, hmem, hsame, heq⟩
  obtain ⟨report, hmem, rfl, hnew⟩ := hfound hsent
  obtain ⟨report', hmem', rfl, hnew'⟩ := hfound hsent'
  obtain ⟨hin, hquery⟩ := List.mem_filter.1 hmem
  obtain ⟨hin', hquery'⟩ := List.mem_filter.1 hmem'
  obtain ⟨messages, hreturned, hchat⟩ := hk.told report hin
  obtain ⟨messages', hreturned', hchat'⟩ := hk.told report' hin'
  rw [of_decide_eq_true hquery] at hreturned
  rw [of_decide_eq_true hquery'] at hreturned'
  cases hreturned.symm.trans hreturned'
  have hsame : report.newMessage = report'.newMessage := by
    unfold SendReport.newMessage
    rw [hnew, hnew', hchat, hchat']
  have hsome : report.newMessage ≠ none := by
    unfold SendReport.newMessage
    rw [hnew]
    exact Option.some_ne_none _
  by_contra hne
  have hsymm : Std.Symm fun report report' : SendReport =>
      report.newMessage = none ∨ report.newMessage ≠ report'.newMessage := ⟨fun a b hab => by
    by_cases heq : b.newMessage = a.newMessage
    · exact Or.inl (heq.trans (hab.resolve_right fun hab => hab heq.symm))
    · exact Or.inr heq⟩
  have hdistinct := hk.fresh.forall hin hin' fun heq => hne (congrArg (·.message.messageId) heq)
  exact hdistinct.elim hsome fun hdistinct => hdistinct hsame

/-- A complete query was answered by what its reports add up to. -/
theorem exists_answer (hk : Kept h) (hcomplete : h.Complete query messages) :
    (query, (messages.after query (h.toldOf query)).finalAnswer) ∈ h.client.answers := by
  rcases hk.returned query messages hcomplete.1 with ⟨q, p, hp, rfl⟩ | ⟨a, ha⟩
  · exact absurd hcomplete (hk.not_complete_of_pending hp messages)
  · rw [← (hk.answers query a ha).1 messages hcomplete]
    exact ha

/-- A query whose messages were all sent has them in the order of its request if the reports have come in it. -/
theorem names_of_sent (hk : Kept h) (hcomplete : h.Complete query messages) (hsent : AllSent (h.toldOf query))
    (onlyId : Bool) : h.NamesMessages query (.messages (newMessageIds (h.toldOf query)) onlyId) ↔
      (h.toldOf query).map (·.message.messageId) = messages.messageIds := by
  have htold : (newMessageIds (h.toldOf query)).map some =
      ((h.toldOf query).map (·.message.messageId)).map (h.sentAs query) := by
    rw [map_newMessageIds hsent, List.map_map]
    exact List.map_congr_left fun report hmem => (hk.sentAs_of_mem hmem).symm
  constructor
  · rintro ⟨messages', hcomplete', heq⟩
    cases hcomplete.1.symm.trans hcomplete'.1
    refine eq_of_map_eq hk.sentAs_injective (fun messageId hid => ?_) (htold.symm.trans heq)
    obtain ⟨report, hmem, rfl⟩ := List.mem_map.1 hid
    rw [hk.sentAs_of_mem hmem]
    exact hsent report hmem
  · intro heq
    exact ⟨messages, hcomplete, by rw [htold, heq]⟩

/-- The answer of a complete query names the right messages if and only if its reports have come in order. -/
theorem names_iff (hk : Kept h) (hcomplete : h.Complete query messages) :
    h.NamesMessages query (messages.after query (h.toldOf query)).finalAnswer ↔ h.InOrder query messages := by
  have herror := messages.after_error query (h.toldOf query)
  unfold PendingSendMessageQuery.finalAnswer
  cases he : (messages.after query (h.toldOf query)).error with
  | none =>
      rw [he] at herror
      have hsent := herror.sent.1 rfl
      dsimp only
      rw [messages.after_messages query, hk.names_of_sent hcomplete hsent]
      refine ⟨fun heq => ⟨fun _ => heq, fun i error hgives => ?_⟩, fun horder => horder.1 hsent⟩
      cases herror.gives i error hgives
  | some e =>
      rw [he] at herror
      have hfailed : ¬ AllSent (h.toldOf query) := fun hsent => absurd (herror.sent.2 hsent) (Option.some_ne_none e)
      constructor
      · intro hnames
        refine ⟨fun hsent => absurd hsent hfailed, fun i error hgives => ?_⟩
        cases herror.gives i error hgives
        obtain ⟨i', hi', messageId, hid, hunsent⟩ :=
          hnames messages hcomplete (i + 1) (names_positionError hgives.2.1 _)
        have hsame : i' = i := by omega
        rw [hsame] at hid
        exact ⟨messageId, hid, hunsent⟩
      · intro horder messages' hcomplete' k hk'
        cases hcomplete.1.symm.trans hcomplete'.1
        rcases herror.position e rfl with hplain | ⟨i, error, hgives, rfl⟩
        · exact absurd hk' (not_names_of_plain hplain k)
        · exact ⟨i, eq_of_names hk', horder.2 i error hgives⟩

end Kept

/-- In every run the answers name the right messages if and only if the reports of every complete query have come
in order: if all its messages were sent, in the order of the messages; and otherwise the report that gives a
position has come at the place of a message that was not sent. -/
theorem answers_name_messages (xs : List SendInput) :
    let h := StepRun.run step {} xs
    (∀ query a, (query, a) ∈ h.client.answers → h.NamesMessages query a) ↔
      ∀ query messages, h.Complete query messages → h.InOrder query messages := by
  intro h
  have hk : Kept h := StepRun.run_invariant_always (fun _ x hk => hk.step x) Kept.initial xs
  constructor
  · intro hall query messages hcomplete
    exact (hk.names_iff hcomplete).1 (hall query _ (hk.exists_answer hcomplete))
  · intro horder query a ha
    obtain ⟨hfinal, hmessages⟩ := hk.answers query a ha
    cases a with
    | message messageId onlyId => trivial
    | retryAfter seconds => trivial
    | messages messageIds onlyId =>
        obtain ⟨messages, hcomplete⟩ := hmessages messageIds onlyId rfl
        rw [hfinal messages hcomplete]
        exact (hk.names_iff hcomplete).2 (horder query messages hcomplete)
    | error error =>
        intro messages hcomplete
        have hnames := (hk.names_iff hcomplete).2 (horder query messages hcomplete)
        rw [← hfinal messages hcomplete] at hnames
        exact hnames messages hcomplete

/-- The second message of an album is sent first. -/
def outOfOrderAlbum : List SendInput :=
  [.query (.sendMediaGroup 2), .checked 0 (.ok 1), .result 1 (.messages [some 10, some 11]), .sendSucceeded 1 101 11,
    .sendSucceeded 1 100 10].map fun event => ⟨event, { code := 500, message := "" }⟩

theorem album_out_of_order : ¬ ∀ (xs : List SendInput) (query : Nat) (a : SendAnswer),
    (query, a) ∈ (StepRun.run step {} xs).client.answers → (StepRun.run step {} xs).NamesMessages query a := fun h => by
  obtain ⟨messages, hcomplete, heq⟩ := h outOfOrderAlbum 0 (.messages [101, 100] false) (by decide +kernel)
  have hids : ((StepRun.run step {} outOfOrderAlbum).returned.lookup 0).map (·.messageIds) = some [10, 11] := by
    decide +kernel
  rw [hcomplete.1] at hids
  rw [show messages.messageIds = [10, 11] from Option.some_inj.1 hids] at heq
  revert heq
  decide +kernel

end SendHistory

end TelegramBotApi
