import TelegramBotApi.LoginUrlQueries
import Mathlib.Data.List.Perm.Basic

/-!
# Login buttons get their bots

`Numbered` and `Waiting` hold along every run in which a number that is a multiple of a thousand is always a
temporary one where it is taken for one, no name is forgotten that a kept keyboard needs, and no name is left over
from another query.
-/

namespace TelegramBotApi

namespace LoginUrlClient

open BotUserIds (signed KeepsNames Real)

variable {myId : Int} {s t : LoginUrlClient} {await : Slice → List Int} {username : Slice} {userId k : Int}

/-- The keyboards of a query can be told from temporary numbers: no name of theirs was found under a multiple of
a thousand, none is forgotten, and the bot of the client has no such number if it stands beside a name that is to
be looked up. -/
structure PlainQuery (ids : BotUserIds) (lookups : List (Slice × Int)) (q : KeyboardQuery) : Prop where
  real : Real lookups (q.keyboards.markups.flatMap BotUserIds.markupUsernames)
  keeps : KeepsNames ids q.keyboards.markups
  default : ∀ buttons, (ids.getReplyMarkups q.keyboards.markups).1 = .ok buttons →
    (ids.getReplyMarkups q.keyboards.markups).2.unresolvedBotUsernames ≠ [] →
    (∃ button ∈ buttons, button.botUsername = []) → ids.defaultBotUserId % 1000 ≠ 0

/-- A step that reads keyboards reads plain ones, and no name is left over from another query. -/
def Plain (s : LoginUrlClient) : LoginUrlEvent → Prop
  | .query q => s.closing = false → q.checksMessage = false →
    PlainQuery { s.ids with unresolvedBotUsernames := [] } s.lookups q
  | .checked query none => ∀ q, s.checking.lookup query = some q →
    s.ids.unresolvedBotUsernames = [] ∧ PlainQuery s.ids s.lookups q
  | _ => True

/-- A message without an inline keyboard has no names to look up. -/
theorem mayWait_of_unresolved {ids : BotUserIds} (hnil : ids.unresolvedBotUsernames = []) {keyboards : Keyboards}
    {buttons : List LoginButton} (hok : (ids.getReplyMarkups keyboards.markups).1 = .ok buttons)
    (hsome : (ids.getReplyMarkups keyboards.markups).2.unresolvedBotUsernames ≠ []) : keyboards.mayWait = true := by
  cases keyboards with
  | results markups => rfl
  | message markup =>
      cases markup with
      | none => exact absurd hnil hsome
      | some m =>
          change m.isInline = true
          by_contra hkind
          refine hsome ?_
          unfold Keyboards.markups Option.toList BotUserIds.getReplyMarkups BotUserIds.getReplyMarkup at hok ⊢
          generalize ids.getInlineKeyboard m.inlineKeyboard.flatten = r at hok ⊢
          obtain ⟨r, b⟩ := r
          cases r with
          | error error => cases hok
          | ok found =>
              dsimp only at hok ⊢
              cases herror : m.error with
              | some error =>
                  rw [herror] at hok
                  cases hok
              | none =>
                  dsimp only
                  rw [if_neg hkind]
                  rfl

theorem Waiting.fail (h : Waiting myId s await none) (query : Nat) {failure : LoginFailure}
    (hfailure : ∀ n, failure ≠ .notFound n) : Waiting myId (s.fail query failure []) await none := by
  refine ⟨h.numbered, h.default, h.unknown, h.real, h.counted, h.awaits, h.joined, h.buttons, h.listed, h.named,
    h.carried, fun e he n hn => ?_, h.sound⟩
  rcases List.mem_append.1 he with hold | hnew
  · exact h.failures e hold n hn
  · rw [List.mem_singleton.1 hnew] at hn
    exact absurd hn (hfailure n)

theorem places_fail (s : LoginUrlClient) (query : Nat) (failure : LoginFailure) (buttons : List LoginButton) :
    (s.fail query failure buttons).places.Perm (query :: s.places) := by
  unfold places LoginUrlClient.fail
  dsimp only
  rw [List.map_append, ← List.append_assoc (s.continued.map _), ← List.append_assoc]
  exact List.perm_append_singleton _ _

/-- A query that is read is continued, fails or waits. -/
theorem Waiting.process (h : Waiting myId s s.awaitedBy none) (hflight : InFlight s) (query : Nat) (q : KeyboardQuery)
    (hnil : s.ids.unresolvedBotUsernames = []) (hplain : PlainQuery s.ids s.lookups q) :
    let t := s.process query q
    Waiting myId t t.awaitedBy none ∧ InFlight t ∧ t.places.Perm (query :: s.places) ∧ t.checking = s.checking ∧
      t.queryCount = s.queryCount := by
  obtain ⟨hreads, hfound⟩ := BotUserIds.getReplyMarkups_spec h.numbered q.keyboards.markups hplain.real hplain.keeps
  have hdefault := hplain.default
  have hmayWait : ∀ buttons, (s.ids.getReplyMarkups q.keyboards.markups).1 = .ok buttons →
      (s.ids.getReplyMarkups q.keyboards.markups).2.unresolvedBotUsernames ≠ [] → q.keyboards.mayWait = true :=
    fun _ => mayWait_of_unresolved hnil
  unfold LoginUrlClient.process
  generalize s.ids.getReplyMarkups q.keyboards.markups = r at hreads hfound hdefault hmayWait ⊢
  obtain ⟨r, ids⟩ := r
  have hread := h.reads hreads
  have hflying : InFlight { s with ids := ids } := ⟨hflight.nodup, hflight.awaited, hflight.nonempty⟩
  cases r with
  | error error =>
      exact ⟨hread.fail query fun _ => LoginFailure.noConfusion, ⟨hflight.nodup, hflight.awaited, hflight.nonempty⟩,
        places_fail _ _ _ _, rfl, rfl⟩
  | ok buttons =>
      dsimp only at hreads hfound hdefault hmayWait hread hflying ⊢
      obtain ⟨hreading, hnames⟩ := hfound buttons rfl
      cases herror : q.error with
      | some error =>
          exact ⟨hread.fail query fun _ => LoginFailure.noConfusion,
            ⟨hflight.nodup, hflight.awaited, hflight.nonempty⟩, places_fail _ _ _ _, rfl, rfl⟩
      | none =>
          dsimp only
          have hids : ids.defaultBotUserId = myId := hreads.default.trans h.default
          have hmine : ∀ button ∈ buttons, button.botUsername = [] → Carries myId s.lookups button ∧
              button.id = signed button.requestWriteAccess myId := fun button hbutton hname => by
            have hid := hreading button hbutton
            unfold BotUserIds.Reading at hid
            rw [if_pos hname, hids] at hid
            unfold Carries
            rw [if_pos hname]
            exact ⟨hid, hid⟩
          by_cases hwait : ids.unresolvedBotUsernames = []
          · rw [if_neg (not_not_intro hwait)]
            refine ⟨⟨hread.numbered, hread.default, hread.unknown, hread.real, hread.counted, hread.awaits,
              hread.joined, hread.buttons, hread.listed, hread.named, fun e he button hbutton => ?_, hread.failures,
              hread.sound⟩, ⟨hflight.nodup, hflight.awaited, hflight.nonempty⟩, ?_, rfl, rfl⟩
            · rcases List.mem_append.1 he with hold | hnew
              · exact hread.carried e hold button hbutton
              · rw [List.mem_singleton.1 hnew] at hbutton
                by_cases hname : button.botUsername = []
                · exact (hmine button hbutton hname).1
                · have hid := hreading button hbutton
                  unfold BotUserIds.Reading at hid
                  rw [if_neg hname] at hid
                  obtain ⟨number, hid, ⟨hknown, -⟩ | ⟨-, hmem⟩⟩ := hid
                  · unfold Carries
                    rw [if_neg hname]
                    exact ⟨number, hknown, hid⟩
                  · rw [hwait] at hmem
                    exact absurd hmem List.not_mem_nil
            · unfold places
              dsimp only
              rw [List.map_append, List.append_assoc (s.continued.map _)]
              exact (List.perm_middle.append_left _).trans List.perm_middle
          · have hnew : ∀ n ∈ ids.unresolvedBotUsernames, n ≠ [] ∧ (∃ button ∈ buttons, button.botUsername = n) ∧
                ∃ number, Unknown ids s.lookups n number := fun n hn => by
              rcases hnames n hn with hold | ⟨button, hbutton, hname, hne, hunknown⟩
              · rw [hnil] at hold
                exact absurd hold List.not_mem_nil
              · exact ⟨hne, ⟨button, hbutton, hname⟩, hunknown⟩
            have hcheck :
                ({ s with ids := ids } : LoginUrlClient).check q.keyboards.mayWait = { s with ids := ids } := by
              unfold check
              rw [hmayWait buttons rfl hwait, Bool.not_true, Bool.or_false]
            rw [if_pos hwait, hcheck]
            refine hread.resolveBotUsernames hflying query hwait (hreads.nodup (by rw [hnil]; exact List.nodup_nil))
              (fun n hn => (hnew n hn).2.2) (fun button hbutton => ?_) (fun button hbutton hmem => ?_)
              fun n hn => (hnew n hn).2.1
            · by_cases hname : button.botUsername = []
              · obtain ⟨hcarries, hid⟩ := hmine button hbutton hname
                refine Or.inl ⟨?_, hcarries⟩
                rw [hid, Ne, signed_multiple, ← hids, hreads.default]
                exact hdefault buttons rfl hwait ⟨button, hbutton, hname⟩
              · have hid := hreading button hbutton
                unfold BotUserIds.Reading at hid
                rw [if_neg hname] at hid
                obtain ⟨number, hid, ⟨hknown, hmultiple⟩ | ⟨hunknown, hmem⟩⟩ := hid
                · refine Or.inl ⟨?_, ?_⟩
                  · rw [hid, Ne, signed_multiple]
                    exact hmultiple
                  · unfold Carries
                    rw [if_neg hname]
                    exact ⟨number, hknown, hid⟩
                · exact Or.inr ⟨hname, number, hid, hunknown.temporary, Or.inl hmem⟩
            · obtain ⟨hne, -, number', hunknown'⟩ := hnew button.botUsername hmem
              have hid := hreading button hbutton
              unfold BotUserIds.Reading at hid
              rw [if_neg hne] at hid
              obtain ⟨number, hid, ⟨hknown, -⟩ | ⟨hunknown, -⟩⟩ := hid
              · exact absurd hknown (hunknown'.unfound number)
              · exact ⟨number, hid, hunknown.listed⟩

/-- The state of the client between two messages. -/
structure Sound (myId : Int) (s : LoginUrlClient) : Prop where
  waiting : Waiting myId s s.awaitedBy none
  flight : InFlight s
  placed : s.places.Perm (List.range s.queryCount)

theorem perm_range_succ {l : List Nat} {n : Nat} (h : l.Perm (List.range n)) :
    (n :: l).Perm (List.range (n + 1)) := by
  rw [List.range_succ]
  exact (h.cons n).trans (List.perm_append_singleton n _).symm

theorem Sound.step (h : Sound myId s) (e : LoginUrlEvent) (hplain : Plain s e) : Sound myId (s.step e) := by
  unfold LoginUrlClient.step
  rw [if_neg (ne_true_of_eq_false h.waiting.sound)]
  cases e with
  | closing => exact ⟨h.waiting.congr _ _ _ _ _, ⟨h.flight.nodup, h.flight.awaited, h.flight.nonempty⟩, h.placed⟩
  | resolved username userId =>
      dsimp only
      split_ifs with hmem
      · have hawaited := (h.flight.awaited username).1 hmem
        obtain ⟨l, hl⟩ := Option.ne_none_iff_exists'.1 hawaited
        have hlist : s.awaitedBy username = l := by
          rw [awaitedBy_of rfl, hl, Option.getD_some]
        have hne : s.awaitedBy username ≠ [] := fun hnil => by
          rw [hlist] at hnil
          exact h.flight.nonempty username (hnil ▸ hl)
        obtain ⟨hserved, hplaces, hawaiting, hrequests, hchecking, hcount, -⟩ :=
          (h.waiting.congr s.awaitingBotResolveQueries (s.requests.erase username) s.checking s.queryCount
            s.closing).onResolveBotUsername username (hl.trans (congrArg some hlist.symm)) hne userId
        have herased : ∀ n, n ≠ username →
            (s.awaitingBotResolveQueries.erase username).lookup n = s.awaitingBotResolveQueries.lookup n :=
          fun n hn => AList.lookup_erase_ne hn
        refine ⟨?_, ⟨?_, fun n => ?_, fun n => ?_⟩, ?_⟩
        · have hsame : Function.update s.awaitedBy username [] = fun n =>
              ((s.awaitingBotResolveQueries.erase username).lookup n).getD [] := funext fun n => by
            by_cases hn : n = username
            · rw [hn, Function.update_self, AList.lookup_erase]
              rfl
            · rw [Function.update_of_ne hn, herased n hn]
              rfl
          rw [hsame] at hserved
          have hfun := funext fun n => awaitedBy_of hawaiting n
          rw [hfun]
          exact hserved
        · rw [hrequests]
          exact h.flight.nodup.erase _
        · rw [hrequests, hawaiting, h.flight.nodup.mem_erase_iff]
          by_cases hn : n = username
          · rw [hn, AList.lookup_erase]
            exact iff_of_false (fun hboth => hboth.1 rfl) fun hboth => hboth rfl
          · rw [herased n hn, and_iff_right hn]
            exact h.flight.awaited n
        · rw [hawaiting]
          by_cases hn : n = username
          · rw [hn, AList.lookup_erase]
            exact fun hnone => by cases hnone
          · rw [herased n hn]
            exact h.flight.nonempty n
        · rw [hcount]
          exact hplaces.trans h.placed
      · exact h
  | query q =>
      have hplaced := perm_range_succ h.placed
      have hcounted := h.waiting.congr s.awaitingBotResolveQueries s.requests s.checking (s.queryCount + 1) s.closing
      have hflight : ∀ ids, InFlight { s with queryCount := s.queryCount + 1, ids := ids } := fun _ =>
        ⟨h.flight.nodup, h.flight.awaited, h.flight.nonempty⟩
      dsimp only
      unfold onCmd
      dsimp only
      by_cases hclosing : s.closing = true
      · rw [if_pos hclosing]
        exact ⟨hcounted.fail s.queryCount fun _ => LoginFailure.noConfusion,
          ⟨h.flight.nodup, h.flight.awaited, h.flight.nonempty⟩, (places_fail _ _ _ _).trans hplaced⟩
      · rw [if_neg hclosing]
        have hcleared := hcounted.setUnresolved []
        by_cases hchecks : q.checksMessage = true
        · rw [if_pos hchecks]
          refine ⟨hcleared.congr _ _ _ _ _, ⟨h.flight.nodup, h.flight.awaited, h.flight.nonempty⟩, ?_⟩
          refine List.Perm.trans ?_ hplaced
          have hnew : s.queryCount ∉ s.checking.keys := fun hmem => by
            have hrange := h.placed.subset (List.mem_append_left _ (List.mem_append_left _ hmem))
            exact absurd (List.mem_range.1 hrange) (Nat.lt_irrefl _)
          unfold places
          dsimp only
          rw [AList.keys_insert, List.erase_of_not_mem hnew, List.cons_append, List.cons_append]
        · rw [if_neg hchecks]
          obtain ⟨hwaiting, hflying, hplaces, -, hcount⟩ := hcleared.process (hflight _) s.queryCount q rfl
            (hplain (Bool.eq_false_iff.2 hclosing) (Bool.eq_false_iff.2 hchecks))
          refine ⟨hwaiting, hflying, hplaces.trans ?_⟩
          rw [hcount]
          exact hplaced
  | checked query error =>
      dsimp only
      cases hq : s.checking.lookup query with
      | none => exact h
      | some q =>
          have htaken := h.waiting.congr s.awaitingBotResolveQueries s.requests (s.checking.erase query) s.queryCount
            s.closing
          have hmem : query ∈ s.checking.keys := AList.mem_keys.1 (AList.lookup_isSome.1 (by rw [hq]; rfl))
          have hplaces : (query :: ({ s with checking := s.checking.erase query } : LoginUrlClient).places).Perm
              (List.range s.queryCount) := by
            refine List.Perm.trans ?_ h.placed
            unfold places
            dsimp only
            rw [AList.keys_erase, ← List.cons_append, ← List.cons_append]
            exact (((List.perm_cons_erase hmem).symm).append_right _).append_right _
          cases error with
          | some error =>
              exact ⟨htaken.fail query fun _ => LoginFailure.noConfusion,
                ⟨h.flight.nodup, h.flight.awaited, h.flight.nonempty⟩, (places_fail _ _ _ _).trans hplaces⟩
          | none =>
              obtain ⟨hnil, hquery⟩ := hplain q hq
              obtain ⟨hwaiting, hflying, hplaces', -, hcount⟩ := htaken.process
                ⟨h.flight.nodup, h.flight.awaited, h.flight.nonempty⟩ query q hnil hquery
              refine ⟨hwaiting, hflying, hplaces'.trans ?_⟩
              rw [hcount]
              exact hplaces

theorem sound_initial (myId : Int) : Sound myId (initial myId) := by
  have hnil : ∀ {α : Type} {p : α → Prop}, ∀ a ∈ ([] : List α), p a := fun _ hmem => absurd hmem List.not_mem_nil
  refine ⟨⟨⟨rfl, fun _ _ h => ?_, fun _ _ h => absurd h.1 List.not_mem_nil⟩, rfl, fun _ h => absurd rfl h,
    fun _ _ h => ?_, fun _ _ h => ?_, fun _ _ h => ?_, fun _ => ⟨List.nodup_nil, hnil⟩, fun _ _ h => ?_,
    fun _ _ h => ?_, fun _ _ h => ?_, hnil, hnil, rfl⟩,
    ⟨List.nodup_nil, fun _ => iff_of_false List.not_mem_nil fun h => h rfl, fun _ h => ?_⟩, .refl _⟩
  all_goals cases h

/-- In every run whose steps read plain keyboards no `CHECK` fails, and every query that was continued has the
bots of its login buttons: the client's own bot, or the one that was found for the name. A name is found once at
most. Every query is checked, waits, was continued or has failed, once; one that has failed for a name had a button
with this name, which was looked up in vain; one that waits has a button with a name that TDLib is looking up. -/
theorem login_urls_resolved (myId : Int) (es : List LoginUrlEvent)
    (hplain : StepRun.AllSteps step Plain (initial myId) es) :
    let s := StepRun.run step (initial myId) es
    s.crashed = false ∧ (∀ e ∈ s.continued, ∀ button ∈ e.2, Carries myId s.lookups button) ∧
      (∀ username u u', Found s.lookups username u → Found s.lookups username u' → u = u') ∧
      (s.checking.keys ++ (s.pendingBotResolveQueries.entries.map fun e => e.2.query) ++
        (s.continued.map (·.1) ++ s.failed.map (·.1))).Perm (List.range s.queryCount) ∧
      (∀ e ∈ s.failed, ∀ username, e.2.1 = .notFound username →
        (username, 0) ∈ s.lookups ∧ ∃ button ∈ e.2.2, button.botUsername = username) ∧
      ∀ k p, s.pendingBotResolveQueries.lookup k = some p →
        ∃ username ∈ s.requests, ∃ button ∈ p.buttons, button.botUsername = username := by
  intro s
  have h : Sound myId s :=
    StepRun.run_invariant (I := Sound myId) (fun _ e h he => h.step e he) (sound_initial myId) hplain
  refine ⟨h.waiting.sound, h.waiting.carried, fun username u u' hu hu' => ?_, h.placed, h.waiting.failures,
    fun k p hp => ?_⟩
  · have hfound := h.waiting.numbered.found username u hu
    rw [h.waiting.numbered.found username u' hu'] at hfound
    exact (Option.some.inj hfound).symm
  · obtain ⟨username, hname⟩ := List.exists_mem_of_ne_nil _ (h.waiting.counted k p hp).2.1
    refine ⟨username, (h.flight.awaited username).2 fun hnone => ?_, h.waiting.named k p hp username hname⟩
    have hmem := (h.waiting.awaits k p hp username).1 hname
    rw [awaitedBy_of rfl, hnone] at hmem
    exact List.not_mem_nil hmem

/-- A button of the client's own bot beside one that names another bot. -/
theorem login_urls_resolved_two :
    let buttons : List InlineButtonJson := [.loginUrl [] true, .loginUrl "@game".toList false]
    let query : KeyboardQuery := { keyboards := .message (some { inlineKeyboard := [buttons] }) }
    let s := StepRun.run step (initial 7) [.query query, .resolved "game".toList 12]
    s.continued = [(0, [⟨[], true, 7⟩, ⟨"game".toList, false, -12⟩])] ∧
      ∀ e ∈ s.continued, ∀ button ∈ e.2, Carries 7 s.lookups button := by
  intro buttons query s
  have hplain : StepRun.AllSteps step Plain (initial 7) [.query query, .resolved "game".toList 12] := by
    refine ⟨fun _ _ => ⟨fun _ _ _ hfound => absurd hfound.1 List.not_mem_nil, ⟨fun h => ?_, trivial⟩,
      fun _ _ _ _ => ?_⟩, trivial, trivial⟩
    · cases h
    · decide
  exact ⟨by decide, (login_urls_resolved 7 [.query query, .resolved "game".toList 12] hplain).2.1⟩

/-- The bot of the client has a multiple of a thousand; a message is copied after a keyboard could not be read; a
result without a keyboard follows one that names a bot. -/
theorem login_urls_misread :
    let game : InlineButtonJson := .loginUrl "game".toList false
    let own : KeyboardQuery := { keyboards := .message (some { inlineKeyboard := [[.loginUrl [] true, game]] }) }
    let copy : KeyboardQuery := { keyboards := .message none, checksMessage := true }
    let bad : KeyboardQuery := { keyboards := .message (some {
      inlineKeyboard := [[game, .invalid ⟨400, "InlineKeyboardButton must be an Object"⟩]] }) }
    let results : KeyboardQuery := { keyboards := .results [{ inlineKeyboard := [[game]] }, {}] }
    (StepRun.run step (initial 7000) [.query own, .resolved "game".toList 12]).crashed = true ∧
      (StepRun.run step (initial 7) [.query copy, .query bad, .checked 0 none]).crashed = true ∧
      (StepRun.run step (initial 7) [.query results]).continued = [(0, [⟨"game".toList, false, -1000⟩])] ∧
      ¬ ∀ myId es, (StepRun.run step (initial myId) es).crashed = false := by
  intro game own copy bad results
  have hown : (StepRun.run step (initial 7000) [.query own, .resolved "game".toList 12]).crashed = true := by decide
  refine ⟨hown, by decide, by decide, fun h => ?_⟩
  exact Bool.false_ne_true ((h 7000 _).symm.trans hown)

end LoginUrlClient

end TelegramBotApi
