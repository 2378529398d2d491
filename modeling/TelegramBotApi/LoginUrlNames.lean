import TelegramBotApi.LoginUrls
import TelegramBotApi.TableLookup
import Mathlib.Data.List.Nodup

/-!
# Temporary numbers of bot names

A temporary number belongs to the name that got it, and a name keeps its number until its lookup is over.
`Numbered` says so of the tables of names; to read keyboards keeps it (`Reads`), and a button that was read has
the number of its bot (`Reading`).
-/

namespace TelegramBotApi

def Found (lookups : List (Slice × Int)) (username : Slice) (userId : Int) : Prop :=
  (username, userId) ∈ lookups ∧ userId ≠ 0

/-- The temporary number was given to the name. -/
def Temporary (tempNames : List Slice) (username : Slice) (number : Int) : Prop :=
  ∃ k : Nat, tempNames[k]? = some username ∧ number = (k + 1) * 1000

namespace Temporary

variable {names names' : List Slice} {username other : Slice} {number : Int}

theorem pos (h : Temporary names username number) : 0 < number := by
  obtain ⟨k, -, rfl⟩ := h
  omega

theorem multiple (h : Temporary names username number) : number % 1000 = 0 := by
  obtain ⟨k, -, rfl⟩ := h
  omega

/-- A temporary number has one owner. -/
theorem unique (h : Temporary names username number) (h' : Temporary names other number) : username = other := by
  obtain ⟨k, hk, rfl⟩ := h
  obtain ⟨j, hj, heq⟩ := h'
  have hkj : k = j := by omega
  rw [hkj, hj] at hk
  exact (Option.some.inj hk).symm

theorem append (h : Temporary names username number) (names' : List Slice) :
    Temporary (names ++ names') username number := by
  obtain ⟨k, hk, rfl⟩ := h
  refine ⟨k, ?_, rfl⟩
  rw [List.getElem?_append_left (List.getElem?_eq_some_iff.1 hk).1]
  exact hk

theorem last (names : List Slice) (username : Slice) :
    Temporary (names ++ [username]) username ((names.length + 1) * 1000) :=
  ⟨names.length, List.getElem?_concat_length, rfl⟩

end Temporary

/-- The name waits for its first lookup, under a temporary number. -/
structure Unknown (b : BotUserIds) (lookups : List (Slice × Int)) (username : Slice) (number : Int) : Prop where
  unfound : ∀ userId, ¬ Found lookups username userId
  listed : b.botUserIds.lookup username = some number
  temporary : Temporary b.tempNames username number

/-- Every number in the table of names was found or is a temporary one of its name. -/
structure Numbered (b : BotUserIds) (lookups : List (Slice × Int)) : Prop where
  next : b.curTempBotUserId = b.tempNames.length + 1
  number : ∀ username number, b.botUserIds.lookup username = some number →
    Found lookups username number ∨ Unknown b lookups username number
  found : ∀ username userId, Found lookups username userId → b.botUserIds.lookup username = some userId

namespace BotUserIds

/-- What reading a keyboard may do to the names. -/
structure Reads (lookups : List (Slice × Int)) (b b' : BotUserIds) : Prop where
  numbered : Numbered b' lookups
  default : b'.defaultBotUserId = b.defaultBotUserId
  kept : ∀ username number, b.botUserIds.lookup username = some number → b'.botUserIds.lookup username = some number
  temporary : ∀ username number, Temporary b.tempNames username number → Temporary b'.tempNames username number
  unresolved : b.unresolvedBotUsernames ⊆ b'.unresolvedBotUsernames
  nodup : b.unresolvedBotUsernames.Nodup → b'.unresolvedBotUsernames.Nodup

/-- A login button that was read: it has the number of its bot. -/
def Reading (b : BotUserIds) (lookups : List (Slice × Int)) (button : LoginButton) : Prop :=
  if button.botUsername = [] then button.id = signed button.requestWriteAccess b.defaultBotUserId
  else ∃ number, button.id = signed button.requestWriteAccess number ∧
    (Found lookups button.botUsername number ∧ number % 1000 ≠ 0 ∨
      Unknown b lookups button.botUsername number ∧ button.botUsername ∈ b.unresolvedBotUsernames)

variable {b b' b'' : BotUserIds} {lookups : List (Slice × Int)}

theorem Reads.refl (h : Numbered b lookups) : Reads lookups b b :=
  ⟨h, rfl, fun _ _ => id, fun _ _ => id, fun _ => id, id⟩

theorem Reads.trans (h : Reads lookups b b') (h' : Reads lookups b' b'') : Reads lookups b b'' where
  numbered := h'.numbered
  default := h'.default.trans h.default
  kept username number hn := h'.kept _ _ (h.kept username number hn)
  temporary username number hn := h'.temporary _ _ (h.temporary username number hn)
  unresolved _ hn := h'.unresolved (h.unresolved hn)
  nodup hn := h'.nodup (h.nodup hn)

theorem Reads.unknown (h : Reads lookups b b') {username : Slice} {number : Int}
    (hn : Unknown b lookups username number) : Unknown b' lookups username number :=
  ⟨hn.unfound, h.kept _ _ hn.listed, h.temporary _ _ hn.temporary⟩

theorem Reads.reading (h : Reads lookups b b') {button : LoginButton} (hb : Reading b lookups button) :
    Reading b' lookups button := by
  unfold Reading at hb ⊢
  split_ifs at hb ⊢
  · rw [h.default]
    exact hb
  · obtain ⟨number, hid, hfound | ⟨hunknown, hmem⟩⟩ := hb
    · exact ⟨number, hid, Or.inl hfound⟩
    · exact ⟨number, hid, Or.inr ⟨h.unknown hunknown, h.unresolved hmem⟩⟩

theorem numberOf_new {username : Slice} (h : b.botUserIds.lookup username = none) :
    b.numberOf username = (b.curTempBotUserId * 1000, { b with
      curTempBotUserId := b.curTempBotUserId + 1
      botUserIds := b.botUserIds.insert username (b.curTempBotUserId * 1000)
      tempNames := b.tempNames ++ [username]
      unresolvedBotUsernames := b.unresolvedBotUsernames.insert username }) := by
  unfold numberOf
  dsimp only
  rw [h, Option.getD_none, if_pos rfl, if_pos rfl, if_pos rfl, if_pos (by omega)]

theorem numberOf_listed {username : Slice} {number : Int} (h : b.botUserIds.lookup username = some number)
    (hne : number ≠ 0) : b.numberOf username = (number, { b with
      botUserIds := b.botUserIds.insert username number
      unresolvedBotUsernames := if number % 1000 = 0 then b.unresolvedBotUsernames.insert username
        else b.unresolvedBotUsernames }) := by
  unfold numberOf
  dsimp only
  rw [h, Option.getD_some, if_neg hne, if_neg hne, if_neg hne]
  split_ifs <;> rfl

theorem lookup_insert_kept {t : AList fun _ : Slice => Int} {username other : Slice} {number n : Int}
    (h : t.lookup username = none ∨ t.lookup username = some number) (hother : t.lookup other = some n) :
    (t.insert username number).lookup other = some n := by
  by_cases heq : other = username
  · rw [heq] at hother ⊢
    rcases h with hnone | hsome
    · rw [hnone] at hother
      cases hother
    · rw [AList.lookup_insert, ← hother, hsome]
  · rw [AList.lookup_insert_ne heq, hother]

theorem Unknown.ne_zero {username : Slice} {number : Int} (h : Unknown b lookups username number) : number ≠ 0 :=
  Int.ne_of_gt h.temporary.pos

/-- The number that a name gets; a name that was found has no multiple of a thousand. -/
theorem numberOf_spec (h : Numbered b lookups) {username : Slice}
    (hreal : ∀ userId, Found lookups username userId → userId % 1000 ≠ 0) :
    Reads lookups b (b.numberOf username).2 ∧
      (Found lookups username (b.numberOf username).1 ∧ (b.numberOf username).1 % 1000 ≠ 0 ∧
          (b.numberOf username).2.unresolvedBotUsernames = b.unresolvedBotUsernames ∨
        Unknown (b.numberOf username).2 lookups username (b.numberOf username).1 ∧
          (b.numberOf username).2.unresolvedBotUsernames = b.unresolvedBotUsernames.insert username) := by
  cases hn : b.botUserIds.lookup username with
  | none =>
      have hunfound : ∀ userId, ¬ Found lookups username userId := fun userId hfound => by
        rw [h.found username userId hfound] at hn
        cases hn
      have hnumber : b.curTempBotUserId * 1000 = ((b.tempNames.length : Int) + 1) * 1000 := by rw [h.next]
      have htemp : Temporary (b.tempNames ++ [username]) username (b.curTempBotUserId * 1000) := by
        rw [hnumber]
        exact .last b.tempNames username
      rw [numberOf_new hn]
      refine ⟨⟨⟨?_, fun other n hother => ?_, fun other userId hfound => ?_⟩, rfl,
        fun _ _ hother => lookup_insert_kept (Or.inl hn) hother, fun _ _ hold => hold.append _,
        fun _ => List.mem_insert_of_mem, fun hnodup => hnodup.insert⟩,
        Or.inr ⟨⟨hunfound, AList.lookup_insert _, htemp⟩, rfl⟩⟩
      · dsimp only
        rw [h.next, List.length_append, List.length_singleton]
        omega
      · rcases TableLookup.of_insert hother with ⟨rfl, rfl⟩ | ⟨-, hold⟩
        · exact Or.inr ⟨hunfound, AList.lookup_insert _, htemp⟩
        · rcases h.number other n hold with hfound | hunknown
          · exact Or.inl hfound
          · exact Or.inr ⟨hunknown.unfound, hother, hunknown.temporary.append _⟩
      · exact lookup_insert_kept (Or.inl hn) (h.found other userId hfound)
  | some number =>
      have hkept : ∀ {other n}, b.botUserIds.lookup other = some n →
          (b.botUserIds.insert username number).lookup other = some n := lookup_insert_kept (Or.inr hn)
      have hback : ∀ {other n}, (b.botUserIds.insert username number).lookup other = some n →
          b.botUserIds.lookup other = some n := fun {other n} hother => by
        rcases TableLookup.of_insert hother with ⟨rfl, rfl⟩ | ⟨-, hold⟩
        · exact hn
        · exact hold
      have hnumbered : ∀ unresolved, Numbered { b with
          botUserIds := b.botUserIds.insert username number, unresolvedBotUsernames := unresolved } lookups := by
        refine fun unresolved => ⟨h.next, fun other n hother => ?_, fun other userId hfound => ?_⟩
        · rcases h.number other n (hback hother) with hfound | hunknown
          · exact Or.inl hfound
          · exact Or.inr ⟨hunknown.unfound, hother, hunknown.temporary⟩
        · exact hkept (h.found other userId hfound)
      rcases h.number username number hn with hfound | hunknown
      · rw [numberOf_listed hn hfound.2, if_neg (hreal number hfound)]
        exact ⟨⟨hnumbered _, rfl, fun _ _ => hkept, fun _ _ => id, fun _ => id, id⟩,
          Or.inl ⟨hfound, hreal number hfound, rfl⟩⟩
      · rw [numberOf_listed hn (Unknown.ne_zero hunknown), if_pos hunknown.temporary.multiple]
        exact ⟨⟨hnumbered _, rfl, fun _ _ => hkept, fun _ _ => id, fun _ => List.mem_insert_of_mem,
          fun hnodup => hnodup.insert⟩, Or.inr ⟨⟨hunknown.unfound, AList.lookup_insert _, hunknown.temporary⟩, rfl⟩⟩

def usernames (buttons : List InlineButtonJson) : List Slice :=
  buttons.filterMap fun button =>
    match button with
    | .loginUrl botUsername _ => some (plainUsername botUsername)
    | _ => none

/-- No name was found under a multiple of a thousand. -/
def Real (lookups : List (Slice × Int)) (names : List Slice) : Prop :=
  ∀ username ∈ names, ∀ userId, Found lookups username userId → userId % 1000 ≠ 0

/-- What reading buttons finds: they have the numbers of their bots, and the new names are theirs. -/
structure ReadsButtons (lookups : List (Slice × Int)) (b b' : BotUserIds) (buttons : List LoginButton) : Prop where
  reading : ∀ button ∈ buttons, Reading b' lookups button
  named : ∀ username ∈ b'.unresolvedBotUsernames, username ∈ b.unresolvedBotUsernames ∨
    ∃ button ∈ buttons, button.botUsername = username ∧ username ≠ [] ∧ ∃ number, Unknown b' lookups username number

theorem getInlineKeyboardButton_spec (h : Numbered b lookups) (button : InlineButtonJson)
    (hreal : Real lookups (usernames [button])) :
    Reads lookups b (b.getInlineKeyboardButton button).2 ∧
      ∀ found, (b.getInlineKeyboardButton button).1 = .ok found →
        ReadsButtons lookups b (b.getInlineKeyboardButton button).2 found.toList := by
  cases button with
  | other =>
      refine ⟨.refl h, fun found hfound => ?_⟩
      cases hfound
      exact ⟨fun _ hmem => absurd hmem List.not_mem_nil, fun _ => Or.inl⟩
  | invalid error => exact ⟨.refl h, fun found hfound => by cases hfound⟩
  | loginUrl botUsername requestWriteAccess =>
      unfold getInlineKeyboardButton
      dsimp only
      split_ifs with hdefault hinvalid
      · refine ⟨.refl h, fun found hfound => ?_⟩
        cases hfound
        refine ⟨fun button hmem => ?_, fun _ => Or.inl⟩
        rw [List.mem_singleton.1 hmem]
        unfold Reading
        rw [if_pos rfl]
      · exact ⟨.refl h, fun found hfound => by cases hfound⟩
      · have hne : plainUsername botUsername ≠ [] := fun hnil => hinvalid (Or.inl hnil)
        obtain ⟨hreads, hcases⟩ := numberOf_spec h (hreal (plainUsername botUsername) List.mem_cons_self)
        refine ⟨hreads, fun found hfound => ?_⟩
        cases hfound
        refine ⟨fun button hmem => ?_, fun username hmem => ?_⟩
        · rw [List.mem_singleton.1 hmem]
          refine (if_neg hne).mpr ⟨_, rfl, ?_⟩
          rcases hcases with ⟨hfound, hmultiple, -⟩ | ⟨hunknown, hunresolved⟩
          · exact Or.inl ⟨hfound, hmultiple⟩
          · refine Or.inr ⟨hunknown, ?_⟩
            rw [hunresolved]
            exact List.mem_insert_self
        · rcases hcases with ⟨-, -, hunresolved⟩ | ⟨hunknown, hunresolved⟩
          · rw [hunresolved] at hmem
            exact Or.inl hmem
          · rw [hunresolved] at hmem
            rcases List.mem_insert_iff.1 hmem with rfl | hold
            · exact Or.inr ⟨_, List.mem_singleton.2 rfl, rfl, hne, _, hunknown⟩
            · exact Or.inl hold

theorem ReadsButtons.nil (h : Numbered b lookups) : Reads lookups b b ∧ ReadsButtons lookups b b [] :=
  ⟨.refl h, fun _ hmem => absurd hmem List.not_mem_nil, fun _ => Or.inl⟩

theorem ReadsButtons.append {buttons rest : List LoginButton} (h : ReadsButtons lookups b b' buttons)
    (hreads : Reads lookups b' b'') (hrest : ReadsButtons lookups b' b'' rest) :
    ReadsButtons lookups b b'' (buttons ++ rest) := by
  refine ⟨fun button hmem => ?_, fun username hmem => ?_⟩
  · rcases List.mem_append.1 hmem with hmem | hmem
    · exact hreads.reading (h.reading button hmem)
    · exact hrest.reading button hmem
  · rcases hrest.named username hmem with hold | ⟨button, hbutton, hname⟩
    · rcases h.named username hold with hold | ⟨button, hbutton, hname, hne, number, hunknown⟩
      · exact Or.inl hold
      · exact Or.inr ⟨button, List.mem_append_left _ hbutton, hname, hne, number, hreads.unknown hunknown⟩
    · exact Or.inr ⟨button, List.mem_append_right _ hbutton, hname⟩

theorem Real.of_subset {names names' : List Slice} (h : Real lookups names) (hsub : names' ⊆ names) :
    Real lookups names' := fun username hmem => h username (hsub hmem)

theorem usernames_cons (button : InlineButtonJson) (buttons : List InlineButtonJson) :
    usernames (button :: buttons) = usernames [button] ++ usernames buttons := List.filterMap_append (l := [button])

theorem getInlineKeyboard_spec (h : Numbered b lookups) (buttons : List InlineButtonJson)
    (hreal : Real lookups (usernames buttons)) :
    Reads lookups b (b.getInlineKeyboard buttons).2 ∧
      ∀ found, (b.getInlineKeyboard buttons).1 = .ok found →
        ReadsButtons lookups b (b.getInlineKeyboard buttons).2 found := by
  induction buttons generalizing b with
  | nil =>
      refine ⟨.refl h, fun found hfound => ?_⟩
      cases hfound
      exact (ReadsButtons.nil h).2
  | cons button buttons ih =>
      rw [usernames_cons] at hreal
      obtain ⟨hfirst, hbutton⟩ := getInlineKeyboardButton_spec h button
        (hreal.of_subset (List.subset_append_left _ _))
      unfold getInlineKeyboard
      generalize b.getInlineKeyboardButton button = r at hfirst hbutton ⊢
      obtain ⟨r, b₁⟩ := r
      cases r with
      | error error => exact ⟨hfirst, fun found hfound => by cases hfound⟩
      | ok found =>
          obtain ⟨hnext, hrest⟩ := ih hfirst.numbered (hreal.of_subset (List.subset_append_right _ _))
          dsimp only at hfirst hnext hrest ⊢
          generalize b₁.getInlineKeyboard buttons = r at hnext hrest ⊢
          obtain ⟨r, b₂⟩ := r
          cases r with
          | error error => exact ⟨hfirst.trans hnext, fun found hfound => by cases hfound⟩
          | ok rest =>
              refine ⟨hfirst.trans hnext, fun all hall => ?_⟩
              cases hall
              exact (hbutton found rfl).append hnext (hrest rest rfl)

def markupUsernames (m : ReplyMarkupJson) : List Slice := usernames m.inlineKeyboard.flatten

/-- A markup that is no inline keyboard comes when no name is to be looked up. -/
theorem getReplyMarkup_spec (h : Numbered b lookups) (m : ReplyMarkupJson) (hreal : Real lookups (markupUsernames m))
    (hinline : m.isInline = false → b.unresolvedBotUsernames = []) :
    Reads lookups b (b.getReplyMarkup m).2 ∧
      ∀ found, (b.getReplyMarkup m).1 = .ok found → ReadsButtons lookups b (b.getReplyMarkup m).2 found := by
  obtain ⟨hreads, hbuttons⟩ := getInlineKeyboard_spec h m.inlineKeyboard.flatten hreal
  unfold getReplyMarkup
  generalize b.getInlineKeyboard m.inlineKeyboard.flatten = r at hreads hbuttons ⊢
  obtain ⟨r, b₁⟩ := r
  cases r with
  | error error => exact ⟨hreads, fun found hfound => by cases hfound⟩
  | ok buttons =>
      dsimp only at hreads hbuttons ⊢
      cases herror : m.error with
      | some error => exact ⟨hreads, fun found hfound => by cases hfound⟩
      | none =>
          dsimp only
          cases hkind : m.isInline with
          | true =>
              refine ⟨hreads, fun found hfound => ?_⟩
              cases hfound
              exact hbuttons buttons rfl
          | false =>
              have hnil := hinline hkind
              refine ⟨⟨⟨hreads.numbered.next, fun username number hn => ?_, hreads.numbered.found⟩, hreads.default,
                hreads.kept, hreads.temporary, fun username hmem => ?_, fun _ => List.nodup_nil⟩,
                fun found hfound => ?_⟩
              · rcases hreads.numbered.number username number hn with hfound | hunknown
                · exact Or.inl hfound
                · exact Or.inr ⟨hunknown.unfound, hn, hunknown.temporary⟩
              · rw [hnil] at hmem
                exact absurd hmem List.not_mem_nil
              · cases hfound
                exact ⟨fun _ hmem => absurd hmem List.not_mem_nil, fun _ hmem => absurd hmem List.not_mem_nil⟩

def KeepsNames (b : BotUserIds) : List ReplyMarkupJson → Prop
  | [] => True
  | m :: ms => (m.isInline = false → b.unresolvedBotUsernames = []) ∧ KeepsNames (b.getReplyMarkup m).2 ms

theorem getReplyMarkups_spec (h : Numbered b lookups) (ms : List ReplyMarkupJson)
    (hreal : Real lookups (ms.flatMap markupUsernames)) (hkeeps : KeepsNames b ms) :
    Reads lookups b (b.getReplyMarkups ms).2 ∧
      ∀ found, (b.getReplyMarkups ms).1 = .ok found → ReadsButtons lookups b (b.getReplyMarkups ms).2 found := by
  induction ms generalizing b with
  | nil =>
      refine ⟨.refl h, fun found hfound => ?_⟩
      cases hfound
      exact (ReadsButtons.nil h).2
  | cons m ms ih =>
      rw [List.flatMap_cons] at hreal
      obtain ⟨hinline, hkeeps⟩ := hkeeps
      obtain ⟨hfirst, hbuttons⟩ := getReplyMarkup_spec h m (hreal.of_subset (List.subset_append_left _ _)) hinline
      unfold getReplyMarkups
      generalize b.getReplyMarkup m = r at hfirst hbuttons hkeeps ⊢
      obtain ⟨r, b₁⟩ := r
      cases r with
      | error error => exact ⟨hfirst, fun found hfound => by cases hfound⟩
      | ok buttons =>
          obtain ⟨hnext, hrest⟩ := ih hfirst.numbered (hreal.of_subset (List.subset_append_right _ _)) hkeeps
          dsimp only at hfirst hnext hrest ⊢
          generalize b₁.getReplyMarkups ms = r at hnext hrest ⊢
          obtain ⟨r, b₂⟩ := r
          cases r with
          | error error => exact ⟨hfirst.trans hnext, fun found hfound => by cases hfound⟩
          | ok rest =>
              refine ⟨hfirst.trans hnext, fun all hall => ?_⟩
              cases hall
              exact (hbuttons buttons rfl).append hnext (hrest rest rfl)

end BotUserIds

end TelegramBotApi
