import TelegramBotApi.SendMessagesAnswers
import TelegramBotApi.SliceText

/-!
# What the reports about the messages of a query add up to

A query of several messages keeps a list of new identifiers, a number of awaited messages and one error;
every report changes them by `tell`. The identifiers come in the order of the reports, and the position in
an error is the number of the report that gave the error: the first one whose error is not passed on as it
is, if all failures before it say that the group was not sent.
-/

namespace TelegramBotApi

/-- What TDLib told about a message, which it returned under an identifier of its own. -/
structure SendReport where
  query : Nat
  message : MessageFullId
  outcome : Except Status Int

/-- The messages that TDLib returned for a request, in the order of the request. -/
structure ReturnedMessages where
  method : SendMethod
  chatId : Int
  messageIds : List Int

def positionError (pos : Int) (error : Status) : Status :=
  ⟨error.code, "Failed to send message #" ++ toString pos ++ " with the error message \"" ++ error.message ++ "\""⟩

/-- The error is passed on as it is. -/
def Status.IsPlain (error : Status) : Prop :=
  isSpecialErrorCode error.code ∨ error.code = 406 ∨ error.message = "Group send failed"

instance (error : Status) : Decidable error.IsPlain := inferInstanceAs (Decidable (_ ∨ _ ∨ _))

/-- The error names the position `k`. -/
def Status.Names (error : Status) (k : Int) : Prop :=
  ¬ isSpecialErrorCode error.code ∧ error.code ≠ 406 ∧
    ∃ text, error.message = "Failed to send message #" ++ toString k ++ " with the error message \"" ++ text ++ "\""

namespace PendingSendMessageQuery

def tell (p : PendingSendMessageQuery) (report : SendReport) : PendingSendMessageQuery :=
  match report.outcome with
  | .ok newMessageId => { p with
      messages := p.messages ++ [newMessageId]
      awaitedMessageCount := p.awaitedMessageCount - 1 }
  | .error error => { p.addError error with awaitedMessageCount := p.awaitedMessageCount - 1 }

/-- The answer when nothing is awaited any more. -/
def finalAnswer (p : PendingSendMessageQuery) : SendAnswer :=
  match p.error with
  | none => .messages p.messages p.method.returnsIds
  | some error => .error error

variable (p : PendingSendMessageQuery)

theorem addError_eq_of_first {error : Status} (h : p.error.all (·.message = "Group send failed") = true) :
    p.addError error = { p with error := some (if error.IsPlain then error
      else positionError (p.totalMessageCount - p.awaitedMessageCount + 1) error) } := if_pos h

theorem addError_eq_of_later {error : Status} (h : p.error.all (·.message = "Group send failed") = false) :
    p.addError error = p := if_neg (by rw [h]; exact Bool.false_ne_true)

end PendingSendMessageQuery

def newMessageIds (reports : List SendReport) : List Int := reports.filterMap fun report => report.outcome.toOption

def OnlyGroups (reports : List SendReport) : Prop :=
  ∀ report ∈ reports, ∀ error, report.outcome = .error error → error.message = "Group send failed"

/-- The report with the number `i` gives the error that names a position. -/
def GivesPosition (reports : List SendReport) (i : Nat) (error : Status) : Prop :=
  OnlyGroups (reports.take i) ∧ ¬ error.IsPlain ∧ ∃ report, reports[i]? = some report ∧ report.outcome = .error error

/-! ### The texts of the errors -/

theorem groupError_ne (text : String) : "Failed to send message #" ++ text ≠ "Group send failed" := fun h => by
  have hlist := congrArg String.toList h
  rw [String.toList_append, show "Failed to send message #".toList = 'F' :: "ailed to send message #".toList by decide,
    show "Group send failed".toList = 'G' :: "roup send failed".toList by decide] at hlist
  cases hlist

theorem positionError_message_ne (pos : Int) (error : Status) :
    (positionError pos error).message ≠ "Group send failed" := by
  unfold positionError
  dsimp only
  rw [String.append_assoc, String.append_assoc, String.append_assoc]
  exact groupError_ne _

theorem names_positionError {error : Status} (h : ¬ error.IsPlain) (pos : Int) :
    (positionError pos error).Names pos :=
  ⟨fun hcode => h (Or.inl hcode), fun hcode => h (Or.inr (Or.inl hcode)), error.message, rfl⟩

theorem not_names_of_plain {error : Status} (h : error.IsPlain) (k : Int) : ¬ error.Names k := by
  rintro ⟨hspecial, hcode, text, htext⟩
  rcases h with h | h | h
  · exact hspecial h
  · exact hcode h
  · rw [htext, String.append_assoc, String.append_assoc, String.append_assoc] at h
    exact groupError_ne _ h

theorem space_notMem_intText (k : Int) : ' ' ∉ (toString k).toList := by
  intro hmem
  cases k with
  | ofNat n => exact absurd (isDigit_of_mem_natText (n := n) hmem) (by decide)
  | negSucc n =>
      rw [negText] at hmem
      rcases List.mem_cons.1 hmem with hmem | hmem
      · exact absurd hmem (by decide)
      · exact absurd (isDigit_of_mem_natText (n := n + 1) hmem) (by decide)

theorem takeWhile_intText (k : Int) (rest : String) :
    (toString k ++ (" with the error message \"" ++ rest)).toList.takeWhile (· ≠ ' ') = (toString k).toList := by
  have hspace : (" with the error message \"" ++ rest).toList.takeWhile (· ≠ ' ') = [] := by
    rw [String.toList_append]
    rfl
  have hdigits : ∀ c ∈ (toString k).toList, decide (c ≠ ' ') = true := fun c hc =>
    decide_eq_true (ne_of_mem_of_not_mem hc (space_notMem_intText k))
  rw [String.toList_append, List.takeWhile_append_of_pos hdigits, hspace, List.append_nil]

/-- An error names one position. -/
theorem eq_of_names {pos k : Int} {error : Status} (h : (positionError pos error).Names k) : k = pos := by
  obtain ⟨-, -, text, htext⟩ := h
  unfold positionError at htext
  simp only [String.append_assoc] at htext
  have htake := congrArg (fun text => text.toList.takeWhile (· ≠ ' ')) ((String.append_right_inj _).1 htext)
  rw [takeWhile_intText, takeWhile_intText] at htake
  exact (intText_injective (String.toList_injective htake)).symm

/-! ### The reports of a query -/

namespace PendingSendMessageQuery

variable {p : PendingSendMessageQuery}

theorem tell_frame (p : PendingSendMessageQuery) (report : SendReport) :
    (p.tell report).query = p.query ∧ (p.tell report).method = p.method ∧
      (p.tell report).isMultisend = p.isMultisend ∧
      (p.tell report).totalMessageCount = p.totalMessageCount ∧
      (p.tell report).awaitedMessageCount = p.awaitedMessageCount - 1 ∧
      (p.tell report).messages = p.messages ++ report.outcome.toOption.toList := by
  unfold tell
  cases report.outcome with
  | ok newMessageId => exact ⟨rfl, rfl, rfl, rfl, rfl, rfl⟩
  | error error =>
      obtain ⟨e, he⟩ := SendClient.addError_eq p error
      dsimp only
      rw [he]
      exact ⟨rfl, rfl, rfl, rfl, rfl, (List.append_nil _).symm⟩

theorem foldl_tell_frame (reports : List SendReport) (p : PendingSendMessageQuery) :
    let t := reports.foldl tell p
    t.query = p.query ∧ t.method = p.method ∧ t.isMultisend = p.isMultisend ∧
      t.totalMessageCount = p.totalMessageCount ∧ t.awaitedMessageCount = p.awaitedMessageCount - reports.length ∧
      t.messages = p.messages ++ newMessageIds reports := by
  induction reports generalizing p with
  | nil => exact ⟨rfl, rfl, rfl, rfl, (sub_zero _).symm, (List.append_nil _).symm⟩
  | cons report reports ih =>
      obtain ⟨hquery, hmethod, hmulti, htotal, hawaited, hmessages⟩ := p.tell_frame report
      obtain ⟨hquery', hmethod', hmulti', htotal', hawaited', hmessages'⟩ := ih (p.tell report)
      refine ⟨hquery'.trans hquery, hmethod'.trans hmethod, hmulti'.trans hmulti, htotal'.trans htotal, ?_, ?_⟩
      · rw [List.foldl_cons, hawaited', hawaited, List.length_cons]
        omega
      · rw [List.foldl_cons, hmessages', hmessages, List.append_assoc]
        unfold newMessageIds
        rw [List.filterMap_cons]
        cases report.outcome.toOption with
        | none => rfl
        | some newMessageId => rfl

end PendingSendMessageQuery

def AllSent (reports : List SendReport) : Prop := ∀ report ∈ reports, report.outcome.toOption ≠ none

structure ErrorOf (reports : List SendReport) (error : Option Status) : Prop where
  groups : error.all (·.message = "Group send failed") = true ↔ OnlyGroups reports
  sent : error = none ↔ AllSent reports
  position : ∀ e, error = some e → e.IsPlain ∨ ∃ i err, GivesPosition reports i err ∧ e = positionError (i + 1) err
  gives : ∀ (i : Nat) err, GivesPosition reports i err → error = some (positionError (i + 1) err)

section Append

variable {reports : List SendReport} {report : SendReport} {error err : Status}

theorem onlyGroups_concat : OnlyGroups (reports ++ [report]) ↔
    OnlyGroups reports ∧ ∀ error, report.outcome = .error error → error.message = "Group send failed" := by
  unfold OnlyGroups
  rw [List.forall_mem_append, List.forall_mem_singleton]

theorem allSent_concat : AllSent (reports ++ [report]) ↔ AllSent reports ∧ report.outcome.toOption ≠ none := by
  unfold AllSent
  rw [List.forall_mem_append, List.forall_mem_singleton]

theorem AllSent.onlyGroups (h : AllSent reports) : OnlyGroups reports := fun report hmem error herror => by
  have hsent := h report hmem
  rw [herror] at hsent
  exact absurd rfl hsent

theorem givesPosition_concat {i : Nat} : GivesPosition (reports ++ [report]) i error ↔
    GivesPosition reports i error ∨
      (i = reports.length ∧ OnlyGroups reports ∧ ¬ error.IsPlain ∧ report.outcome = .error error) := by
  unfold GivesPosition
  rcases lt_trichotomy i reports.length with hi | hi | hi
  · rw [List.take_append_of_le_length hi.le, List.getElem?_append_left hi]
    exact (or_iff_left fun hlast => hi.ne hlast.1).symm
  · rw [hi, List.take_left, List.getElem?_concat_length]
    constructor
    · rintro ⟨hgroups, hplain, last, hlast, herror⟩
      cases hlast
      exact Or.inr ⟨rfl, hgroups, hplain, herror⟩
    · rintro (⟨-, -, last, hlast, -⟩ | ⟨-, hgroups, hplain, herror⟩)
      · rw [List.getElem?_eq_none (le_refl _)] at hlast
        cases hlast
      · exact ⟨hgroups, hplain, report, rfl, herror⟩
  · have hnone : (reports ++ [report])[i]? = none := List.getElem?_eq_none (by rw [List.length_append]; exact hi)
    rw [hnone, List.getElem?_eq_none hi.le]
    constructor
    · rintro ⟨-, -, last, hlast, -⟩
      cases hlast
    · rintro (⟨-, -, last, hlast, -⟩ | ⟨heq, -⟩)
      · cases hlast
      · exact absurd heq hi.ne'

/-- After failures that all concern the group no report has given a position. -/
theorem OnlyGroups.gives_none (h : OnlyGroups reports) (i : Nat) : ¬ GivesPosition reports i error := by
  rintro ⟨-, hplain, report, hreport, herror⟩
  exact hplain (Or.inr (Or.inr (h report (List.mem_of_getElem? hreport) error herror)))

theorem ErrorOf.sentReport {e : Option Status} (h : ErrorOf reports e) {newMessageId : Int}
    (hsent : report.outcome = .ok newMessageId) : ErrorOf (reports ++ [report]) e := by
  have hgives : ∀ i error, GivesPosition (reports ++ [report]) i error ↔
      GivesPosition reports i error := fun i error => by
    rw [givesPosition_concat, hsent]
    exact or_iff_left fun hlast => nomatch hlast.2.2.2
  refine ⟨?_, ?_, fun e' he' => ?_, fun i error hi => h.gives i error ((hgives i error).1 hi)⟩
  · rw [onlyGroups_concat, hsent, h.groups]
    exact (and_iff_left fun _ heq => nomatch heq).symm
  · rw [allSent_concat, hsent, h.sent]
    exact (and_iff_left (Option.some_ne_none newMessageId)).symm
  · refine (h.position e' he').imp_right ?_
    rintro ⟨i, error, hi, heq⟩
    exact ⟨i, error, (hgives i error).2 hi, heq⟩

/-- A failure after failures that all concern the group. -/
theorem errorOf_firstFailure (hgroups : OnlyGroups reports)
    (hfailed : report.outcome = .error error) : ErrorOf (reports ++ [report])
      (some (if error.IsPlain then error else positionError (reports.length + 1) error)) := by
  have hgives : ∀ i err, GivesPosition (reports ++ [report]) i err ↔
      i = reports.length ∧ ¬ error.IsPlain ∧ err = error := fun i err => by
    rw [givesPosition_concat, hfailed, or_iff_right (hgroups.gives_none i)]
    constructor
    · rintro ⟨hi, -, hplain, heq⟩
      cases heq
      exact ⟨hi, hplain, rfl⟩
    · rintro ⟨hi, hplain, rfl⟩
      exact ⟨hi, hgroups, hplain, rfl⟩
  refine ⟨?_, ?_, fun e' he' => ?_, fun i err hi => ?_⟩
  · rw [onlyGroups_concat, hfailed, and_iff_right hgroups]
    have hmessage : (∀ err, Except.error (α := Int) error = .error err → err.message = "Group send failed") ↔
        error.message = "Group send failed" :=
      ⟨fun hall => hall error rfl, fun heq err herr => by cases herr; exact heq⟩
    rw [hmessage, Option.all_some, decide_eq_true_iff]
    split_ifs with hplain
    · exact Iff.rfl
    · exact iff_of_false (positionError_message_ne _ error) fun heq => hplain (Or.inr (Or.inr heq))
  · rw [allSent_concat, hfailed]
    exact iff_of_false (Option.some_ne_none _) fun hall => hall.2 rfl
  · cases he'
    split_ifs with hplain
    · exact Or.inl hplain
    · exact Or.inr ⟨reports.length, error, (hgives _ _).2 ⟨rfl, hplain, rfl⟩, rfl⟩
  · obtain ⟨rfl, hplain, rfl⟩ := (hgives i err).1 hi
    rw [if_neg hplain]

/-- A failure after one that is kept. -/
theorem ErrorOf.laterFailure {e : Option Status} (h : ErrorOf reports e) (hgroups : ¬ OnlyGroups reports)
    (hfailed : report.outcome = .error error) : ErrorOf (reports ++ [report]) e := by
  have hgives : ∀ i err, GivesPosition (reports ++ [report]) i err ↔ GivesPosition reports i err := fun i err => by
    rw [givesPosition_concat]
    exact or_iff_left fun hlast => hgroups hlast.2.1
  refine ⟨?_, ?_, fun e' he' => ?_, fun i err hi => h.gives i err ((hgives i err).1 hi)⟩
  · rw [onlyGroups_concat, h.groups]
    exact iff_of_false hgroups fun hall => hgroups hall.1
  · rw [allSent_concat, h.sent, hfailed]
    exact iff_of_false (fun hall => hgroups hall.onlyGroups) fun hall => hall.2 rfl
  · refine (h.position e' he').imp_right ?_
    rintro ⟨i, err, hi, heq⟩
    exact ⟨i, err, (hgives i err).2 hi, heq⟩

end Append

namespace PendingSendMessageQuery

/-- The error of a query that was entered with as many messages as it awaits. -/
theorem errorOf_foldl_tell {p : PendingSendMessageQuery} (herror : p.error = none)
    (htotal : p.totalMessageCount = p.awaitedMessageCount) (reports : List SendReport) :
    ErrorOf reports (reports.foldl tell p).error := by
  induction reports using List.reverseRecOn with
  | nil =>
      rw [List.foldl_nil, herror]
      exact ⟨iff_of_true rfl fun _ hmem => absurd hmem List.not_mem_nil,
        iff_of_true rfl fun _ hmem => absurd hmem List.not_mem_nil, fun _ he => (by cases he),
        fun i err hi => by obtain ⟨-, -, report, hreport, -⟩ := hi; cases hreport⟩
  | append_singleton reports report ih =>
      obtain ⟨-, -, -, htotal', hawaited', -⟩ := foldl_tell_frame reports p
      rw [List.foldl_append, List.foldl_cons, List.foldl_nil]
      generalize reports.foldl tell p = t at ih htotal' hawaited' ⊢
      cases houtcome : report.outcome with
      | ok newMessageId =>
          have htell : (t.tell report).error = t.error := by
            unfold tell
            rw [houtcome]
          rw [htell]
          exact ih.sentReport houtcome
      | error error =>
          have htell : (t.tell report).error = (t.addError error).error := by
            unfold tell
            rw [houtcome]
          rw [htell]
          by_cases hgroups : OnlyGroups reports
          · have hpos : t.totalMessageCount - t.awaitedMessageCount + 1 = (reports.length : Int) + 1 := by omega
            rw [addError_eq_of_first t (ih.groups.2 hgroups), hpos]
            exact errorOf_firstFailure hgroups houtcome
          · rw [addError_eq_of_later t (eq_false_of_ne_true fun hall => hgroups (ih.groups.1 hall))]
            exact ih.laterFailure hgroups houtcome

end PendingSendMessageQuery

end TelegramBotApi
