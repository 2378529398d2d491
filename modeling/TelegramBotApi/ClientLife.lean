import TelegramBotApi.TdApi

/-!
# What a client tells its manager

A client sends its manager two events, when it becomes authorized and when it stops being active, and
its end hangs up the link. The record has what decides about these messages; they are kept in the order
in which they were sent, and `processed` has those that the manager has handled. What TDLib reports is an
input, with the one restriction that it does not report that it is ready after it began to leave.
-/

namespace TelegramBotApi

inductive ParentMessage where
  | rawEvent (isActive : Bool)
  | hangupShared
  deriving DecidableEq

structure ClientLife where
  token : Slice
  isTestDc : Bool
  started : Bool := false
  wasAuthorized : Bool := false
  loggingOut : Bool := false
  closing : Bool := false
  needClose : Bool := false
  /-- `td_client_` is not empty. -/
  tdClient : Bool := false
  authorizationState : AuthorizationState := .waitTdlibParameters
  /-- TDLib has reported that it is logging out, closing or closed. -/
  tdLeft : Bool := false
  hasTimeout : Bool := false
  removingDirectory : Bool := false
  stopped : Bool := false
  crashed : Bool := false
  mailbox : List ParentMessage := []
  processed : List ParentMessage := []

inductive ClientLifeEvent where
  /-- `tokenAccepted` is false if the secret of the token is not a long enough base64url text. -/
  | startUp (tokenAccepted : Bool)
  /-- `userKnown` is true if the bot's own user was received. -/
  | authorizationState (state : AuthorizationState) (userKnown : Bool)
  /-- An answer after which the state is looked at once more. -/
  | authorizationResult (userKnown : Bool)
  | close
  | directoryRemoved
  | timeoutExpired
  deriving DecidableEq

namespace ClientLife

variable (s : ClientLife)

def emit (message : ParentMessage) : ClientLife := { s with mailbox := s.mailbox ++ [message] }

def stop : ClientLife := { s with stopped := true }.emit .hangupShared

def finishClosing : ClientLife := if s.needClose then s.stop else { s with hasTimeout := true }

/-- The members are those of a new client when it starts. -/
def startUp (tokenAccepted : Bool) : ClientLife :=
  if tokenAccepted then { s with started := true, tdClient := true }
  else { s with started := true, loggingOut := true }.finishClosing

/-- With no TDLib client left the actor is stopped by its timeout. -/
def close : ClientLife :=
  let s := { s with needClose := true }
  if s.tdClient then s else { s with hasTimeout := true }

def farewell (wasTold : Bool) : ClientLife :=
  if s.wasAuthorized ∧ ¬ wasTold then s.emit (.rawEvent false) else s

def onClosed : ClientLife :=
  if (s.loggingOut ∨ s.closing) ∧ s.tdClient then
    let s := { s with tdClient := false }
    if s.loggingOut then { s with removingDirectory := true } else s.finishClosing
  else { s with crashed := true }

/-- The states that are left out only send requests to TDLib. -/
def onUpdateAuthorizationState (userKnown : Bool) : ClientLife :=
  match s.authorizationState with
  | .ready =>
    if userKnown ∧ ¬ s.wasAuthorized then { s with wasAuthorized := true }.emit (.rawEvent true) else s
  | .loggingOut => if s.loggingOut then s else { s with loggingOut := true }.farewell s.closing
  | .closing => if s.closing then s else { s with closing := true }.farewell s.loggingOut
  | .closed => s.onClosed
  | _ => s

def isLeaving : AuthorizationState → Bool
  | .loggingOut | .closing | .closed => true
  | _ => false

/-- A message of the actor; TDLib is silent after it was closed. -/
def step (s : ClientLife) (e : ClientLifeEvent) : ClientLife :=
  if s.stopped ∨ s.crashed then s
  else match e with
    | .startUp tokenAccepted => if s.started then s else s.startUp tokenAccepted
    | .authorizationState state userKnown =>
      if ¬ s.tdClient ∨ (s.tdLeft ∧ state = .ready) then s
      else { s with
        authorizationState := state
        tdLeft := s.tdLeft || isLeaving state }.onUpdateAuthorizationState userKnown
    | .authorizationResult userKnown => if s.tdClient then s.onUpdateAuthorizationState userKnown else s
    | .close => if s.started then s.close else s
    | .directoryRemoved =>
      if s.removingDirectory then { s with removingDirectory := false }.finishClosing else s
    | .timeoutExpired => if s.hasTimeout then s.stop else s

def isCounted : Bool := s.processed.contains (.rawEvent true) && !s.processed.contains (.rawEvent false)

variable {s}

def left (s : ClientLife) : Bool := s.loggingOut || s.closing

def sent (s : ClientLife) : List ParentMessage :=
  (if s.wasAuthorized then [.rawEvent true] else []) ++ (if s.wasAuthorized && s.left then [.rawEvent false] else []) ++
    if s.stopped then [.hangupShared] else []

structure Orderly (s : ClientLife) : Prop where
  messages : s.processed ++ s.mailbox = s.sent
  ready : s.authorizationState = .ready → s.tdLeft = false
  leaving : isLeaving s.authorizationState = true → s.tdLeft = true
  tdLeft : s.left = true → s.tdClient = true → s.tdLeft = true
  gone : s.started = true → s.tdClient = false → s.left = true
  running : s.tdClient = true → s.started = true
  fresh : s.started = false → s.wasAuthorized = false ∧ s.left = false
  removing : s.removingDirectory = true → s.started = true ∧ s.left = true
  hasTimeout : s.hasTimeout = true → s.started = true ∧ s.left = true
  stopped : s.stopped = true → s.left = true

theorem orderly_new (token : Slice) (isTestDc : Bool) : Orderly { token := token, isTestDc := isTestDc } where
  messages := rfl
  ready h := by cases h
  leaving h := by cases h
  tdLeft h := by cases h
  gone h := by cases h
  running h := by cases h
  fresh _ := ⟨rfl, rfl⟩
  removing h := by cases h
  hasTimeout h := by cases h
  stopped h := by cases h

theorem sent_stop (hstopped : s.stopped = false) : s.stop.sent = s.sent ++ [.hangupShared] := by
  unfold sent
  rw [hstopped, if_neg Bool.false_ne_true, List.append_nil]
  rfl

theorem Orderly.stop (h : Orderly s) (hleft : s.left = true) (hstopped : s.stopped = false) : Orderly s.stop := by
  refine ⟨?_, h.ready, h.leaving, h.tdLeft, h.gone, h.running, h.fresh, h.removing, h.hasTimeout, fun _ => hleft⟩
  rw [sent_stop hstopped, ← h.messages, List.append_assoc]
  rfl

theorem Orderly.finishClosing (h : Orderly s) (hstarted : s.started = true) (hleft : s.left = true)
    (hstopped : s.stopped = false) : Orderly s.finishClosing := by
  unfold ClientLife.finishClosing
  split_ifs
  · exact h.stop hleft hstopped
  · exact ⟨h.messages, h.ready, h.leaving, h.tdLeft, h.gone, h.running, h.fresh, h.removing,
      fun _ => ⟨hstarted, hleft⟩, h.stopped⟩

theorem Orderly.startUp (h : Orderly s) (hstarted : s.started = false) (hstopped : s.stopped = false)
    (tokenAccepted : Bool) : Orderly (s.startUp tokenAccepted) := by
  obtain ⟨hauthorized, hstay⟩ := h.fresh hstarted
  have hnever : ∀ {p : Prop}, s.left = true → p := fun hleft => by
    rw [hstay] at hleft
    cases hleft
  unfold ClientLife.startUp
  split_ifs
  · exact ⟨h.messages, h.ready, h.leaving, fun hleft => hnever hleft, fun _ hgone => (by cases hgone),
      fun _ => rfl, fun hfresh => (by cases hfresh), fun hremoving => hnever (h.removing hremoving).2,
      fun htimeout => hnever (h.hasTimeout htimeout).2, h.stopped⟩
  · refine Orderly.finishClosing ?_ rfl rfl hstopped
    refine ⟨?_, h.ready, h.leaving, fun _ htd => ?_, fun _ _ => rfl, fun _ => rfl, fun hfresh => (by cases hfresh),
      fun _ => ⟨rfl, rfl⟩, fun _ => ⟨rfl, rfl⟩, fun _ => rfl⟩
    · have hmessages := h.messages
      unfold sent at hmessages ⊢
      rw [hauthorized] at hmessages
      exact hmessages.trans (by rw [hauthorized]; rfl)
    · have hstill := h.running htd
      rw [hstarted] at hstill
      cases hstill

theorem Orderly.close (h : Orderly s) (hstarted : s.started = true) : Orderly s.close := by
  unfold ClientLife.close
  dsimp only
  split_ifs with htd
  · exact ⟨h.messages, h.ready, h.leaving, h.tdLeft, h.gone, h.running, h.fresh, h.removing, h.hasTimeout, h.stopped⟩
  · exact ⟨h.messages, h.ready, h.leaving, h.tdLeft, h.gone, h.running, h.fresh, h.removing,
      fun _ => ⟨hstarted, h.gone hstarted (eq_false_of_ne_true htd)⟩, h.stopped⟩

theorem Orderly.onClosed (h : Orderly s) (hstopped : s.stopped = false) : Orderly s.onClosed := by
  unfold ClientLife.onClosed
  split
  · rename_i hall
    have hleft : s.left = true := by simpa [left] using hall.1
    have hstarted := h.running hall.2
    dsimp only
    split_ifs
    · exact ⟨h.messages, h.ready, h.leaving, fun _ htd => (by cases htd), fun _ _ => hleft, fun htd => (by cases htd),
        h.fresh, fun _ => ⟨hstarted, hleft⟩, h.hasTimeout, h.stopped⟩
    · refine Orderly.finishClosing ?_ hstarted hleft hstopped
      exact ⟨h.messages, h.ready, h.leaving, fun _ htd => (by cases htd), fun _ _ => hleft, fun htd => (by cases htd),
        h.fresh, h.removing, h.hasTimeout, h.stopped⟩
  · exact ⟨h.messages, h.ready, h.leaving, h.tdLeft, h.gone, h.running, h.fresh, h.removing, h.hasTimeout, h.stopped⟩

/-- The client becomes authorized before it leaves. -/
theorem Orderly.authorize (h : Orderly s) (htd : s.tdClient = true) (hready : s.authorizationState = .ready)
    (hnew : s.wasAuthorized = false) (hstopped : s.stopped = false) :
    Orderly ({ s with wasAuthorized := true }.emit (.rawEvent true)) := by
  have hstay : s.left = false := by
    by_contra hleft
    have htdLeft := h.tdLeft (eq_true_of_ne_false hleft) htd
    rw [h.ready hready] at htdLeft
    cases htdLeft
  refine ⟨?_, h.ready, h.leaving, h.tdLeft, h.gone, h.running, fun hfresh => ?_, h.removing, h.hasTimeout, h.stopped⟩
  · have hmessages := h.messages
    unfold sent at hmessages ⊢
    rw [hnew, hstopped] at hmessages
    change s.processed ++ (s.mailbox ++ [.rawEvent true]) = (if true = true then _ else _) ++
      (if (true && s.left) = true then _ else _) ++ (if s.stopped = true then _ else _)
    rw [← List.append_assoc, hmessages, hstay, hstopped]
    rfl
  · have hstarted := h.running htd
    change s.started = false at hfresh
    rw [hfresh] at hstarted
    cases hstarted

/-- The client leaves, and says so if it was authorized and has not left yet. -/
theorem Orderly.leave {t : ClientLife} (h : Orderly s) (htd : s.tdClient = true)
    (hleaving : isLeaving s.authorizationState = true) (hstopped : s.stopped = false)
    (ht : ∃ loggingOut closing, (loggingOut || closing) = true ∧
      t = { s with loggingOut := loggingOut, closing := closing }.farewell s.left) : Orderly t := by
  obtain ⟨loggingOut, closing, hleft, rfl⟩ := ht
  have hready : s.authorizationState = .ready → s.tdLeft = false := h.ready
  have hmessages := h.messages
  unfold sent at hmessages
  rw [hstopped] at hmessages
  unfold farewell
  split_ifs with hfarewell
  · obtain ⟨hauthorized, htold⟩ := hfarewell
    have hauthorized : s.wasAuthorized = true := hauthorized
    have htold : s.left = false := eq_false_of_ne_true htold
    refine ⟨?_, hready, h.leaving, fun _ _ => h.leaving hleaving, fun _ _ => hleft, h.running, ?_,
      fun hremoving => ⟨(h.removing hremoving).1, hleft⟩, fun htimeout => ⟨(h.hasTimeout htimeout).1, hleft⟩,
      fun _ => hleft⟩
    · rw [hauthorized, htold] at hmessages
      unfold sent
      change s.processed ++ (s.mailbox ++ [.rawEvent false]) = (if s.wasAuthorized = true then _ else _) ++
        (if (s.wasAuthorized && (loggingOut || closing)) = true then _ else _) ++ (if s.stopped = true then _ else _)
      rw [← List.append_assoc, hmessages, hauthorized, hleft, hstopped]
      rfl
    · intro hfresh
      have hstarted := h.running htd
      change s.started = false at hfresh
      rw [hfresh] at hstarted
      cases hstarted
  · refine ⟨?_, hready, h.leaving, fun _ _ => h.leaving hleaving, fun _ _ => hleft, h.running, ?_,
      fun hremoving => ⟨(h.removing hremoving).1, hleft⟩, fun htimeout => ⟨(h.hasTimeout htimeout).1, hleft⟩,
      fun _ => hleft⟩
    · unfold sent
      change s.processed ++ s.mailbox = (if s.wasAuthorized = true then _ else _) ++
        (if (s.wasAuthorized && (loggingOut || closing)) = true then _ else _) ++ (if s.stopped = true then _ else _)
      rw [hmessages, hleft, hstopped]
      have hsame : (s.wasAuthorized && s.left) = (s.wasAuthorized && true) := by
        cases hauthorized : s.wasAuthorized with
        | false => rfl
        | true => simpa [hauthorized] using hfarewell
      rw [hsame]
    · intro hfresh
      have hstarted := h.running htd
      change s.started = false at hfresh
      rw [hfresh] at hstarted
      cases hstarted

theorem Orderly.onUpdateAuthorizationState (h : Orderly s) (htd : s.tdClient = true) (hstopped : s.stopped = false)
    (userKnown : Bool) : Orderly (s.onUpdateAuthorizationState userKnown) := by
  unfold ClientLife.onUpdateAuthorizationState
  split
  · rename_i hready
    split_ifs with hall
    · exact h.authorize htd hready (eq_false_of_ne_true hall.2) hstopped
    · exact h
  · rename_i hstate
    split_ifs with hout
    · exact h
    · refine h.leave htd (by rw [hstate]; rfl) hstopped ⟨true, s.closing, rfl, ?_⟩
      unfold left
      rw [eq_false_of_ne_true hout]
      rfl
  · rename_i hstate
    split_ifs with hclosing
    · exact h
    · refine h.leave htd (by rw [hstate]; rfl) hstopped ⟨s.loggingOut, true, Bool.or_true _, ?_⟩
      unfold left
      rw [eq_false_of_ne_true hclosing, Bool.or_false]
  · exact h.onClosed hstopped
  · exact h

theorem Orderly.step (h : Orderly s) (e : ClientLifeEvent) : Orderly (s.step e) := by
  unfold ClientLife.step
  split
  · exact h
  rename_i hdone
  have hstopped : s.stopped = false := eq_false_of_ne_true (not_or.1 hdone).1
  cases e with
  | startUp tokenAccepted =>
      dsimp only
      split_ifs with hstarted
      · exact h
      · exact h.startUp (eq_false_of_ne_true hstarted) hstopped tokenAccepted
  | authorizationState state userKnown =>
      dsimp only
      split_ifs with hsilent
      · exact h
      · obtain ⟨htd, hready⟩ := not_or.1 hsilent
        have htd : s.tdClient = true := not_not.1 htd
        have hreported : Orderly { s with
            authorizationState := state
            tdLeft := s.tdLeft || isLeaving state } := by
          refine ⟨h.messages, fun hstate => ?_, fun hleaving => ?_, fun hleft htd => ?_, h.gone, h.running, h.fresh,
            h.removing, h.hasTimeout, h.stopped⟩
          · change state = .ready at hstate
            have hstay : s.tdLeft = false := eq_false_of_ne_true fun htdLeft => hready ⟨htdLeft, hstate⟩
            change (s.tdLeft || isLeaving state) = false
            rw [hstay, hstate]
            rfl
          · change isLeaving state = true at hleaving
            change (s.tdLeft || isLeaving state) = true
            rw [hleaving, Bool.or_true]
          · change (s.tdLeft || isLeaving state) = true
            rw [h.tdLeft hleft htd, Bool.true_or]
        exact hreported.onUpdateAuthorizationState htd hstopped userKnown
  | authorizationResult userKnown =>
      dsimp only
      split_ifs with htd
      · exact h.onUpdateAuthorizationState htd hstopped userKnown
      · exact h
  | close =>
      dsimp only
      split_ifs with hstarted
      · exact h.close hstarted
      · exact h
  | directoryRemoved =>
      dsimp only
      split_ifs with hremoving
      · obtain ⟨hstarted, hleft⟩ := h.removing hremoving
        refine Orderly.finishClosing ?_ hstarted hleft hstopped
        exact ⟨h.messages, h.ready, h.leaving, h.tdLeft, h.gone, h.running, h.fresh, fun hnone => (by cases hnone),
          h.hasTimeout, h.stopped⟩
      · exact h
  | timeoutExpired =>
      dsimp only
      split_ifs with htimeout
      · exact h.stop (h.hasTimeout htimeout).2 hstopped
      · exact h

def SameBot (s t : ClientLife) : Prop := t.token = s.token ∧ t.isTestDc = s.isTestDc ∧ t.processed = s.processed

theorem sameBot_finishClosing (s : ClientLife) : SameBot s s.finishClosing := by
  unfold ClientLife.finishClosing
  split_ifs
  · exact ⟨rfl, rfl, rfl⟩
  · exact ⟨rfl, rfl, rfl⟩

theorem sameBot_onUpdateAuthorizationState (s : ClientLife) (userKnown : Bool) :
    SameBot s (s.onUpdateAuthorizationState userKnown) := by
  unfold ClientLife.onUpdateAuthorizationState ClientLife.onClosed farewell
  split
  · split_ifs <;> exact ⟨rfl, rfl, rfl⟩
  · split_ifs <;> exact ⟨rfl, rfl, rfl⟩
  · split_ifs <;> exact ⟨rfl, rfl, rfl⟩
  · dsimp only
    split_ifs
    · exact ⟨rfl, rfl, rfl⟩
    · exact sameBot_finishClosing _
    · exact ⟨rfl, rfl, rfl⟩
  · exact ⟨rfl, rfl, rfl⟩

theorem sameBot_step (s : ClientLife) (e : ClientLifeEvent) : SameBot s (s.step e) := by
  unfold ClientLife.step
  split
  · exact ⟨rfl, rfl, rfl⟩
  cases e with
  | startUp tokenAccepted =>
      dsimp only
      unfold ClientLife.startUp
      split_ifs
      · exact ⟨rfl, rfl, rfl⟩
      · exact ⟨rfl, rfl, rfl⟩
      · exact sameBot_finishClosing _
  | authorizationState state userKnown =>
      dsimp only
      split
      · exact ⟨rfl, rfl, rfl⟩
      · exact sameBot_onUpdateAuthorizationState _ userKnown
  | authorizationResult userKnown =>
      dsimp only
      split_ifs
      · exact sameBot_onUpdateAuthorizationState s userKnown
      · exact ⟨rfl, rfl, rfl⟩
  | close =>
      dsimp only
      unfold ClientLife.close
      dsimp only
      split_ifs <;> exact ⟨rfl, rfl, rfl⟩
  | directoryRemoved =>
      dsimp only
      split_ifs
      · exact sameBot_finishClosing _
      · exact ⟨rfl, rfl, rfl⟩
  | timeoutExpired =>
      dsimp only
      split_ifs <;> exact ⟨rfl, rfl, rfl⟩

def Precedes (processed : List ParentMessage) : ParentMessage → Prop
  | .rawEvent true => processed = []
  | .rawEvent false => processed = [.rawEvent true]
  | .hangupShared => processed = [] ∨ processed = [.rawEvent true, .rawEvent false]

/-- Only an authorized client says that it is no longer active, and only one that has left hangs up. -/
theorem Orderly.sent_cases (h : Orderly s) :
    s.sent = [] ∨ s.sent = [.rawEvent true] ∨ s.sent = [.rawEvent true, .rawEvent false] ∨
      s.sent = [.hangupShared] ∨ s.sent = [.rawEvent true, .rawEvent false, .hangupShared] := by
  have hleft := h.stopped
  unfold sent
  cases s.wasAuthorized with
  | false =>
      cases s.stopped with
      | false => exact Or.inl rfl
      | true => exact Or.inr (Or.inr (Or.inr (Or.inl rfl)))
  | true =>
      cases hstopped : s.stopped with
      | false =>
          cases s.left with
          | false => exact Or.inr (Or.inl rfl)
          | true => exact Or.inr (Or.inr (Or.inl rfl))
      | true =>
          rw [hleft hstopped]
          exact Or.inr (Or.inr (Or.inr (Or.inr rfl)))

/-- The messages have one possible order. -/
theorem Orderly.next (h : Orderly s) {message : ParentMessage} {mailbox : List ParentMessage}
    (hmailbox : s.mailbox = message :: mailbox) : Precedes s.processed message := by
  have hmessages := h.messages
  rw [hmailbox] at hmessages
  have hget : s.sent[s.processed.length]? = some message := by
    rw [← hmessages, List.getElem?_append_right (le_refl _), Nat.sub_self]
    rfl
  have htake : s.processed = s.sent.take s.processed.length := by
    rw [← hmessages, List.take_left]
  generalize s.processed.length = n at hget htake
  rw [htake]
  rcases h.sent_cases with hsent | hsent | hsent | hsent | hsent
  all_goals rw [hsent] at hget ⊢
  · simp at hget
  · match n with
    | 0 => cases hget; rfl
  · match n with
    | 0 => cases hget; rfl
    | 1 => cases hget; rfl
  · match n with
    | 0 => cases hget; exact Or.inl rfl
  · match n with
    | 0 => cases hget; rfl
    | 1 => cases hget; rfl
    | 2 => cases hget; exact Or.inr rfl

theorem Orderly.handled (h : Orderly s) {message : ParentMessage} {mailbox : List ParentMessage}
    (hmailbox : s.mailbox = message :: mailbox) :
    Orderly { s with mailbox := mailbox, processed := s.processed ++ [message] } := by
  refine ⟨?_, h.ready, h.leaving, h.tdLeft, h.gone, h.running, h.fresh, h.removing, h.hasTimeout, h.stopped⟩
  have hmessages := h.messages
  rw [hmailbox] at hmessages
  exact (List.append_assoc _ _ _).trans hmessages

end ClientLife

end TelegramBotApi
