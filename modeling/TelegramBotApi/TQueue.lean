import TelegramBotApi.SliceText

/-!
# One queue of the update storage

`TQueue` keeps the updates of a bot in a map ordered by event identifier. A webhook only reads its head
and the events from an offset on; everything else may change the queue between two reads, so a state of
the queue is an input of the steps that read it.
-/

namespace TelegramBotApi

def maxEventId : Int := 2000000000

def isValidEventId (id : Int) : Prop := 0 < id ∧ id < maxEventId

instance (id : Int) : Decidable (isValidEventId id) := inferInstanceAs (Decidable (_ ∧ _))

structure TQueueEvent where
  id : Int
  expiresAt : Int
  data : Slice
  extra : Int
  deriving DecidableEq

/-- A queue as `push` leaves it: the events are ordered, and the tail is a valid identifier behind all
of them. -/
structure TQueue where
  tailId : Int
  events : List TQueueEvent
  sorted : (events.map (·.id)).Pairwise (· < ·)
  bounded : ∀ e ∈ events, 0 < e.id ∧ e.id < tailId
  tail_lt : tailId < maxEventId

namespace TQueue

def head (q : TQueue) : Int :=
  match q.events with
  | [] => q.tailId
  | e :: _ => e.id

/-- The events that `do_get` returns: not expired, not empty, and at most `limit`. -/
def doGet (q : TQueue) (fromId unixTimeNow : Int) (limit : Nat) : List TQueueEvent :=
  (q.events.filter fun e => fromId ≤ e.id ∧ unixTimeNow ≤ e.expiresAt ∧ e.data ≠ []).take limit

def get (q : TQueue) (fromId unixTimeNow : Int) (limit : Nat) : Except Status (List TQueueEvent) :=
  if q.tailId + 10 < fromId then .error ⟨0, "Specified from_id is in the future"⟩
  else if fromId < q.head - 100000 then .error ⟨0, "Specified from_id is in the past"⟩
  else .ok (q.doGet fromId unixTimeNow limit)

variable {q : TQueue} {fromId now : Int} {limit : Nat} {e : TQueueEvent}

theorem doGet_length (q : TQueue) (fromId now : Int) (limit : Nat) :
    (q.doGet fromId now limit).length ≤ limit := List.length_take_le _ _

theorem doGet_sorted (q : TQueue) (fromId now : Int) (limit : Nat) :
    ((q.doGet fromId now limit).map (·.id)).Pairwise (· < ·) := by
  refine q.sorted.sublist (List.Sublist.map _ ?_)
  exact (List.take_sublist _ _).trans List.filter_sublist

theorem mem_doGet (he : e ∈ q.doGet fromId now limit) :
    e ∈ q.events ∧ fromId ≤ e.id ∧ now ≤ e.expiresAt ∧ e.data ≠ [] := by
  have h := List.mem_filter.1 (List.mem_of_mem_take he)
  exact ⟨h.1, of_decide_eq_true h.2⟩

/-- An event of the queue is valid and is not the last possible one. -/
theorem next_valid (he : e ∈ q.events) : 0 < e.id ∧ e.id + 1 < maxEventId := by
  have h := q.bounded e he
  have ht := q.tail_lt
  omega

theorem head_le_tail (q : TQueue) : q.head ≤ q.tailId := by
  unfold head
  split
  · exact Int.le_refl _
  · rename_i e rest he
    have := q.bounded e (by simp [he])
    omega

/-- The head of the queue is never refused. -/
theorem get_head (q : TQueue) (now : Int) (limit : Nat) :
    q.get q.head now limit = .ok (q.doGet q.head now limit) := by
  have h := q.head_le_tail
  unfold get
  rw [if_neg (by omega), if_neg (by omega)]

end TQueue

end TelegramBotApi
