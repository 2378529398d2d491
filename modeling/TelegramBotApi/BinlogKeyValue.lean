import Mathlib.Data.List.AList
import Mathlib.Data.List.Induction
import TelegramBotApi.BinlogSending
import TelegramBotApi.TlStorage

/-!
# String databases

`BinlogKeyValue` keeps strings under keys and writes every change to a binlog; the server has one of them for
the webhooks of its bots. An operation changes the map under a lock, and its records reach the binlog in the order
of their sequence numbers. What the map says is what the log says, and every operation adds one group of
records: one change of a key, or the erasure of several. Other magics than the usual one are left out.
-/

namespace TelegramBotApi

open RewriteLog (Record Table)
open TlStorer TlParser

structure KeyValueEvent where
  key : Bytes
  value : Bytes
  deriving DecidableEq

namespace KeyValueEvent

def magic : Int := 0x2a280000

def store (event : KeyValueEvent) : Bytes := storeString event.key ++ storeString event.value

def parse (data : Bytes) : Option KeyValueEvent := do
  let key ← fetchString data
  let value ← fetchString key.2
  fetchEnd value.2
  pure { key := key.1, value := value.1 }

def content (event : KeyValueEvent) : Content := (magic, event.store)

/-- A binlog can hold the event. -/
def Fits (event : KeyValueEvent) : Prop := event.store.length + BinlogEvent.minSize ≤ BinlogEvent.maxSize

instance (event : KeyValueEvent) : Decidable event.Fits := inferInstanceAs (Decidable (_ ≤ _))

structure Valid (event : KeyValueEvent) : Prop where
  key_ne : event.key ≠ []
  fits : event.Fits

theorem length_le_storeString (str : Bytes) : str.length ≤ (storeString str).length := by
  unfold storeString
  simp only [List.length_append]
  omega

theorem parse_store {event : KeyValueEvent} (h : event.Fits) : parse event.store = some event := by
  have hkey := length_le_storeString event.key
  have hvalue := length_le_storeString event.value
  have hlength : event.store.length = (storeString event.key).length + (storeString event.value).length :=
    List.length_append
  have hmax : event.store.length + BinlogEvent.minSize ≤ 2 ^ 24 := h
  unfold parse store
  rw [fetchString_storeString (by omega)]
  change ((fetchString (storeString event.value)).bind fun value => (fetchEnd value.2).bind fun _ =>
    some (KeyValueEvent.mk event.key value.1)) = _
  have hfetch : fetchString (storeString event.value ++ []) = some (event.value, []) :=
    fetchString_storeString (by omega) []
  rw [List.append_nil] at hfetch
  rw [hfetch]
  rfl

theorem storable_content {event : KeyValueEvent} {id : Nat} (h : event.Valid) (hid : id < 2 ^ 63) :
    Storable id event.content := by
  have hkey := length_storeString event.key
  have hvalue := length_storeString event.value
  refine ⟨hid, (by decide : (0 : Int) ≤ magic), (by decide : magic < 2 ^ 31), h.fits, ?_⟩
  change (storeString event.key ++ storeString event.value).length % 4 = 0
  rw [List.length_append]
  omega

def format : LogFormat KeyValueEvent where
  content := content
  Valid := Valid
  storable := storable_content

end KeyValueEvent

/-- The values of the keys with their identifiers in the binlog. -/
abbrev KeyValueMap := AList fun _ : Bytes => Bytes × Nat

/-- `log` is what the database has sent to its binlog since it was opened. -/
structure BinlogKeyValue where
  map : KeyValueMap := ∅
  nextEventId : Nat
  log : List (Record KeyValueEvent) := []

/-- The order in which a hash table goes through its keys. -/
structure HashOrder where
  order : List Bytes → List Bytes
  perm : ∀ keys, (order keys).Perm keys

namespace BinlogKeyValue

/-- The callback of `init`: an event that is no string pair stops the process, and one with an empty key is
skipped. -/
def initEvent (map : KeyValueMap) (entry : Nat × Content) : Option KeyValueMap :=
  (KeyValueEvent.parse entry.2.2).map fun event =>
    if event.key = [] then map else map.insert event.key (event.value, entry.1)

def init (t : Table Content) : Option KeyValueMap := t.foldlM initEvent ∅

/-- The loop of `erase_batch`: the keys that are there leave the map. -/
def dropAll : KeyValueMap → List Bytes → KeyValueMap × List Nat
  | map, [] => (map, [])
  | map, key :: keys =>
    match map.lookup key with
    | none => dropAll map keys
    | some it =>
      let r := dropAll (map.erase key) keys
      (r.1, it.2 :: r.2)

section

variable (kv : BinlogKeyValue)

/-- The map changes, and the records are sent under the next identifiers. -/
def send (map : KeyValueMap) (rs : List (Record KeyValueEvent)) : BinlogKeyValue where
  map := map
  nextEventId := kv.nextEventId + rs.length
  log := kv.log ++ rs

/-- `set`, with the sequence number; a `CHECK` stops the process for an empty key. -/
def set (key value : Bytes) : Option (BinlogKeyValue × Nat) :=
  if key = [] then none
  else
    let it := (kv.map.lookup key).getD ([], 0)
    if it.2 ≠ 0 ∧ it.1 = value then some (kv, 0)
    else
      let rewrite := it.2 ≠ 0
      let eventId := if rewrite then it.2 else kv.nextEventId
      some (kv.send (kv.map.insert key (value, eventId))
        [if rewrite then .rewrite eventId ⟨key, value⟩ else .add eventId ⟨key, value⟩], kv.nextEventId)

def erase (key : Bytes) : BinlogKeyValue × Nat :=
  match kv.map.lookup key with
  | none => (kv, 0)
  | some it => (kv.send (kv.map.erase key) [.erase it.2], kv.nextEventId)

/-- The number of the records has to be one of 32 bits. -/
def eraseBatch (keys : List Bytes) : Option (BinlogKeyValue × Nat) :=
  let r := dropAll kv.map keys
  if r.2 = [] then some (kv, 0)
  else if r.2.length < 2 ^ 31 then some (kv.send r.1 (r.2.map .erase), kv.nextEventId)
  else none

/-- `erase_by_prefix`: `remove_if` meets the keys in the order of the hash table. -/
def eraseByPrefix (keyPrefix : Bytes) (hash : HashOrder) : Option BinlogKeyValue :=
  (kv.eraseBatch (hash.order (kv.map.keys.filter keyPrefix.isPrefixOf))).map (·.1)

def isset (key : Bytes) : Bool := (kv.map.lookup key).isSome

def get (key : Bytes) : Bytes := ((kv.map.lookup key).map Prod.fst).getD []

def getAll : List (Bytes × Bytes) := kv.map.entries.map fun e => (e.1, e.2.1)

def prefixGet (keyPrefix : Bytes) : List (Bytes × Bytes) :=
  (kv.getAll.filter (keyPrefix.isPrefixOf ·.1)).map fun e => (e.1.drop keyPrefix.length, e.2)

end

end BinlogKeyValue

/-- The values that the callers set fit in an event. -/
inductive KeyValueOp where
  | set (event : KeyValueEvent) (fits : event.Fits)
  | erase (key : Bytes)
  | eraseBatch (keys : List Bytes)
  | eraseByPrefix (keyPrefix : Bytes) (hash : HashOrder)

/-- The result is `none` if the process stops. -/
def BinlogKeyValue.step (kv : BinlogKeyValue) : KeyValueOp → Option BinlogKeyValue
  | .set event _ => (kv.set event.key event.value).map (·.1)
  | .erase key => some (kv.erase key).1
  | .eraseBatch keys => (kv.eraseBatch keys).map (·.1)
  | .eraseByPrefix keyPrefix hash => kv.eraseByPrefix keyPrefix hash

/-- The map says what the log says. -/
structure KeyValueMap.Holds (map : KeyValueMap) (t : Table KeyValueEvent) : Prop where
  mem : ∀ {key value id}, map.lookup key = some (value, id) ↔ (id, ⟨key, value⟩) ∈ t

namespace KeyValueEvent

/-- The log has the table, and identifiers for more. -/
structure Keeps (next : Nat) (t : Table KeyValueEvent) : Prop where
  sorted : (t.map Prod.fst).Pairwise (· < ·)
  bounds : ∀ e ∈ t, 0 < e.1 ∧ e.1 < next
  next_pos : 0 < next
  valid : ∀ e ∈ t, e.2.Valid
  keys : (t.map (·.2.key)).Nodup

inductive Group (t : Table KeyValueEvent) (next : Nat) : List (Record KeyValueEvent) → Prop where
  | add {x : KeyValueEvent} (hvalid : x.Valid) (hnew : ∀ e ∈ t, e.2.key ≠ x.key) : Group t next [.add next x]
  | rewrite {id : Nat} {x : KeyValueEvent} {value : Bytes} (hmem : (id, ⟨x.key, value⟩) ∈ t) (hvalid : x.Valid) :
      Group t next [.rewrite id x]
  | erases {ids : List Nat} (hnodup : ids.Nodup) (hids : ∀ id ∈ ids, id ∈ t.map Prod.fst) : Group t next (ids.map .erase)

end KeyValueEvent

variable {map map' map'' : KeyValueMap} {t : Table KeyValueEvent} {rs : List (Record KeyValueEvent)} {next id : Nat}
  {key value : Bytes} {x : KeyValueEvent}

namespace KeyValueEvent

theorem Keeps.erase (h : Keeps next t) (id : Nat) : Keeps (next + 1) (RewriteLog.apply t (.erase id)) where
  sorted := h.sorted.sublist (List.filter_sublist.map _)
  bounds e he := by
    have hbounds := h.bounds e (RewriteLog.mem_erase.1 he).1
    exact ⟨hbounds.1, Nat.lt_succ_of_lt hbounds.2⟩
  next_pos := Nat.succ_pos _
  valid e he := h.valid e (RewriteLog.mem_erase.1 he).1
  keys := h.keys.sublist (List.filter_sublist.map _)

theorem Group.keeps (h : Group t next rs) (hkeeps : Keeps next t) :
    Keeps (next + rs.length) (RewriteLog.replay t rs) := by
  cases h with
  | @add x hvalid hnew =>
      have hlegal : RewriteLog.Legal t (next - 1) (.add next x) := Nat.sub_one_lt_of_lt hkeeps.next_pos
      have hordered : RewriteLog.Ordered t (next - 1) :=
        ⟨hkeeps.sorted, fun e he => Nat.le_sub_one_of_lt (hkeeps.bounds e he).2⟩
      refine ⟨(hordered.apply hlegal).sorted, fun e he => ?_, Nat.succ_pos _, fun e he => ?_, ?_⟩
      · rcases RewriteLog.mem_add.1 he with he | rfl
        · exact ⟨(hkeeps.bounds e he).1, Nat.lt_succ_of_lt (hkeeps.bounds e he).2⟩
        · exact ⟨hkeeps.next_pos, Nat.lt_succ_self _⟩
      · rcases RewriteLog.mem_add.1 he with he | rfl
        · exact hkeeps.valid e he
        · exact hvalid
      · change ((t ++ [(next, x)]).map (·.2.key)).Nodup
        rw [List.map_append, List.nodup_append']
        refine ⟨hkeeps.keys, List.nodup_singleton _, fun key hkey hx => ?_⟩
        obtain ⟨e, he, rfl⟩ := List.mem_map.1 hkey
        exact hnew e he (List.mem_singleton.1 hx)
  | @rewrite id x value hmem hvalid =>
      refine ⟨?_, fun e he => ?_, Nat.succ_pos _, fun e he => ?_, ?_⟩
      · change ((RewriteLog.apply t (.rewrite id x)).map Prod.fst).Pairwise (· < ·)
        rw [RewriteLog.map_fst_rewrite]
        exact hkeeps.sorted
      · rcases RewriteLog.mem_rewrite.1 he with ⟨he, -⟩ | ⟨rfl, -⟩
        · exact ⟨(hkeeps.bounds e he).1, Nat.lt_succ_of_lt (hkeeps.bounds e he).2⟩
        · exact ⟨(hkeeps.bounds _ hmem).1, Nat.lt_succ_of_lt (hkeeps.bounds _ hmem).2⟩
      · rcases RewriteLog.mem_rewrite.1 he with ⟨he, -⟩ | ⟨rfl, -⟩
        · exact hkeeps.valid e he
        · exact hvalid
      · have hkeys : (RewriteLog.apply t (.rewrite id x)).map (·.2.key) = t.map (·.2.key) := by
          simp only [RewriteLog.apply, List.map_map]
          refine List.map_congr_left fun e he => ?_
          simp only [Function.comp_apply]
          split_ifs with hid
          · subst hid
            change x.key = e.2.key
            have hsame : KeyValueEvent.mk x.key value = e.2 := RewriteLog.eq_of_sorted hkeeps.sorted hmem he
            rw [← hsame]
          · rfl
        exact hkeys ▸ hkeeps.keys
  | @erases ids hnodup hids =>
      clear hnodup hids
      induction ids generalizing t next with
      | nil => exact hkeeps
      | cons id ids ih =>
          have hnext := ih (hkeeps.erase id)
          rwa [Nat.add_right_comm] at hnext

theorem Group.sendable (h : Group t next rs) : format.AllSendable t next rs := by
  cases h with
  | add hvalid hnew => exact ⟨⟨rfl, hvalid⟩, trivial⟩
  | rewrite hmem hvalid => exact ⟨⟨List.mem_map_of_mem hmem, hvalid⟩, trivial⟩
  | @erases ids hnodup hids =>
      induction ids generalizing t next with
      | nil => trivial
      | cons id ids ih =>
          obtain ⟨hid, hnodup⟩ := List.nodup_cons.1 hnodup
          refine ⟨hids id List.mem_cons_self, ih hnodup fun id' hid' => ?_⟩
          obtain ⟨e, he, rfl⟩ := List.mem_map.1 (hids id' (List.mem_cons_of_mem _ hid'))
          exact List.mem_map_of_mem (RewriteLog.mem_erase.2 ⟨he, fun heq => hid (heq ▸ hid')⟩)

/-- A group that is cut is a group. -/
theorem Group.take (h : Group t next rs) (k : Nat) : Group t next (rs.take k) := by
  have hnone : Group t next [] := .erases List.nodup_nil fun _ hid => absurd hid List.not_mem_nil
  cases h with
  | add hvalid hnew =>
      cases k with
      | zero => exact hnone
      | succ k =>
          rw [List.take_succ_cons, List.take_nil]
          exact .add hvalid hnew
  | rewrite hmem hvalid =>
      cases k with
      | zero => exact hnone
      | succ k =>
          rw [List.take_succ_cons, List.take_nil]
          exact .rewrite hmem hvalid
  | erases hnodup hids =>
      rw [← List.map_take]
      exact .erases (hnodup.sublist (List.take_sublist _ _)) fun id hid => hids id (List.mem_of_mem_take hid)

end KeyValueEvent

open KeyValueEvent (Keeps Group)

namespace KeyValueMap

/-- A map is found again in its table. -/
theorem Holds.lookup_eq (h : Holds map t) {t' : Table KeyValueEvent} (h' : Holds map' t')
    (hsame : ∀ id value, (id, KeyValueEvent.mk key value) ∈ t ↔ (id, KeyValueEvent.mk key value) ∈ t') :
    map.lookup key = map'.lookup key := by
  refine Option.ext fun it => ?_
  obtain ⟨value, id⟩ := it
  rw [h.mem, h'.mem]
  exact hsame id value

theorem some_eq_iff {id' : Nat} :
    some (x.value, id) = some (value, id') ↔ (id', KeyValueEvent.mk x.key value) = (id, x) := by
  obtain ⟨key, value'⟩ := x
  rw [Option.some.injEq, Prod.mk.injEq, Prod.mk.injEq, KeyValueEvent.mk.injEq, and_iff_right rfl, and_comm]
  exact and_congr eq_comm eq_comm

theorem Holds.add (h : Holds map t) (hnew : ∀ e ∈ t, e.2.key ≠ x.key) (id : Nat) :
    Holds (map.insert x.key (x.value, id)) (RewriteLog.apply t (.add id x)) := by
  refine ⟨fun {key value id'} => ?_⟩
  rw [RewriteLog.mem_add]
  by_cases hkey : key = x.key
  · subst hkey
    rw [AList.lookup_insert, or_iff_right fun he => hnew _ he rfl]
    exact some_eq_iff
  · rw [AList.lookup_insert_ne hkey, h.mem, or_iff_left]
    rintro heq
    exact hkey (congrArg (fun e : Nat × KeyValueEvent => e.2.key) heq)

theorem Holds.rewrite (h : Holds map t) (hkeeps : Keeps next t) (hmem : (id, ⟨x.key, value⟩) ∈ t) :
    Holds (map.insert x.key (x.value, id)) (RewriteLog.apply t (.rewrite id x)) := by
  refine ⟨fun {key value' id'} => ?_⟩
  rw [RewriteLog.mem_rewrite]
  by_cases hkey : key = x.key
  · subst hkey
    rw [AList.lookup_insert, or_iff_right]
    · exact some_eq_iff.trans (and_iff_left (List.mem_map_of_mem hmem)).symm
    · rintro ⟨he, hne⟩
      have hsame := (h.mem.2 he).symm.trans (h.mem.2 hmem)
      exact hne (congrArg Prod.snd (Option.some.inj hsame))
  · rw [AList.lookup_insert_ne hkey, h.mem]
    constructor
    · refine fun he => Or.inl ⟨he, fun heq => hkey ?_⟩
      subst heq
      exact congrArg KeyValueEvent.key (RewriteLog.eq_of_sorted hkeeps.sorted he hmem)
    · rintro (⟨he, -⟩ | ⟨heq, -⟩)
      · exact he
      · exact absurd (congrArg (fun e : Nat × KeyValueEvent => e.2.key) heq) hkey

theorem Holds.erase (h : Holds map t) (hkeeps : Keeps next t) (hfound : map.lookup key = some (value, id)) :
    Holds (AList.erase key map) (RewriteLog.apply t (.erase id)) := by
  refine ⟨fun {key' value' id'} => ?_⟩
  rw [RewriteLog.mem_erase]
  by_cases hkey : key' = key
  · subst hkey
    rw [AList.lookup_erase]
    refine iff_of_false (Option.some_ne_none _).symm ?_
    rintro ⟨he, hne⟩
    refine hne ?_
    exact congrArg Prod.snd (Option.some.inj ((h.mem.2 he).symm.trans hfound))
  · rw [AList.lookup_erase_ne hkey, h.mem]
    refine (and_iff_left_of_imp fun he heq => hkey ?_).symm
    dsimp only at heq
    subst heq
    exact congrArg KeyValueEvent.key (RewriteLog.eq_of_sorted hkeeps.sorted he (h.mem.1 hfound))

/-- Whatever a group has done where it is cut, every key is as it was before the group, or as it is behind it. -/
theorem Holds.cut (h : Holds map t) (hgroup : Group t next rs) (k : Nat)
    (h' : Holds map' (RewriteLog.replay t (rs.take k))) (h'' : Holds map'' (RewriteLog.replay t rs)) (key : Bytes) :
    map'.lookup key = map.lookup key ∨ map'.lookup key = map''.lookup key := by
  have hone : ∀ r : Record KeyValueEvent, rs = [r] →
      map'.lookup key = map.lookup key ∨ map'.lookup key = map''.lookup key := by
    rintro r rfl
    cases k with
    | zero => exact Or.inl (h'.lookup_eq h fun _ _ => Iff.rfl)
    | succ k =>
        rw [List.take_succ_cons, List.take_nil] at h'
        exact Or.inr (h'.lookup_eq h'' fun _ _ => Iff.rfl)
  cases hgroup with
  | add hvalid hnew => exact hone _ rfl
  | rewrite hmem hvalid => exact hone _ rfl
  | @erases ids hnodup hids =>
      rw [← List.map_take] at h'
      cases hfound : map'.lookup key with
      | some it =>
          -- what is still there was there
          obtain ⟨value, id⟩ := it
          exact Or.inl (h.mem.2 (RewriteLog.mem_replay_erases.1 (h'.mem.1 hfound)).1).symm
      | none =>
          right
          refine (Option.eq_none_iff_forall_ne_some.2 fun it hlater => ?_).symm
          obtain ⟨value, id⟩ := it
          obtain ⟨he, hid⟩ := RewriteLog.mem_replay_erases.1 (h''.mem.1 hlater)
          have hthere := h'.mem.2 (RewriteLog.mem_replay_erases.2 ⟨he, fun hmem => hid (List.mem_of_mem_take hmem)⟩)
          exact absurd (hfound.symm.trans hthere) nofun

end KeyValueMap

namespace KeyValueMap

/-- What the database is for: every key has a value, or none. -/
def values (map : KeyValueMap) (key : Bytes) : Option Bytes := (map.lookup key).map Prod.fst

theorem values_insert (map : KeyValueMap) (key value : Bytes) (id : Nat) :
    values (AList.insert key (value, id) map) = Function.update (values map) key (some value) := by
  funext k
  unfold values
  by_cases hk : k = key
  · subst hk
    rw [AList.lookup_insert, Function.update_self]
    rfl
  · rw [AList.lookup_insert_ne hk, Function.update_of_ne hk]

end KeyValueMap

namespace BinlogKeyValue

open KeyValueMap (Holds)

theorem lookup_dropAll (map : KeyValueMap) (keys : List Bytes) (key : Bytes) :
    (dropAll map keys).1.lookup key = if key ∈ keys then none else map.lookup key := by
  fun_induction dropAll map keys with
  | case1 map => exact (if_neg List.not_mem_nil).symm
  | case2 map key' keys hnone ih =>
      rw [ih]
      by_cases hkey : key = key'
      · subst hkey
        rw [hnone, ite_self, ite_self]
      · simp only [List.mem_cons, hkey, false_or]
  | case3 map key' keys it hfound r ih =>
      rw [ih]
      by_cases hkey : key = key'
      · subst hkey
        rw [AList.lookup_erase, ite_self, if_pos List.mem_cons_self]
      · simp only [AList.lookup_erase_ne hkey, List.mem_cons, hkey, false_or]

/-- The identifiers of the keys that leave the map are those of entries of the log. -/
theorem dropAll_erases (h : Holds map t) (hkeeps : Keeps next t) (keys : List Bytes) :
    (dropAll map keys).2.Nodup ∧ (∀ id ∈ (dropAll map keys).2, id ∈ t.map Prod.fst) ∧
      Holds (dropAll map keys).1 (RewriteLog.replay t ((dropAll map keys).2.map .erase)) := by
  induction keys generalizing map t next with
  | nil => exact ⟨List.nodup_nil, fun _ hid => absurd hid List.not_mem_nil, h⟩
  | cons key keys ih =>
      unfold dropAll
      cases hfound : map.lookup key with
      | none => exact ih h hkeeps
      | some it =>
          obtain ⟨hnodup, hids, hholds⟩ := ih (h.erase hkeeps hfound) (hkeeps.erase it.2)
          have hthere : ∀ id ∈ (dropAll (AList.erase key map) keys).2, id ∈ t.map Prod.fst ∧ id ≠ it.2 := by
            intro id hid
            obtain ⟨e, he, rfl⟩ := List.mem_map.1 (hids id hid)
            obtain ⟨he, hne⟩ := RewriteLog.mem_erase.1 he
            exact ⟨List.mem_map_of_mem he, hne⟩
          refine ⟨List.nodup_cons.2 ⟨fun hid => (hthere _ hid).2 rfl, hnodup⟩, fun id hid => ?_, hholds⟩
          rcases List.mem_cons.1 hid with rfl | hid
          · exact List.mem_map_of_mem (h.mem.1 hfound)
          · exact (hthere id hid).1

end BinlogKeyValue

structure BinlogKeyValue.Shows (kv : BinlogKeyValue) (values : Bytes → Option Bytes) : Prop where
  get : ∀ key, kv.get key = (values key).getD []
  isset : ∀ key, kv.isset key = (values key).isSome
  getAll : ∀ key value, (key, value) ∈ kv.getAll ↔ values key = some value
  prefixGet : ∀ keyPrefix key value, (key, value) ∈ kv.prefixGet keyPrefix ↔ values (keyPrefix ++ key) = some value

theorem BinlogKeyValue.mem_getAll (kv : BinlogKeyValue) (key value : Bytes) :
    (key, value) ∈ kv.getAll ↔ KeyValueMap.values kv.map key = some value := by
  unfold getAll KeyValueMap.values
  rw [List.mem_map, Option.map_eq_some_iff]
  constructor
  · rintro ⟨⟨key', it⟩, he, heq⟩
    obtain ⟨rfl, rfl⟩ := Prod.mk.inj heq
    exact ⟨it, AList.mem_lookup_iff.2 he, rfl⟩
  · rintro ⟨it, hfound, rfl⟩
    exact ⟨⟨key, it⟩, AList.mem_lookup_iff.1 hfound, rfl⟩

theorem BinlogKeyValue.mem_prefixGet (kv : BinlogKeyValue) (keyPrefix key value : Bytes) :
    (key, value) ∈ kv.prefixGet keyPrefix ↔ KeyValueMap.values kv.map (keyPrefix ++ key) = some value := by
  rw [← mem_getAll]
  unfold prefixGet
  rw [List.mem_map]
  constructor
  · rintro ⟨⟨key', value'⟩, he, heq⟩
    obtain ⟨rfl, rfl⟩ := Prod.mk.inj heq
    obtain ⟨he, hprefix⟩ := List.mem_filter.1 he
    obtain ⟨rest, rfl⟩ := List.isPrefixOf_iff_prefix.1 hprefix
    rwa [List.drop_left]
  · refine fun he => ⟨_, List.mem_filter.2 ⟨he, ?_⟩, ?_⟩
    · exact List.isPrefixOf_iff_prefix.2 (List.prefix_append _ _)
    · rw [List.drop_left]

theorem BinlogKeyValue.shows_values (kv : BinlogKeyValue) : kv.Shows (KeyValueMap.values kv.map) where
  get _ := rfl
  isset _ := Option.isSome_map.symm
  getAll := kv.mem_getAll
  prefixGet := kv.mem_prefixGet

def KeyValueOp.effect (values : Bytes → Option Bytes) : KeyValueOp → Bytes → Option Bytes
  | .set event _ => Function.update values event.key (some event.value)
  | .erase key => Function.update values key none
  | .eraseBatch keys => fun key => if key ∈ keys then none else values key
  | .eraseByPrefix keyPrefix _ => fun key => if keyPrefix.isPrefixOf key then none else values key

namespace BinlogKeyValue

open KeyValueMap (Holds)

variable {kv kv' : BinlogKeyValue} {op : KeyValueOp}

/-- The database sends one group of records, and comes to have the values. -/
structure Sends (kv : BinlogKeyValue) (t : Table KeyValueEvent) (values : Bytes → Option Bytes) (kv' : BinlogKeyValue)
    (rs : List (Record KeyValueEvent)) : Prop where
  group : Group t kv.nextEventId rs
  sent : kv' = kv.send kv'.map rs
  holds : Holds kv'.map (RewriteLog.replay t rs)
  values : KeyValueMap.values kv'.map = values

theorem Sends.refl (h : Holds kv.map t) : Sends kv t (KeyValueMap.values kv.map) kv [] where
  group := .erases List.nodup_nil fun _ hid => absurd hid List.not_mem_nil
  sent := by
    unfold send
    rw [List.append_nil]
    rfl
  holds := h
  values := rfl

theorem eraseBatch_sends (h : Holds kv.map t) (hkeeps : Keeps kv.nextEventId t) {keys : List Bytes} {seqNo : Nat}
    (herase : kv.eraseBatch keys = some (kv', seqNo)) :
    ∃ rs, Sends kv t (fun key => if key ∈ keys then none else KeyValueMap.values kv.map key) kv' rs := by
  obtain ⟨hnodup, hids, hholds⟩ := dropAll_erases h hkeeps keys
  have hvalues : KeyValueMap.values (dropAll kv.map keys).1 =
      fun key => if key ∈ keys then none else KeyValueMap.values kv.map key := by
    funext key
    unfold KeyValueMap.values
    rw [lookup_dropAll]
    split_ifs <;> rfl
  unfold eraseBatch at herase
  dsimp only at herase
  split_ifs at herase with hnone
  · -- none of the keys is there
    obtain ⟨rfl, -⟩ := Prod.mk.inj (Option.some.inj herase)
    rw [hnone] at hholds
    have hsame : KeyValueMap.values (dropAll kv.map keys).1 = KeyValueMap.values kv.map := by
      funext key
      exact congrArg (Option.map Prod.fst) (hholds.lookup_eq h fun _ _ => Iff.rfl)
    rw [← hvalues, hsame]
    exact ⟨[], .refl h⟩
  · obtain ⟨rfl, -⟩ := Prod.mk.inj (Option.some.inj herase)
    exact ⟨_, .erases hnodup hids, rfl, hholds, hvalues⟩

theorem eraseBatch_singleton (kv : BinlogKeyValue) (key : Bytes) : kv.eraseBatch [key] = some (kv.erase key) := by
  unfold erase eraseBatch dropAll
  cases kv.map.lookup key with
  | none => rfl
  | some it => rfl

theorem erase_sends (h : Holds kv.map t) (hkeeps : Keeps kv.nextEventId t) (key : Bytes) :
    ∃ rs, Sends kv t (Function.update (KeyValueMap.values kv.map) key none) (kv.erase key).1 rs := by
  obtain ⟨rs, hsends⟩ := eraseBatch_sends h hkeeps (kv.eraseBatch_singleton key)
  refine ⟨rs, hsends.group, hsends.sent, hsends.holds, hsends.values.trans ?_⟩
  funext k
  simp only [Function.update_apply, List.mem_singleton]

theorem eraseByPrefix_sends (h : Holds kv.map t) (hkeeps : Keeps kv.nextEventId t) {keyPrefix : Bytes}
    {hash : HashOrder} (herase : kv.eraseByPrefix keyPrefix hash = some kv') :
    ∃ rs, Sends kv t (fun key => if keyPrefix.isPrefixOf key then none else KeyValueMap.values kv.map key) kv' rs := by
  obtain ⟨⟨_, seqNo⟩, hbatch, rfl⟩ := Option.map_eq_some_iff.1 herase
  obtain ⟨rs, hsends⟩ := eraseBatch_sends h hkeeps hbatch
  refine ⟨rs, hsends.group, hsends.sent, hsends.holds, hsends.values.trans ?_⟩
  funext key
  simp only [(hash.perm _).mem_iff, List.mem_filter]
  by_cases hkey : key ∈ kv.map.keys
  · simp only [hkey, true_and]
  · -- a key that is not there has no value, whatever its prefix is
    have hlookup : kv.map.lookup key = none := AList.lookup_eq_none.2 hkey
    have hnone : KeyValueMap.values kv.map key = none := congrArg (Option.map Prod.fst) hlookup
    rw [hnone, ite_self, ite_self]

theorem set_sends (h : Holds kv.map t) (hkeeps : Keeps kv.nextEventId t) {event : KeyValueEvent}
    (hvalid : event.Valid) :
    ∃ kv' seqNo rs, kv.set event.key event.value = some (kv', seqNo) ∧
      Sends kv t (Function.update (KeyValueMap.values kv.map) event.key (some event.value)) kv' rs := by
  unfold set
  rw [if_neg hvalid.key_ne]
  cases hfound : kv.map.lookup event.key with
  | none =>
      have hnew : ∀ e ∈ t, e.2.key ≠ event.key := by
        rintro ⟨id, key, value⟩ he rfl
        exact absurd (hfound.symm.trans (h.mem.2 he)) nofun
      exact ⟨_, _, _, rfl, .add hvalid hnew, rfl, h.add hnew _, KeyValueMap.values_insert _ _ _ _⟩
  | some it =>
      obtain ⟨value, id⟩ := it
      have hmem := h.mem.1 hfound
      have hid : id ≠ 0 := Nat.ne_of_gt (hkeeps.bounds _ hmem).1
      dsimp only [Option.getD_some]
      simp only [ne_eq, hid, not_false_eq_true, true_and, if_true]
      split_ifs with hvalue
      · refine ⟨kv, 0, [], rfl, ?_⟩
        have hsame : KeyValueMap.values kv.map event.key = some event.value :=
          hvalue ▸ congrArg (Option.map Prod.fst) hfound
        rw [← hsame, Function.update_eq_self]
        exact .refl h
      · exact ⟨_, _, _, rfl, .rewrite hmem hvalid, rfl, h.rewrite hkeeps hmem, KeyValueMap.values_insert _ _ _ _⟩

/-- Every operation sends one group of records, and does to the values what it is meant to do. -/
theorem step_sends (h : Holds kv.map t) (hkeeps : Keeps kv.nextEventId t) (hstep : kv.step op = some kv') :
    ∃ rs, Sends kv t (op.effect (KeyValueMap.values kv.map)) kv' rs := by
  cases op with
  | set event fits =>
      by_cases hkey : event.key = []
      · change (kv.set event.key event.value).map (·.1) = some kv' at hstep
        unfold set at hstep
        rw [if_pos hkey] at hstep
        cases hstep
      · obtain ⟨kv'', seqNo, rs, hset, hsends⟩ := set_sends h hkeeps ⟨hkey, fits⟩
        change (kv.set event.key event.value).map (·.1) = some kv' at hstep
        rw [hset] at hstep
        obtain rfl := Option.some.inj hstep
        exact ⟨rs, hsends⟩
  | erase key =>
      obtain rfl := Option.some.inj hstep
      exact erase_sends h hkeeps key
  | eraseBatch keys =>
      obtain ⟨⟨_, seqNo⟩, hbatch, rfl⟩ := Option.map_eq_some_iff.1 hstep
      exact eraseBatch_sends h hkeeps hbatch
  | eraseByPrefix keyPrefix hash => exact eraseByPrefix_sends h hkeeps hstep

theorem length_dropAll_le (map : KeyValueMap) (keys : List Bytes) : (dropAll map keys).2.length ≤ map.keys.length := by
  induction keys generalizing map with
  | nil => exact Nat.zero_le _
  | cons key keys ih =>
      unfold dropAll
      cases hfound : map.lookup key with
      | none => exact ih map
      | some it =>
          have hmem : key ∈ map.keys := AList.lookup_isSome.1 (Option.isSome_iff_exists.2 ⟨it, hfound⟩)
          have hlength : (AList.erase key map).keys.length + 1 = map.keys.length := by
            rw [AList.keys_erase]
            exact @List.length_erase_add_one _ instBEqOfDecidableEq _ _ _ hmem
          have hrest := ih (AList.erase key map)
          rw [List.length_cons]
          omega

theorem eraseBatch_ne_none (hkeys : kv.map.keys.length < 2 ^ 31) (keys : List Bytes) : kv.eraseBatch keys ≠ none := by
  have hle := length_dropAll_le kv.map keys
  unfold eraseBatch
  dsimp only
  split_ifs with hnone hlength
  · exact Option.some_ne_none _
  · exact Option.some_ne_none _
  · exact absurd (Nat.lt_of_le_of_lt hle hkeys) hlength

/-- Nothing but an empty key stops the process, while the keys can be counted in 32 bits. -/
theorem step_eq_none_iff (hkeys : kv.map.keys.length < 2 ^ 31) (op : KeyValueOp) :
    kv.step op = none ↔ ∃ value fits, op = .set ⟨[], value⟩ fits := by
  cases op with
  | set event fits =>
      obtain ⟨key, value⟩ := event
      change (kv.set key value).map (·.1) = none ↔ _
      rw [Option.map_eq_none_iff]
      unfold set
      split_ifs with hkey
      · subst hkey
        exact iff_of_true rfl ⟨value, fits, rfl⟩
      · refine iff_of_false (fun hnone => ?_) ?_
        · dsimp only at hnone
          split_ifs at hnone
        · rintro ⟨value', fits', heq⟩
          cases heq
          exact hkey rfl
  | erase key =>
      refine iff_of_false (Option.some_ne_none _) ?_
      rintro ⟨_, _, heq⟩
      cases heq
  | eraseBatch keys =>
      refine iff_of_false (fun hnone => eraseBatch_ne_none hkeys keys (Option.map_eq_none_iff.1 hnone)) ?_
      rintro ⟨_, _, heq⟩
      cases heq
  | eraseByPrefix keyPrefix hash =>
      refine iff_of_false (fun hnone => eraseBatch_ne_none hkeys _ (Option.map_eq_none_iff.1 hnone)) ?_
      rintro ⟨_, _, heq⟩
      cases heq

theorem initEvent_content (map : KeyValueMap) (id : Nat) (hvalid : x.Valid) :
    initEvent map (id, x.content) = some (AList.insert x.key (x.value, id) map) := by
  unfold initEvent
  change (KeyValueEvent.parse x.store).map _ = _
  rw [KeyValueEvent.parse_store hvalid.fits, Option.map_some, if_neg hvalid.key_ne]

/-- A database is read again from its log. -/
theorem init_holds (hvalid : ∀ e ∈ t, e.2.Valid) (hkeys : (t.map (·.2.key)).Nodup) :
    ∃ map, init (RewriteLog.mapTable KeyValueEvent.content t) = some map ∧ Holds map t := by
  induction t using List.reverseRecOn with
  | nil => exact ⟨∅, rfl, ⟨iff_of_false nofun List.not_mem_nil⟩⟩
  | append_singleton t e ih =>
      rw [List.map_append, List.nodup_append'] at hkeys
      obtain ⟨map, hinit, hholds⟩ := ih (fun e' he' => hvalid e' (List.mem_append_left _ he')) hkeys.1
      have hlast := initEvent_content map e.1 (hvalid e (List.mem_append_right _ List.mem_cons_self))
      refine ⟨AList.insert e.2.key (e.2.value, e.1) map, ?_, hholds.add (fun e' he' heq => ?_) e.1⟩
      · change (RewriteLog.mapTable _ t).foldlM initEvent ∅ = some map at hinit
        change ((t ++ [e]).map _).foldlM initEvent ∅ = _
        rw [List.map_append, List.foldlM_append]
        change ((RewriteLog.mapTable KeyValueEvent.content t).foldlM initEvent ∅).bind _ = _
        rw [hinit]
        exact congrArg (·.bind some) hlast
      · exact hkeys.2.2 (List.mem_map_of_mem he') (heq ▸ List.mem_cons_self)

end BinlogKeyValue

end TelegramBotApi
