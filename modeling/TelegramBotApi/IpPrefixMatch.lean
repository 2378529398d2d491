import TelegramBotApi.FileStreamAllow

/-!
# Prefix matching as it is evaluated

`ipv4_matches` and `ipv6_matches` compute the counts of their shifts and the indices of their bytes from the
prefix length. Here they have no value where a shift is not below the width of what is shifted, or where a
byte is not one of the sixteen. For the prefix lengths that an entry may have, they are the functions that the
list of allowed addresses uses.
-/

namespace TelegramBotApi

/-- `IpPrefix`, with the fields of both families. -/
structure IpPrefixFields where
  ipv4 : BitVec 32 := 0
  ipv6 : Vector (BitVec 8) 16 := Vector.replicate 16 0
  isIpv4 : Bool := false
  prefixLen : Int := 0

def shiftLeft {w : Nat} (x : BitVec w) (count : Int) : Option (BitVec w) :=
  if 0 ≤ count ∧ count < w then some (x <<< count.toNat) else none

def byteAt (ip : Vector (BitVec 8) 16) (i : Int) : Option (BitVec 8) := if 0 ≤ i then ip[i.toNat]? else none

namespace IpPrefixFields

variable (network : IpPrefixFields)

def ipv4Matches (ip : BitVec 32) : Option Bool := do
  let mask ← if network.prefixLen = 0 then some 0 else shiftLeft 0xFFFFFFFF (32 - network.prefixLen)
  return network.ipv4 &&& mask = ip &&& mask

/-- The loop over the full bytes, from byte `i` on. -/
def fullBytesMatch (ip : Vector (BitVec 8) 16) : Nat → Int → Option Bool
  | 0, _ => some true
  | count + 1, i => do
    let a ← byteAt network.ipv6 i
    let b ← byteAt ip i
    if a ≠ b then some false else fullBytesMatch ip count (i + 1)

def ipv6Matches (ip : Vector (BitVec 8) 16) : Option Bool := do
  let fullBytes := network.prefixLen.tdiv 8
  let remBits := network.prefixLen.tmod 8
  let full ← network.fullBytesMatch ip fullBytes.toNat 0
  if ¬ full then some false
  else if 0 < remBits then do
    -- the shift is one of an `int`, and its result fits
    let mask ← shiftLeft (0xFF : BitVec 32) (8 - remBits)
    let a ← byteAt network.ipv6 fullBytes
    let b ← byteAt ip fullBytes
    return a &&& mask.setWidth 8 = b &&& mask.setWidth 8
  else some true

/-- The comparison in the loop of `is_file_stream_ip_allowed`. -/
def matchesPeer (peer : IPAddress) : Option Bool :=
  match peer with
  | .invalid => some false
  | .ipv4 ip _ => if network.isIpv4 then network.ipv4Matches ip else some false
  | .ipv6 ip _ => if network.isIpv4 then some false else network.ipv6Matches ip

end IpPrefixFields

/-- What `parse_allow_ip_entry` leaves in its result. -/
def IpPrefix.fields : IpPrefix → IpPrefixFields
  | .ipv4 address prefixLen => { ipv4 := address, isIpv4 := true, prefixLen := prefixLen.val }
  | .ipv6 address prefixLen => { ipv6 := address, prefixLen := prefixLen.val }

/-! ### No shift and no byte is out of range -/

theorem shiftLeft_of {w : Nat} (x : BitVec w) {count : Nat} (h : count < w) :
    shiftLeft x count = some (x <<< count) := by
  unfold shiftLeft
  rw [if_pos (by omega), Int.toNat_natCast]

theorem byteAt_of (ip : Vector (BitVec 8) 16) {i : Nat} (h : i < 16) : byteAt ip i = some (ip.toList.getD i 0) := by
  unfold byteAt
  rw [if_pos (by omega), Int.toNat_natCast]
  simp [List.getD, h]

namespace IpPrefixFields

variable {network : IpPrefixFields}

theorem ipv4Matches_eq (h : 0 ≤ network.prefixLen ∧ network.prefixLen ≤ 32) (ip : BitVec 32) :
    network.ipv4Matches ip = some (TelegramBotApi.ipv4Matches network.ipv4 network.prefixLen.toNat ip) := by
  obtain ⟨n, hn⟩ := Int.eq_ofNat_of_zero_le h.1
  unfold ipv4Matches TelegramBotApi.ipv4Matches
  rw [hn, Int.toNat_natCast]
  by_cases hzero : n = 0
  · subst hzero
    rfl
  · have hcount : (32 - (n : Int)) = ((32 - n : Nat) : Int) := by omega
    rw [if_neg (by omega), if_neg hzero, hcount, shiftLeft_of _ (by omega)]
    rfl

/-- The loop ends at the first byte that differs, and reads no byte behind the full ones. -/
theorem fullBytesMatch_eq (ip : Vector (BitVec 8) 16) {count i : Nat} (h : i + count ≤ 16) :
    network.fullBytesMatch ip count i =
      some ((List.range' i count).all fun j => network.ipv6.toList.getD j 0 = ip.toList.getD j 0) := by
  induction count generalizing i with
  | zero => rfl
  | succ count ih =>
      have hnext := ih (i := i + 1) (by omega)
      rw [fullBytesMatch, byteAt_of _ (by omega), byteAt_of _ (by omega), List.range'_succ, List.all_cons]
      change (if _ then some false else network.fullBytesMatch ip count (i + 1 : Nat)) = _
      rw [hnext]
      by_cases heq : network.ipv6.toList.getD i 0 = ip.toList.getD i 0
      · rw [if_neg (not_not.2 heq), decide_eq_true heq, Bool.true_and]
      · rw [if_pos heq, decide_eq_false heq, Bool.false_and]

/-- A byte of the mask is cut off a longer number. -/
theorem setWidth_shiftLeft (count : Fin 8) :
    ((0xFF : BitVec 32) <<< count.val).setWidth 8 = BitVec.ofNat 8 (0xFF <<< count.val) := by
  revert count
  decide

theorem ipv6Matches_eq (h : 0 ≤ network.prefixLen ∧ network.prefixLen ≤ 128) (ip : Vector (BitVec 8) 16) :
    network.ipv6Matches ip = some (TelegramBotApi.ipv6Matches network.ipv6 network.prefixLen.toNat ip) := by
  obtain ⟨n, hn⟩ := Int.eq_ofNat_of_zero_le h.1
  have hfull : (n : Int).tdiv 8 = (n / 8 : Nat) := rfl
  have hrem : (n : Int).tmod 8 = (n % 8 : Nat) := rfl
  have hloop : network.fullBytesMatch ip (n / 8) 0 =
      some ((List.range (n / 8)).all fun j => network.ipv6.toList.getD j 0 = ip.toList.getD j 0) := by
    rw [List.range_eq_range']
    exact fullBytesMatch_eq (i := 0) ip (by omega)
  unfold ipv6Matches TelegramBotApi.ipv6Matches
  simp only [hn, hfull, hrem, Int.toNat_natCast, hloop, Option.bind_eq_bind, Option.bind_some]
  by_cases hall : (List.range (n / 8)).all fun j => network.ipv6.toList.getD j 0 = ip.toList.getD j 0
  swap
  · rw [if_pos hall, Bool.eq_false_iff.2 hall, Bool.false_and]
  rw [if_neg (not_not.2 hall), hall, Bool.true_and]
  by_cases hzero : n % 8 = 0
  · rw [if_neg (by omega), decide_eq_true hzero, Bool.true_or]
  · have hcount : (8 - ((n % 8 : Nat) : Int)) = ((8 - n % 8 : Nat) : Int) := by omega
    have hmask := setWidth_shiftLeft ⟨8 - n % 8, by omega⟩
    rw [if_pos (by omega), decide_eq_false hzero, Bool.false_or, hcount, shiftLeft_of _ (by omega),
      byteAt_of _ (by omega), byteAt_of _ (by omega)]
    simp only [Option.bind_some, hmask]
    rfl

end IpPrefixFields

/-- The comparison never goes out of range for a network that was read from an entry. -/
theorem IpPrefix.matchesPeer_fields (network : IpPrefix) (peer : IPAddress) :
    network.fields.matchesPeer peer = some (network.matches peer) := by
  have hlen : 0 ≤ network.fields.prefixLen ∧ network.fields.prefixLen ≤ if network.fields.isIpv4 then 32 else 128 := by
    cases network with
    | ipv4 address prefixLen => exact ⟨Int.natCast_nonneg _, Int.ofNat_le.2 (Nat.le_of_lt_succ prefixLen.isLt)⟩
    | ipv6 address prefixLen => exact ⟨Int.natCast_nonneg _, Int.ofNat_le.2 (Nat.le_of_lt_succ prefixLen.isLt)⟩
  cases network with
  | ipv4 address prefixLen =>
      cases peer with
      | ipv4 ip port => exact IpPrefixFields.ipv4Matches_eq hlen ip
      | _ => rfl
  | ipv6 address prefixLen =>
      cases peer with
      | ipv6 ip port => exact IpPrefixFields.ipv6Matches_eq hlen ip
      | _ => rfl

/-! ### Networks -/

namespace IpPrefixFields

variable {network : IpPrefixFields}

/-- The first bits of an address are those of the network. -/
def SameBits {α : Type*} (bit : α → Nat → Bool) (n : Int) (address ip : α) : Prop :=
  ∀ i : Nat, (i : Int) < n → bit address i = bit ip i

theorem SameBits.mono {α : Type*} {bit : α → Nat → Bool} {m n : Int} {address ip : α} (hle : m ≤ n)
    (h : SameBits bit n address ip) : SameBits bit m address ip :=
  fun i hi => h i (Int.lt_of_lt_of_le hi hle)

theorem sameBits_toNat {α : Type*} (bit : α → Nat → Bool) (n : Int) (address ip : α) :
    SameBits bit n address ip ↔ ∀ i < n.toNat, bit address i = bit ip i := by
  unfold SameBits
  refine forall_congr' fun i => ?_
  rw [Int.lt_toNat]

theorem ipv4Matches_iff (h : 0 ≤ network.prefixLen ∧ network.prefixLen ≤ 32) (ip : BitVec 32) :
    network.ipv4Matches ip = some true ↔ SameBits BitVec.getMsbD network.prefixLen network.ipv4 ip := by
  rw [ipv4Matches_eq h, Option.some_inj, TelegramBotApi.ipv4Matches_iff _ _ (by omega), sameBits_toNat]

theorem ipv6Matches_iff (h : 0 ≤ network.prefixLen ∧ network.prefixLen ≤ 128) (ip : Vector (BitVec 8) 16) :
    network.ipv6Matches ip = some true ↔ SameBits ipv6Bit network.prefixLen network.ipv6 ip := by
  rw [ipv6Matches_eq h, Option.some_inj, TelegramBotApi.ipv6Matches_iff, sameBits_toNat]

/-- An answer is always given, it compares the first bits, and it stays with a shorter prefix. -/
theorem prefix_matching (network : IpPrefixFields) :
    (0 ≤ network.prefixLen ∧ network.prefixLen ≤ 32 → ∀ ip : BitVec 32, ∃ answer,
      network.ipv4Matches ip = some answer ∧
      (answer = true ↔ SameBits BitVec.getMsbD network.prefixLen network.ipv4 ip) ∧
      ∀ shorter, 0 ≤ shorter ∧ shorter ≤ network.prefixLen → answer = true →
        { network with prefixLen := shorter }.ipv4Matches ip = some true) ∧
    (0 ≤ network.prefixLen ∧ network.prefixLen ≤ 128 → ∀ ip : Vector (BitVec 8) 16, ∃ answer,
      network.ipv6Matches ip = some answer ∧
      (answer = true ↔ SameBits ipv6Bit network.prefixLen network.ipv6 ip) ∧
      ∀ shorter, 0 ≤ shorter ∧ shorter ≤ network.prefixLen → answer = true →
        { network with prefixLen := shorter }.ipv6Matches ip = some true) := by
  constructor
  · intro h ip
    have hanswer := ipv4Matches_eq h ip
    have hbits := ipv4Matches_iff h ip
    rw [hanswer, Option.some_inj] at hbits
    refine ⟨_, hanswer, hbits, fun shorter hshorter htrue => ?_⟩
    exact (ipv4Matches_iff ⟨hshorter.1, Int.le_trans hshorter.2 h.2⟩ ip).2 ((hbits.1 htrue).mono hshorter.2)
  · intro h ip
    have hanswer := ipv6Matches_eq h ip
    have hbits := ipv6Matches_iff h ip
    rw [hanswer, Option.some_inj] at hbits
    refine ⟨_, hanswer, hbits, fun shorter hshorter htrue => ?_⟩
    exact (ipv6Matches_iff ⟨hshorter.1, Int.le_trans hshorter.2 h.2⟩ ip).2 ((hbits.1 htrue).mono hshorter.2)

/-- The network 10.0.0.0/8 has 10.1.2.3 in it, and so has 10.0.0.0/7; a prefix of eight zero bits has the address
`::1`, and one of none has it too. -/
theorem prefix_matching_eight :
    let network : IpPrefixFields := { ipv4 := 0x0A000000, isIpv4 := true, prefixLen := 8 }
    let loopback : Vector (BitVec 8) 16 := (Vector.replicate 16 0).set 15 1
    { network with prefixLen := 7 }.ipv4Matches 0x0A010203 = some true ∧
      { network with prefixLen := 0 }.ipv6Matches loopback = some true := by
  intro network loopback
  obtain ⟨answer, hanswer, -, hshorter⟩ := (prefix_matching network).1 ⟨by decide, by decide⟩ 0x0A010203
  obtain ⟨answer', hanswer', -, hshorter'⟩ := (prefix_matching network).2 ⟨by decide, by decide⟩ loopback
  have htrue : network.ipv4Matches 0x0A010203 = some true := by decide
  have htrue' : network.ipv6Matches loopback = some true := by decide
  rw [htrue] at hanswer
  rw [htrue'] at hanswer'
  cases hanswer
  cases hanswer'
  exact ⟨hshorter 7 ⟨by decide, by decide⟩ rfl, hshorter' 0 ⟨by decide, by decide⟩ rfl⟩

end IpPrefixFields

end TelegramBotApi
