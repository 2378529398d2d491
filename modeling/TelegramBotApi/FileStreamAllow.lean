import TelegramBotApi.IPAddress

/-!
# The addresses that may stream

`is_file_stream_ip_allowed` decides who may use the streaming endpoint. Every function below returns
nothing if a `CHECK` fails on its way. The entries of the list are views into one zero-terminated
string: a view knows what follows it, because a `CSlice` may only end where that string has a zero byte.
-/

namespace TelegramBotApi

/-- A network: an address and the number of its bits that count. -/
inductive IpPrefix where
  | ipv4 (address : BitVec 32) (prefixLen : Fin 33)
  | ipv6 (address : Vector (BitVec 8) 16) (prefixLen : Fin 129)
  deriving DecidableEq

/-- A part of a zero-terminated string, and the part behind it. -/
structure View where
  text : Slice
  after : Slice := []
  deriving DecidableEq

namespace View

variable (view : View)

def trim : View :=
  let text := view.text.dropWhile Slice.isSpace
  let trimmed := text.rdropWhile Slice.isSpace
  { text := trimmed, after := text.drop trimmed.length ++ view.after }

def endByte : Char := view.after.head?.getD '\x00'

def cSlice : Option Slice := if view.endByte = '\x00' then some view.text else none

def rfind (text : Slice) (c : Char) : Option Nat :=
  (text.reverse.findIdx? (· == c)).map fun i => text.length - 1 - i

/-- The address part of an entry and its prefix length, -1 without one. -/
def splitPrefix : Option (View × Int) :=
  match rfind view.text '/' with
  | none => some (view, -1)
  | some slashPos =>
    let prefixPart := view.text.drop (slashPos + 1)
    if prefixPart = [] ∨ ¬ prefixPart.all Slice.isDigit then none
    else match toInt32Safe prefixPart with
      | none => none
      | some prefixLen =>
        some ({ text := view.text.take slashPos, after := view.text.drop slashPos ++ view.after }, prefixLen)

end View

section Parser

variable (inet : InetPton)

def parseIpv6Prefix (text : View) : Option (Option (Vector (BitVec 8) 16)) := do
  match IPAddress.initIpv6Port inet (← text.cSlice) 0 with
  | .error _ => return none
  | .ok address => return some (← address.getIpv6)

/-- The end of `parse_allow_ip_entry`, which tries both families. -/
def parseAddressPart (addressPart : View) (prefixLen : Int) : Option (Option IpPrefix) := do
  match IPAddress.initIpv4Port inet (← addressPart.cSlice) 0 with
  | .ok address =>
    let ip ← address.getIpv4
    let len := if prefixLen < 0 then 32 else prefixLen
    return if h : 0 ≤ len ∧ len ≤ 32 then some (.ipv4 ip ⟨len.toNat, by omega⟩) else none
  | .error _ =>
    match ← parseIpv6Prefix inet addressPart with
    | none => return none
    | some ip =>
      let len := if prefixLen < 0 then 128 else prefixLen
      return if h : 0 ≤ len ∧ len ≤ 128 then some (.ipv6 ip ⟨len.toNat, by omega⟩) else none

def parseAllowIpEntry (entry : View) : Option (Option IpPrefix) :=
  let entry := entry.trim
  if entry.text = [] then some none
  else match entry.splitPrefix with
    | none => some none
    | some (addressPart, prefixLen) => parseAddressPart inet addressPart prefixLen

end Parser

def isPrivateOrLoopback : IPAddress → Bool
  | .invalid => false
  | .ipv4 ip _ =>
    ip >>> 24 = 0 || ip >>> 24 = 10 || ip >>> 24 = 127 || ip >>> 16 = 0xA9FE ||
      (ip >>> 20) &&& 0xFFF = 0xAC1 || ip >>> 16 = 0xC0A8
  | .ipv6 v6 _ =>
    ((List.range 15).all (fun i => v6.toList.getD i 0 = 0) && v6.toList.getD 15 0 = 1) ||
      v6.toList.getD 0 0 &&& 0xFE = 0xFC

def ipv4Matches (address : BitVec 32) (prefixLen : Nat) (ip : BitVec 32) : Bool :=
  let mask : BitVec 32 := if prefixLen = 0 then 0 else 0xFFFFFFFF <<< (32 - prefixLen)
  address &&& mask = ip &&& mask

def ipv6Matches (address : Vector (BitVec 8) 16) (prefixLen : Nat) (ip : Vector (BitVec 8) 16) : Bool :=
  let fullBytes := prefixLen / 8
  let remBits := prefixLen % 8
  let mask : BitVec 8 := 0xFF <<< (8 - remBits)
  (List.range fullBytes).all (fun i => address.toList.getD i 0 = ip.toList.getD i 0) &&
    (remBits = 0 || address.toList.getD fullBytes 0 &&& mask = ip.toList.getD fullBytes 0 &&& mask)

def IpPrefix.matches (peer : IPAddress) : IpPrefix → Bool
  | .ipv4 address prefixLen =>
    match peer with
    | .ipv4 ip _ => ipv4Matches address prefixLen ip
    | _ => false
  | .ipv6 address prefixLen =>
    match peer with
    | .ipv6 ip _ => ipv6Matches address prefixLen ip
    | _ => false

/-- The entries in the order in which the parser reads them; each round reads at least one byte. -/
def readEntries : Nat → Slice → List View
  | 0, _ => []
  | fuel + 1, data =>
    if data = [] then []
    else
      let rest := data.dropWhile (· ≠ ',')
      { text := data.takeWhile (· ≠ ','), after := rest } :: readEntries fuel (rest.drop 1)

/-- The loop of `is_file_stream_ip_allowed`. -/
def matchEntries (inet : InetPton) (peer : IPAddress) : List View → Option Bool
  | [] => some false
  | entry :: entries =>
    match parseAllowIpEntry inet entry with
    | none => none
    | some none => matchEntries inet peer entries
    | some (some network) => if network.matches peer then some true else matchEntries inet peer entries

def isFileStreamIpAllowed (inet : InetPton) (peer : IPAddress) (allowIp : Slice) : Option Bool :=
  if ¬ peer.isValid then some false
  else if allowIp = [] then some (isPrivateOrLoopback peer)
  else matchEntries inet peer (readEntries allowIp.length allowIp)

/-! ### What an entry means -/

/-- The entry stands between two commas of the list or its ends. -/
def IsEntry (allowIp : Slice) (entry : View) : Prop :=
  ∃ before, allowIp = before ++ (entry.text ++ entry.after) ∧ ',' ∉ entry.text ∧
    (before = [] ∨ before.getLast? = some ',') ∧ (entry.after = [] ∨ entry.after.head? = some ',')

/-- The networks that a text stands for: an address, or an address with the decimal number of the bits
that count. No address is empty or has a slash in it. -/
inductive IpPrefix.Written (inet : InetPton) : Slice → IpPrefix → Prop
  | ipv4 {text : Slice} {address : BitVec 32} (hne : text ≠ []) (hslash : '/' ∉ text)
      (h : inet.ipv4 text = some address) : Written inet text (.ipv4 address 32)
  | ipv4Prefix {text : Slice} {address : BitVec 32} (h : inet.ipv4 text = some address) (n : Fin 33) :
      Written inet (text ++ '/' :: (toString n.val).toList) (.ipv4 address n)
  | ipv6 {text : Slice} {address : Vector (BitVec 8) 16} (hne : text ≠ []) (hslash : '/' ∉ text)
      (h : inet.ipv6 text = some address) : Written inet text (.ipv6 address 128)
  | ipv6Prefix {text : Slice} {address : Vector (BitVec 8) 16} (h : inet.ipv6 text = some address)
      (n : Fin 129) : Written inet (text ++ '/' :: (toString n.val).toList) (.ipv6 address n)

/-- Bit `i` of an address, from the left. -/
def ipv6Bit (address : Vector (BitVec 8) 16) (i : Nat) : Bool :=
  (address.toList.getD (i / 8) 0).getMsbD (i % 8)

/-- The peer is of the same family, and the bits that count are the same. -/
def IpPrefix.Covers (peer : IPAddress) : IpPrefix → Prop
  | .ipv4 address n => ∃ ip port, peer = .ipv4 ip port ∧ ∀ i < n.val, address.getMsbD i = ip.getMsbD i
  | .ipv6 address n => ∃ ip port, peer = .ipv6 ip port ∧ ∀ i < n.val, ipv6Bit address i = ipv6Bit ip i

def IpListed (inet : InetPton) (peer : IPAddress) (allowIp : Slice) : Prop :=
  ∃ entry network, IsEntry allowIp entry ∧ IpPrefix.Written inet (Slice.trim entry.text) network ∧
    network.Covers peer

/-! ### The masks -/

/-- A mask of `n` leading ones compares the `n` leading bits. -/
theorem and_leadingOnes_eq_iff {w : Nat} (x y : BitVec w) {n : Nat} (hn : n ≤ w) :
    x &&& BitVec.allOnes w <<< (w - n) = y &&& BitVec.allOnes w <<< (w - n) ↔
      ∀ i < n, x.getMsbD i = y.getMsbD i := by
  have hbit : ∀ (z : BitVec w) (i : Nat), (z &&& BitVec.allOnes w <<< (w - n)).getMsbD i =
      (z.getMsbD i && decide (i < n)) := by
    intro z i
    rw [BitVec.getMsbD_and, BitVec.getMsbD_shiftLeft, BitVec.getMsbD_allOnes]
    congr 2
    simp only [eq_iff_iff]
    omega
  constructor
  · intro h i hi
    have hi' := congrArg (fun z => z.getMsbD i) h
    simpa [hbit, hi] using hi'
  · intro h
    refine BitVec.eq_of_getMsbD_eq fun i _ => ?_
    rw [hbit, hbit]
    by_cases hi : i < n
    · rw [h i hi]
    · simp [hi]

theorem ipv4Matches_iff (address ip : BitVec 32) {n : Nat} (hn : n ≤ 32) :
    ipv4Matches address n ip = true ↔ ∀ i < n, address.getMsbD i = ip.getMsbD i := by
  have hmask : (if n = 0 then 0 else 0xFFFFFFFF <<< (32 - n) : BitVec 32) =
      BitVec.allOnes 32 <<< (32 - n) := by
    split_ifs with h
    · subst h
      decide
    · rfl
  unfold ipv4Matches
  simp only [decide_eq_true_eq]
  rw [hmask, and_leadingOnes_eq_iff address ip hn]

/-- The bits of the bytes from `k` on, up to a bit of byte `k`. -/
theorem forall_ipv6Bit_iff (address ip : Vector (BitVec 8) 16) (k r : Nat) (hr : r < 8) :
    (∀ i < 8 * k + r, ipv6Bit address i = ipv6Bit ip i) ↔
      (∀ j < k, address.toList.getD j 0 = ip.toList.getD j 0) ∧
        ∀ i < r, (address.toList.getD k 0).getMsbD i = (ip.toList.getD k 0).getMsbD i := by
  unfold ipv6Bit
  refine ⟨fun h => ⟨fun j hj => ?_, fun i hi => ?_⟩, fun h i hi => ?_⟩
  · refine BitVec.eq_of_getMsbD_eq fun i hi => ?_
    have hbit := h (8 * j + i) (by omega)
    rwa [show (8 * j + i) / 8 = j by omega, show (8 * j + i) % 8 = i by omega] at hbit
  · have hbit := h (8 * k + i) (by omega)
    rwa [show (8 * k + i) / 8 = k by omega, show (8 * k + i) % 8 = i by omega] at hbit
  · by_cases hk : i / 8 < k
    · rw [h.1 _ hk]
    · obtain hk : i / 8 = k := by omega
      rw [hk]
      exact h.2 _ (by omega)

theorem ipv6Matches_iff (address ip : Vector (BitVec 8) 16) (n : Nat) :
    ipv6Matches address n ip = true ↔ ∀ i < n, ipv6Bit address i = ipv6Bit ip i := by
  have hrest : (decide (n % 8 = 0) || decide (address.toList.getD (n / 8) 0 &&& 0xFF <<< (8 - n % 8) =
      ip.toList.getD (n / 8) 0 &&& 0xFF <<< (8 - n % 8))) = true ↔
      ∀ i < n % 8, (address.toList.getD (n / 8) 0).getMsbD i = (ip.toList.getD (n / 8) 0).getMsbD i := by
    rw [Bool.or_eq_true, decide_eq_true_eq, decide_eq_true_eq]
    have h := and_leadingOnes_eq_iff (address.toList.getD (n / 8) 0) (ip.toList.getD (n / 8) 0)
      (n := n % 8) (by omega)
    refine ⟨?_, fun hbits => Or.inr (h.2 hbits)⟩
    rintro (hzero | heq)
    · intro i hi
      omega
    · exact h.1 heq
  unfold ipv6Matches
  simp only [Bool.and_eq_true, List.all_eq_true, List.mem_range, decide_eq_true_eq]
  rw [hrest, ← forall_ipv6Bit_iff address ip (n / 8) (n % 8) (by omega), Nat.div_add_mod]

/-- The comparison under the masks is the one of the leading bits. -/
theorem IpPrefix.matches_iff (peer : IPAddress) (network : IpPrefix) :
    network.matches peer = true ↔ network.Covers peer := by
  cases network with
  | ipv4 address n =>
      cases peer with
      | ipv4 ip port =>
          unfold IpPrefix.matches IpPrefix.Covers
          rw [ipv4Matches_iff address ip (by omega)]
          constructor
          · intro h
            exact ⟨ip, port, rfl, h⟩
          · rintro ⟨ip', port', heq, h⟩
            cases heq
            exact h
      | _ => simp [IpPrefix.matches, IpPrefix.Covers]
  | ipv6 address n =>
      cases peer with
      | ipv6 ip port =>
          unfold IpPrefix.matches IpPrefix.Covers
          rw [ipv6Matches_iff]
          constructor
          · intro h
            exact ⟨ip, port, rfl, h⟩
          · rintro ⟨ip', port', heq, h⟩
            cases heq
            exact h
      | _ => simp [IpPrefix.matches, IpPrefix.Covers]

/-! ### Entries -/

theorem takeWhile_comma {text : Slice} (htext : ',' ∉ text) (rest : Slice) :
    (text ++ ',' :: rest).takeWhile (fun c => decide (c ≠ ',')) = text ∧
      (text ++ ',' :: rest).dropWhile (fun c => decide (c ≠ ',')) = ',' :: rest := by
  have hpos : ∀ c ∈ text, decide (c ≠ ',') = true := by
    intro c hc
    rw [decide_eq_true_eq]
    rintro rfl
    exact htext hc
  rw [List.takeWhile_append_of_pos hpos, List.dropWhile_append_of_pos hpos]
  simp

theorem readEntries_comma {text : Slice} (htext : ',' ∉ text) (fuel : Nat) (rest : Slice) :
    readEntries (fuel + 1) (text ++ ',' :: rest) = ⟨text, ',' :: rest⟩ :: readEntries fuel rest := by
  rw [readEntries, if_neg (by simp), (takeWhile_comma htext rest).1, (takeWhile_comma htext rest).2]
  rfl

theorem readEntries_last {text : Slice} (htext : ',' ∉ text) (hne : text ≠ []) (fuel : Nat) :
    readEntries (fuel + 1) text = [⟨text, []⟩] := by
  have hpos : ∀ c ∈ text, decide (c ≠ ',') = true := by
    intro c hc
    rw [decide_eq_true_eq]
    rintro rfl
    exact htext hc
  have htake : text.takeWhile (fun c => decide (c ≠ ',')) = text := List.takeWhile_eq_self_iff.2 hpos
  have hdrop : text.dropWhile (fun c => decide (c ≠ ',')) = [] := List.dropWhile_eq_nil_iff.2 hpos
  rw [readEntries, if_neg hne, htake, hdrop]
  cases fuel <;> rfl

theorem isEntry_of_mem_readEntries {fuel : Nat} {before data : Slice} {entry : View}
    (h : entry ∈ readEntries fuel data) (hbefore : before = [] ∨ before.getLast? = some ',') :
    IsEntry (before ++ data) entry := by
  induction fuel generalizing before data with
  | zero => cases h
  | succ fuel ih =>
      by_cases hcomma : ',' ∈ data
      · obtain ⟨text, rest, rfl, htext⟩ := List.eq_append_cons_of_mem hcomma
        rw [readEntries_comma htext] at h
        rcases List.mem_cons.1 h with rfl | hmem
        · exact ⟨before, rfl, htext, hbefore, Or.inr rfl⟩
        · have hlast : before ++ text ++ [','] = [] ∨ (before ++ text ++ [',']).getLast? = some ',' :=
            Or.inr (by simp)
          have hentry := ih hmem hlast
          simpa using hentry
      · by_cases hne : data = []
        · subst hne
          cases h
        · rw [readEntries_last hcomma hne] at h
          obtain rfl := List.mem_singleton.1 h
          exact ⟨before, by simp, hcomma, hbefore, Or.inl rfl⟩

/-- Every entry is read, but for an empty one at the end. -/
theorem mem_readEntries {fuel : Nat} {data : Slice} {entry : View} (h : IsEntry data entry)
    (hne : entry.text ≠ []) (hfuel : data.length ≤ fuel) : entry ∈ readEntries fuel data := by
  induction fuel generalizing data with
  | zero =>
      obtain ⟨before, rfl, -⟩ := h
      have : entry.text.length = 0 := by
        simp only [List.length_append] at hfuel
        omega
      exact absurd (List.eq_nil_of_length_eq_zero this) hne
  | succ fuel ih =>
      obtain ⟨before, rfl, htext, hbefore, hafter⟩ := h
      by_cases hfirst : ',' ∈ before
      · -- the first comma of the list is in front of the entry
        obtain ⟨start, before', rfl, hstart⟩ := List.eq_append_cons_of_mem hfirst
        rw [List.append_assoc, List.cons_append, readEntries_comma hstart]
        refine List.mem_cons_of_mem _ (ih ⟨before', rfl, htext, ?_, hafter⟩ ?_)
        · cases before' with
          | nil => exact Or.inl rfl
          | cons c before' =>
              rcases hbefore with hnil | hlast
              · simp at hnil
              · exact Or.inr (by simpa using hlast)
        · simp only [List.length_append, List.length_cons] at hfuel ⊢
          omega
      · obtain rfl : before = [] := by
          rcases hbefore with hnil | hlast
          · exact hnil
          · exact absurd (List.mem_of_getLast? hlast) hfirst
        obtain ⟨text, after⟩ := entry
        rcases hafter with hnil | hhead
        · obtain rfl : after = [] := hnil
          rw [List.nil_append, List.append_nil, readEntries_last htext hne]
          exact List.mem_singleton_self _
        · cases after with
          | nil => cases hhead
          | cons c rest =>
              obtain rfl : c = ',' := Option.some.inj hhead
              rw [List.nil_append, readEntries_comma htext]
              exact List.mem_cons_self

/-! ### The address of an entry -/

theorem View.rfind_eq_none {text : Slice} {c : Char} (hc : c ∉ text) : View.rfind text c = none := by
  unfold View.rfind
  rw [Option.map_eq_none_iff, List.findIdx?_eq_none_iff]
  intro d hd
  rw [beq_eq_false_iff_ne]
  rintro rfl
  exact hc (List.mem_reverse.1 hd)

theorem View.rfind_append {start rest : Slice} {c : Char} (hc : c ∉ rest) :
    View.rfind (start ++ c :: rest) c = some start.length := by
  have hnone : rest.reverse.findIdx? (· == c) = none := by
    rw [List.findIdx?_eq_none_iff]
    intro d hd
    rw [beq_eq_false_iff_ne]
    rintro rfl
    exact hc (List.mem_reverse.1 hd)
  unfold View.rfind
  rw [List.reverse_append, List.reverse_cons, List.append_assoc, List.findIdx?_append, hnone]
  simp only [List.singleton_append, List.findIdx?_cons, beq_self_eq_true, if_true, Option.map_some,
    Option.none_or, List.length_append, List.length_cons, List.length_reverse, Option.some.injEq]
  omega

/-- The text is cut at its last slash. -/
theorem exists_last_slash {text : Slice} (h : '/' ∈ text) :
    ∃ start rest, text = start ++ '/' :: rest ∧ '/' ∉ rest := by
  obtain ⟨rest, start, heq, hrest⟩ := List.eq_append_cons_of_mem (List.mem_reverse.2 h)
  refine ⟨start.reverse, rest.reverse, ?_, by simpa using hrest⟩
  have := congrArg List.reverse heq
  simpa using this

theorem View.splitPrefix_of_plain {view : View} (h : '/' ∉ view.text) : view.splitPrefix = some (view, -1) := by
  unfold View.splitPrefix
  rw [View.rfind_eq_none h]

/-- The address part of an entry with a slash is followed by that slash. -/
theorem View.splitPrefix_of_slash {view address : View} {prefixLen : Int} (h : '/' ∈ view.text)
    (hsplit : view.splitPrefix = some (address, prefixLen)) : address.endByte = '/' := by
  obtain ⟨start, rest, htext, hrest⟩ := exists_last_slash h
  unfold View.splitPrefix at hsplit
  rw [htext, View.rfind_append hrest] at hsplit
  simp only at hsplit
  split_ifs at hsplit
  split at hsplit
  · cases hsplit
  · obtain ⟨rfl, -⟩ := Prod.mk.inj (Option.some.inj hsplit)
    simp [View.endByte]

theorem View.splitPrefix_decimal {view : View} {start : Slice} {n : Nat} (hn : n < 2 ^ 31)
    (htext : view.text = start ++ '/' :: (toString n).toList) : view.splitPrefix ≠ none := by
  have hslash : '/' ∉ (toString n).toList := by
    intro hc
    have := isDigit_of_mem_natText hc
    revert this
    decide
  have hdigits : (toString n).toList.all Slice.isDigit = true :=
    List.all_eq_true.2 fun c hc => isDigit_of_mem_natText hc
  have hint : toInt32Safe (toString n).toList = some (n : Int) := by
    have h : toInt32 (toString (n : Int)).toList = n := toInt32_intText (by omega) (by omega)
    change toInt32 (toString n).toList = n at h
    unfold toInt32Safe
    rw [h]
    exact if_pos rfl
  have hdrop : (start ++ '/' :: (toString n).toList).drop (start.length + 1) = (toString n).toList := by
    simp
  unfold View.splitPrefix
  rw [htext, View.rfind_append hslash]
  simp only [hdrop]
  rw [if_neg (not_or.2 ⟨natText_ne_nil n, not_not.2 hdigits⟩), hint]
  exact Option.some_ne_none _

/-! ### Every address is refused -/

variable {inet : InetPton}

/-- Port 0 is not a port, so that the text is not even looked at. -/
theorem parseAddressPart_eq (address : View) (prefixLen : Int) :
    parseAddressPart inet address prefixLen = if address.endByte = '\x00' then some none else none := by
  by_cases hend : address.endByte = '\x00'
  · have hslice : address.cSlice = some address.text := if_pos hend
    have hv6 : parseIpv6Prefix inet address = some none := by
      unfold parseIpv6Prefix
      rw [hslice]
      rfl
    unfold parseAddressPart
    rw [if_pos hend, hslice, hv6]
    rfl
  · have hslice : address.cSlice = none := if_neg hend
    unfold parseAddressPart
    rw [if_neg hend, hslice]
    rfl

def View.Passes (entry : View) : Prop :=
  entry.trim.text = [] ∨ entry.trim.splitPrefix = none ∨
    ('/' ∉ entry.trim.text ∧ entry.trim.endByte = '\x00')

theorem parseAllowIpEntry_of_passes {entry : View} (h : entry.Passes) :
    parseAllowIpEntry inet entry = some none := by
  unfold parseAllowIpEntry
  simp only
  by_cases htext : entry.trim.text = []
  · rw [if_pos htext]
  rw [if_neg htext]
  rcases h with hnil | hnone | ⟨hslash, hend⟩
  · exact absurd hnil htext
  · rw [hnone]
  · rw [View.splitPrefix_of_plain hslash]
    simp only [parseAddressPart_eq, if_pos hend]

theorem parseAllowIpEntry_of_not_passes {entry : View} (h : ¬ entry.Passes) :
    parseAllowIpEntry inet entry = none := by
  unfold View.Passes at h
  rw [not_or, not_or, not_and] at h
  obtain ⟨htext, hsplit, hend⟩ := h
  obtain ⟨⟨address, prefixLen⟩, haddress⟩ := Option.ne_none_iff_exists'.1 hsplit
  unfold parseAllowIpEntry
  simp only [if_neg htext, haddress, parseAddressPart_eq]
  refine if_neg ?_
  by_cases hslash : '/' ∈ entry.trim.text
  · rw [View.splitPrefix_of_slash hslash haddress]
    decide
  · rw [View.splitPrefix_of_plain hslash] at haddress
    obtain ⟨rfl, -⟩ := Prod.mk.inj (Option.some.inj haddress)
    exact hend hslash

/-- The loop never finds anybody: it ends at the end of the list or at a failed `CHECK`. -/
theorem matchEntries_of_passes {peer : IPAddress} {entries : List View} (h : ∀ entry ∈ entries, entry.Passes) :
    matchEntries inet peer entries = some false := by
  induction entries with
  | nil => rfl
  | cons entry entries ih =>
      rw [List.forall_mem_cons] at h
      rw [matchEntries, parseAllowIpEntry_of_passes h.1]
      exact ih h.2

theorem matchEntries_of_not_passes {peer : IPAddress} {entries : List View}
    (h : ¬ ∀ entry ∈ entries, entry.Passes) : matchEntries inet peer entries = none := by
  induction entries with
  | nil => exact absurd (by simp) h
  | cons entry entries ih =>
      rw [matchEntries]
      by_cases hentry : entry.Passes
      · rw [parseAllowIpEntry_of_passes hentry]
        exact ih fun hall => h (List.forall_mem_cons.2 ⟨hentry, hall⟩)
      · rw [parseAllowIpEntry_of_not_passes hentry]

def InetPton.Addresses (inet : InetPton) (text : Slice) : IPAddress → Prop
  | .invalid => False
  | .ipv4 ip _ => inet.ipv4 text = some ip
  | .ipv6 ip _ => inet.ipv6 text = some ip

/-- The entry is empty, its prefix length is not a number, or it is an address of somebody else, without
a prefix length and with nothing behind it. -/
def View.Harmless (inet : InetPton) (peer : IPAddress) (entry : View) : Prop :=
  entry.trim.text = [] ∨ entry.trim.splitPrefix = none ∨
    ('/' ∉ entry.trim.text ∧ entry.trim.endByte = '\x00' ∧ ¬ inet.Addresses entry.trim.text peer)

theorem View.Harmless.passes {peer : IPAddress} {entry : View} (h : entry.Harmless inet peer) :
    entry.Passes :=
  h.imp_right fun h => h.imp_right fun h => ⟨h.1, h.2.1⟩

/-- All bits of an address are its bytes. -/
theorem ipv6_eq_of_bits {address ip : Vector (BitVec 8) 16}
    (h : ∀ i < 128, ipv6Bit address i = ipv6Bit ip i) : address = ip := by
  have hbytes := ((forall_ipv6Bit_iff address ip 16 0 (by omega)).1 h).1
  ext1 j hj
  have hj' := hbytes j hj
  simpa [List.getD, hj] using hj'

/-- Without a slash the whole address counts. -/
theorem IpPrefix.written_plain_iff {peer : IPAddress} {text : Slice} (hne : text ≠ []) (hslash : '/' ∉ text) :
    (∃ network, IpPrefix.Written inet text network ∧ network.Covers peer) ↔ inet.Addresses text peer := by
  constructor
  · rintro ⟨network, hwritten, hcovers⟩
    cases hwritten with
    | ipv4 _ _ h =>
        obtain ⟨ip, port, rfl, hbits⟩ := hcovers
        rw [BitVec.eq_of_getMsbD_eq hbits] at h
        exact h
    | ipv4Prefix h n => exact absurd (by simp) hslash
    | ipv6 _ _ h =>
        obtain ⟨ip, port, rfl, hbits⟩ := hcovers
        rw [ipv6_eq_of_bits hbits] at h
        exact h
    | ipv6Prefix h n => exact absurd (by simp) hslash
  · intro h
    cases peer with
    | invalid => exact h.elim
    | ipv4 ip port => exact ⟨.ipv4 ip 32, .ipv4 hne hslash h, ip, port, rfl, fun _ _ => rfl⟩
    | ipv6 ip port => exact ⟨.ipv6 ip 128, .ipv6 hne hslash h, ip, port, rfl, fun _ _ => rfl⟩

/-- An entry that the parser skips and that is not the address of the peer does not list the peer. -/
theorem View.Harmless.not_listed {peer : IPAddress} {entry : View} (h : entry.Harmless inet peer)
    {network : IpPrefix} (hwritten : IpPrefix.Written inet entry.trim.text network) :
    ¬ network.Covers peer := by
  intro hcovers
  have hlist : ∀ n : Nat, n < 129 → ∀ start, entry.trim.text ≠ start ++ '/' :: (toString n).toList := by
    intro n hn start htext
    rcases h with hnil | hnone | ⟨hslash, -⟩
    · simp [htext] at hnil
    · exact View.splitPrefix_decimal (by omega) htext hnone
    · simp [htext] at hslash
  have hplain : entry.trim.text ≠ [] → '/' ∉ entry.trim.text → False := by
    intro hne hslash
    rcases h with hnil | hnone | ⟨-, -, hother⟩
    · exact hne hnil
    · rw [View.splitPrefix_of_plain hslash] at hnone
      cases hnone
    · exact hother ((IpPrefix.written_plain_iff hne hslash).1 ⟨network, hwritten, hcovers⟩)
  generalize entry.trim.text = text at hwritten hlist hplain
  cases hwritten with
  | ipv4 hne hslash _ => exact hplain hne hslash
  | ipv4Prefix _ n => exact hlist n.val (by omega) _ rfl
  | ipv6 hne hslash _ => exact hplain hne hslash
  | ipv6Prefix _ n => exact hlist n.val n.isLt _ rfl

def AllowsListed (inet : InetPton) (peer : IPAddress) (allowIp : Slice) : Prop :=
  ∃ answer, isFileStreamIpAllowed inet peer allowIp = some answer ∧
    (allowIp ≠ [] → (answer = true ↔ IpListed inet peer allowIp))

theorem isFileStreamIpAllowed_of_ne {peer : IPAddress} (hpeer : peer.isValid = true) {allowIp : Slice}
    (hne : allowIp ≠ []) :
    isFileStreamIpAllowed inet peer allowIp =
      matchEntries inet peer (readEntries allowIp.length allowIp) := by
  unfold isFileStreamIpAllowed
  rw [if_neg (not_not.2 hpeer), if_neg hne]

/-- The list is obeyed only where it can let nobody in. -/
theorem file_stream_allow_listed_iff (inet : InetPton) {peer : IPAddress} (hpeer : peer.isValid = true)
    (allowIp : Slice) :
    AllowsListed inet peer allowIp ↔
      allowIp = [] ∨ ∀ entry, IsEntry allowIp entry → entry.Harmless inet peer := by
  by_cases hne : allowIp = []
  · refine iff_of_true ?_ (Or.inl hne)
    exact ⟨isPrivateOrLoopback peer, by simp [isFileStreamIpAllowed, hpeer, hne], fun h => absurd hne h⟩
  unfold AllowsListed
  rw [or_iff_right hne, isFileStreamIpAllowed_of_ne hpeer hne]
  constructor
  · rintro ⟨answer, hanswer, hlisted⟩ entry hentry
    have hpasses : ∀ e ∈ readEntries allowIp.length allowIp, e.Passes := by
      by_contra hfails
      rw [matchEntries_of_not_passes hfails] at hanswer
      cases hanswer
    rw [matchEntries_of_passes hpasses] at hanswer
    obtain rfl := Option.some.inj hanswer
    have hunlisted : ¬ IpListed inet peer allowIp := fun h => Bool.false_ne_true ((hlisted hne).2 h)
    by_cases htext : entry.trim.text = []
    · exact Or.inl htext
    have hentryText : entry.text ≠ [] := by
      intro hnil
      refine htext ?_
      simp [View.trim, hnil]
    rcases hpasses entry (mem_readEntries hentry hentryText le_rfl) with hnil | hnone | ⟨hslash, hend⟩
    · exact absurd hnil htext
    · exact Or.inr (Or.inl hnone)
    · refine Or.inr (Or.inr ⟨hslash, hend, fun haddress => hunlisted ?_⟩)
      obtain ⟨network, hwritten, hcovers⟩ := (IpPrefix.written_plain_iff htext hslash).2 haddress
      exact ⟨entry, network, hentry, hwritten, hcovers⟩
  · intro hharmless
    have hpasses : ∀ e ∈ readEntries allowIp.length allowIp, e.Passes := fun e he =>
      (hharmless e (isEntry_of_mem_readEntries he (Or.inl rfl))).passes
    refine ⟨false, matchEntries_of_passes hpasses, fun _ => iff_of_false Bool.false_ne_true ?_⟩
    rintro ⟨entry, network, hentry, hwritten, hcovers⟩
    exact (hharmless entry hentry).not_listed hwritten hcovers

/-- A list of one address that is not the one of the peer. -/
theorem file_stream_allow_listed_other :
    let inet : InetPton :=
      ⟨fun text => if text = "10.0.0.1".toList then some 0x0A000001#32 else none, fun _ => none⟩
    AllowsListed inet (.ipv4 0x0A000002#32 80) "10.0.0.1".toList := by
  intro inet
  refine (file_stream_allow_listed_iff inet rfl _).2 (Or.inr fun entry hentry => ?_)
  by_cases htext : entry.text = []
  · refine Or.inl ?_
    simp [View.trim, htext]
  · have hmem := mem_readEntries hentry htext (by decide : _ ≤ 8 + 1)
    rw [readEntries_last (by decide) (by decide)] at hmem
    obtain rfl := List.mem_singleton.1 hmem
    refine Or.inr (Or.inr ⟨by decide +kernel, by decide +kernel, ?_⟩)
    unfold InetPton.Addresses
    decide +kernel

/-- The only address of the list is refused, and a network in the list fails a `CHECK`. -/
theorem file_stream_allow_refuses_listed :
    let inet : InetPton := ⟨fun text => if text = "10.0.0.1".toList then some 0x0A000001#32
      else if text = "10.0.0.0".toList then some 0x0A000000#32 else none, fun _ => none⟩
    let peer : IPAddress := .ipv4 0x0A000001#32 80
    isFileStreamIpAllowed inet peer "10.0.0.0/8".toList = none ∧
    isFileStreamIpAllowed inet peer "10.0.0.1".toList = some false ∧
    ¬ AllowsListed inet peer "10.0.0.0/8".toList ∧ ¬ AllowsListed inet peer "10.0.0.1".toList := by
  intro inet peer
  have hcheck : isFileStreamIpAllowed inet peer "10.0.0.0/8".toList = none := by decide +kernel
  have hfalse : isFileStreamIpAllowed inet peer "10.0.0.1".toList = some false := by decide +kernel
  refine ⟨hcheck, hfalse, ?_, ?_⟩
  · rintro ⟨answer, hanswer, -⟩
    rw [hcheck] at hanswer
    cases hanswer
  · rintro ⟨answer, hanswer, hlisted⟩
    rw [hfalse] at hanswer
    obtain rfl := Option.some.inj hanswer
    have hentry : IsEntry "10.0.0.1".toList ⟨"10.0.0.1".toList, []⟩ :=
      ⟨[], by simp, by decide, Or.inl rfl, Or.inl rfl⟩
    have hnetwork : IpPrefix.Written inet (Slice.trim "10.0.0.1".toList) (.ipv4 0x0A000001#32 32) :=
      .ipv4 (by decide +kernel) (by decide +kernel) (by decide +kernel)
    refine Bool.false_ne_true ((hlisted (by decide)).2 ⟨_, _, hentry, hnetwork, ?_⟩)
    exact ⟨_, _, rfl, fun _ _ => rfl⟩

end TelegramBotApi
