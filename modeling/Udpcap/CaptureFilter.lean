import Udpcap.HostAddress

/-!
# The capture filter

The text that the socket compiles for a device, and what it means to the driver.

## Main definitions

* `createFilterString` — the text.
* `filterExpr` — the expression it denotes.

## Main results

* `parse_createFilterString` — **the text is well formed.**
* `accepts_createFilterString` — **the frames that pass it.**
-/

namespace Udpcap

open Decimal PcapFilter

/-- The six bytes of a hardware address. -/
structure MacAddress where
  bytes : List UInt8
  length_eq : bytes.length = 6
  deriving DecidableEq

/-- The bytes as numbers. -/
def MacAddress.values (mac : MacAddress) : List ℕ := mac.bytes.map UInt8.toNat

/-- `"%02hhx:%02hhx:%02hhx:%02hhx:%02hhx:%02hhx"` -/
def MacAddress.toText (mac : MacAddress) : List Char := hexPairs mac.values

/-- The loop over the multicast groups: ` or ` stands in front of all but the first. -/
def groupsText : List HostAddress → List Char
  | [] => []
  | g :: groups => "dst ".toList ++ g.toString ++
      groups.flatMap fun g => " or ".toList ++ "dst ".toList ++ g.toString

/-- `createFilterString`; an empty text stands for a device without a hardware address. -/
def createFilterString (macString : List Char) (isLoopback : Bool) (boundAddress : HostAddress)
    (boundPort : UInt16) (multicastGroups : List HostAddress)
    (multicastLoopbackEnabled : Bool) : List Char :=
  (if !isLoopback && !macString.isEmpty then
    "not ether src ".toList ++ macString ++ " and ".toList else []) ++
  "ip and udp".toList ++
  " and (udp port ".toList ++ Nat.toDigits 10 boundPort.toNat ++
    " or (ip[6:2] & 0x3fff != 0))".toList ++
  " and (((not ip multicast) ".toList ++
  (if HostAddress.ne boundAddress .any && HostAddress.ne boundAddress .broadcast then
    "and (ip dst ".toList ++ boundAddress.toString ++ ")".toList else []) ++
  ")".toList ++
  (if !multicastGroups.isEmpty && (!isLoopback || multicastLoopbackEnabled) then
    " or (ip multicast and (".toList ++ groupsText multicastGroups ++ "))".toList else []) ++
  ")".toList

/-- The text depends on the loopback flag exactly for a loopback device of a socket that has
joined a group. -/
theorem createFilterString_enabled_eq_iff (macString : List Char) (isLoopback : Bool)
    (boundAddress : HostAddress) (boundPort : UInt16) (multicastGroups : List HostAddress) :
    createFilterString macString isLoopback boundAddress boundPort multicastGroups true =
        createFilterString macString isLoopback boundAddress boundPort multicastGroups false ↔
      ¬(isLoopback = true ∧ multicastGroups ≠ []) := by
  cases isLoopback with
  | false => exact iff_of_true rfl (by simp)
  | true =>
    cases multicastGroups with
    | nil => exact iff_of_true rfl (by simp)
    | cons g groups =>
      refine iff_of_false ?_ (by simp)
      intro h
      have hpart := List.append_cancel_left (List.append_cancel_right h)
      cases hpart

/-! ### Words -/

/-- Every character of a keyword is one of these. -/
def keywordChars : List Char := "abcdehilmnoprstu&!=".toList

theorem ofWord_eq_text {w : List Char} {c : Char} (hc : c ∈ w) (hk : c ∉ keywordChars) :
    Token.ofWord w = .text w := by
  have hne : ∀ k : List Char, k ⊆ keywordChars → w ≠ k := fun k hsub hw => hk (hsub (hw ▸ hc))
  unfold Token.ofWord
  iterate 12 rw [if_neg (hne _ (by decide))]

theorem not_mem_keywordChars_of_isDigit {c : Char} (h : c.isDigit = true) : c ∉ keywordChars := by
  intro hc
  have hall : keywordChars.all (fun d => !d.isDigit) = true := by decide
  have hnot := List.all_eq_true.mp hall c hc
  rw [h] at hnot
  cases hnot

theorem ofWord_toDigits (n : ℕ) : Token.ofWord (Nat.toDigits 10 n) = .text (Nat.toDigits 10 n) := by
  cases h : Nat.toDigits 10 n with
  | nil => simp at h
  | cons c w =>
    have hc : c ∈ Nat.toDigits 10 n := by
      rw [h]
      exact List.mem_cons_self
    exact ofWord_eq_text List.mem_cons_self (not_mem_keywordChars_of_isDigit (isDigit_toDigits hc))

theorem ofWord_toText (mac : MacAddress) : Token.ofWord mac.toText = .text mac.toText := by
  have hc : ':' ∈ mac.toText := by
    obtain ⟨bytes, hlen⟩ := mac
    match bytes, hlen with
    | a :: b :: l, _ => simp [MacAddress.toText, MacAddress.values, hexPairs]
  exact ofWord_eq_text hc (by decide)

theorem ofWord_inetNtop (n : UInt32) : Token.ofWord (inetNtop n) = .text (inetNtop n) := by
  have hc : '.' ∈ inetNtop n := by simp [inetNtop, octets, dotted]
  exact ofWord_eq_text hc (by decide)

/-! ### The words of the text -/

theorem isWordChar_toDigits {n : ℕ} : ∀ c ∈ Nat.toDigits 10 n, isWordChar c = true :=
  fun _ hc => isWordChar_of_isDigit (isDigit_toDigits hc)

theorem isWordChar_inetNtop {n : UInt32} : ∀ c ∈ inetNtop n, isWordChar c = true :=
  isWordChar_dotted

theorem inetNtop_ne_nil (n : UInt32) : inetNtop n ≠ [] := by
  simp [inetNtop, octets, dotted]

/-- The words of the groups behind the first one. -/
def moreGroupTokens (groups : List HostAddress) : List Token :=
  groups.flatMap fun g => [.or, .dst, .text (inetNtop g.ipv4)]

/-- An address, followed by further groups and a closing parenthesis. -/
theorem tokens_groups (n : UInt32) (groups : List HostAddress)
    (hvalid : ∀ g ∈ groups, g.valid = true) (rest : List Char) :
    tokens (inetNtop n ++ ((groups.flatMap fun g =>
        " or ".toList ++ "dst ".toList ++ g.toString) ++ ')' :: rest)) =
      .text (inetNtop n) :: (moreGroupTokens groups ++ .rpar :: tokens rest) := by
  induction groups generalizing n with
  | nil =>
    rw [List.flatMap_nil, List.nil_append, tokens_word_rpar isWordChar_inetNtop (inetNtop_ne_nil n),
      ofWord_inetNtop]
    rfl
  | cons g groups ih =>
    have hg : g.toString = inetNtop g.ipv4 := if_pos (hvalid g List.mem_cons_self)
    have htail := ih g.ipv4 fun g' hg' => hvalid g' (List.mem_cons_of_mem g hg')
    rw [List.flatMap_cons, hg]
    simp only [List.append_assoc] at htail ⊢
    change tokens (inetNtop n ++ ' ' :: ("or dst ".toList ++ (inetNtop g.ipv4 ++ _))) = _
    rw [tokens_word_space isWordChar_inetNtop (inetNtop_ne_nil n), ofWord_inetNtop]
    change .text (inetNtop n) :: .or :: .dst :: tokens (inetNtop g.ipv4 ++ _) = _
    rw [htail]
    rfl

/-- The bound address, when the filter restricts unicast traffic to it. -/
def filteredAddress (a : HostAddress) : Option HostAddress :=
  if HostAddress.ne a .any && HostAddress.ne a .broadcast then some a else none

/-- The groups whose traffic the filter lets pass. -/
def filteredGroups (isLoopback : Bool) (groups : List HostAddress) (loopbackEnabled : Bool) :
    List HostAddress :=
  if !isLoopback || loopbackEnabled then groups else []

/-- The hardware address whose traffic the filter keeps out. -/
def filteredMac (isLoopback : Bool) (mac : Option MacAddress) : Option MacAddress :=
  if isLoopback then none else mac

/-- The words of the group part, which is empty when the device does not get
multicast traffic. -/
def groupTokens : List HostAddress → List Token
  | [] => []
  | g :: groups => [.or, .lpar, .ip, .multicast, .and, .lpar, .dst, .text (inetNtop g.ipv4)] ++
      moreGroupTokens groups ++ [.rpar, .rpar]

/-- The words of the address part. -/
def addressTokens : Option HostAddress → List Token
  | none => []
  | some a => [.and, .lpar, .ip, .dst, .text (inetNtop a.ipv4), .rpar]

/-- The words of the hardware address part. -/
def macTokens : Option MacAddress → List Token
  | none => []
  | some mac => [.not, .ether, .src, .text mac.toText, .and]

/-- The words between the hardware address and the bound address. -/
def portTokens (port : UInt16) : List Token :=
  [.ip, .and, .udp, .and, .lpar, .udp, .port, .text (Nat.toDigits 10 port.toNat), .or, .lpar, .ip,
    .lbrack, .text "6:2".toList, .rbrack, .amp, .text "0x3fff".toList, .ne, .text "0".toList, .rpar,
    .rpar, .and, .lpar, .lpar, .lpar, .not, .ip, .multicast, .rpar]

theorem tokens_group_part (isLoopback : Bool) {groups : List HostAddress}
    (hvalid : ∀ g ∈ groups, g.valid = true) (loopbackEnabled : Bool) (rest : List Char) :
    tokens ((if !groups.isEmpty && (!isLoopback || loopbackEnabled) then
        " or (ip multicast and (".toList ++ (groupsText groups ++ "))".toList) else []) ++
        (")".toList ++ rest)) =
      groupTokens (filteredGroups isLoopback groups loopbackEnabled) ++ .rpar :: tokens rest := by
  unfold filteredGroups
  cases !isLoopback || loopbackEnabled with
  | false =>
    rw [Bool.and_false]
    rfl
  | true =>
    cases groups with
    | nil => rfl
    | cons g groups =>
      have hg : g.toString = inetNtop g.ipv4 := if_pos (hvalid g List.mem_cons_self)
      have htail := tokens_groups g.ipv4 groups
        (fun g' hg' => hvalid g' (List.mem_cons_of_mem g hg')) (')' :: ')' :: rest)
      have hpar : "))".toList ++ (")".toList ++ rest) = ')' :: ')' :: ')' :: rest := rfl
      rw [List.isEmpty_cons, Bool.not_false, Bool.and_self, if_pos rfl, if_pos rfl, groupsText, hg]
      simp only [List.append_assoc] at htail ⊢
      rw [hpar, groupTokens]
      change [.or, .lpar, .ip, .multicast, .and, .lpar, .dst] ++ tokens (inetNtop g.ipv4 ++ _) = _
      rw [htail]
      simp only [List.cons_append, List.append_assoc, List.nil_append]
      rfl

theorem tokens_address_part {a : HostAddress} (hvalid : a.valid = true) (rest : List Char) :
    tokens ((if HostAddress.ne a .any && HostAddress.ne a .broadcast then
        "and (ip dst ".toList ++ (a.toString ++ ")".toList) else []) ++ (")".toList ++ rest)) =
      addressTokens (filteredAddress a) ++ .rpar :: tokens rest := by
  unfold filteredAddress
  cases HostAddress.ne a .any && HostAddress.ne a .broadcast with
  | false => rfl
  | true =>
    have ha : a.toString = inetNtop a.ipv4 := if_pos hvalid
    have hword := tokens_word_rpar (isWordChar_inetNtop (n := a.ipv4)) (inetNtop_ne_nil _)
      (')' :: rest)
    rw [ofWord_inetNtop] at hword
    rw [if_pos rfl, if_pos rfl, ha, addressTokens]
    simp only [List.append_assoc]
    generalize inetNtop a.ipv4 = w at hword ⊢
    change [.and, .lpar, .ip, .dst] ++ tokens (w ++ ')' :: ')' :: rest) = _
    rw [hword]
    rfl

theorem tokens_port_part (port : UInt16) (rest : List Char) :
    tokens ("ip and udp".toList ++ (" and (udp port ".toList ++ (Nat.toDigits 10 port.toNat ++
        (" or (ip[6:2] & 0x3fff != 0))".toList ++
          (" and (((not ip multicast) ".toList ++ rest))))) =
      portTokens port ++ tokens rest := by
  have hword := fun rest => tokens_word_space (isWordChar_toDigits (n := port.toNat)) (by simp) rest
  rw [ofWord_toDigits] at hword
  rw [portTokens]
  generalize Nat.toDigits 10 port.toNat = w at hword ⊢
  change [.ip, .and, .udp, .and, .lpar, .udp, .port] ++ tokens (w ++ ' ' :: _) = _
  rw [hword]
  rfl

/-- What `getMac` returns. -/
def macText : Option MacAddress → List Char
  | some mac => mac.toText
  | none => []

theorem toText_ne_nil (mac : MacAddress) : mac.toText ≠ [] := by
  obtain ⟨bytes, hlen⟩ := mac
  match bytes, hlen with
  | a :: b :: l, _ => simp [MacAddress.toText, MacAddress.values, hexPairs]

theorem tokens_mac_part (isLoopback : Bool) (mac : Option MacAddress) (rest : List Char) :
    tokens ((if !isLoopback && !(macText mac).isEmpty then
        "not ether src ".toList ++ (macText mac ++ " and ".toList) else []) ++ rest) =
      macTokens (filteredMac isLoopback mac) ++ tokens rest := by
  cases isLoopback with
  | true => rfl
  | false =>
    cases mac with
    | none => rfl
    | some mac =>
      have hlt : ∀ n ∈ mac.values, n < 256 := by
        intro n hn
        obtain ⟨b, -, rfl⟩ := List.mem_map.mp hn
        exact b.toNat_lt
      have hword := tokens_word_space (isWordChar_hexPairs hlt) (toText_ne_nil mac)
        ("and ".toList ++ rest)
      have hne : (macText (some mac)).isEmpty = false := by
        rw [macText, List.isEmpty_eq_false_iff]
        exact toText_ne_nil mac
      change tokens (mac.toText ++ ' ' :: _) = Token.ofWord mac.toText :: _ at hword
      rw [ofWord_toText] at hword
      rw [hne, Bool.not_false, Bool.and_self, if_pos rfl, macText, filteredMac, if_neg (by decide),
        macTokens]
      generalize mac.toText = w at hword ⊢
      simp only [List.append_assoc]
      change [.not, .ether, .src] ++ tokens (w ++ ' ' :: ("and ".toList ++ rest)) = _
      rw [hword]
      rfl

/-- The words of the filter text. -/
theorem tokens_createFilterString (mac : Option MacAddress) (isLoopback : Bool)
    {boundAddress : HostAddress} (haddr : boundAddress.valid = true) (boundPort : UInt16)
    {groups : List HostAddress} (hgroups : ∀ g ∈ groups, g.valid = true)
    (loopbackEnabled : Bool) :
    tokens (createFilterString (macText mac) isLoopback boundAddress boundPort groups
        loopbackEnabled) =
      macTokens (filteredMac isLoopback mac) ++ (portTokens boundPort ++
        (addressTokens (filteredAddress boundAddress) ++ .rpar ::
          (groupTokens (filteredGroups isLoopback groups loopbackEnabled) ++ [.rpar]))) := by
  have hgroup := tokens_group_part isLoopback hgroups loopbackEnabled []
  rw [List.append_nil] at hgroup
  unfold createFilterString
  simp only [List.append_assoc]
  rw [tokens_mac_part, tokens_port_part, tokens_address_part haddr, hgroup]
  rfl

/-! ### The primitives of the text -/

def macLexemes : Option MacAddress → List Lexeme
  | none => []
  | some mac => [.not, .prim (.etherSrc mac.values), .conn .and]

def portLexemes (port : UInt16) : List Lexeme :=
  [.prim .ip, .conn .and, .prim .udp, .conn .and, .lpar, .prim (.udpPort port.toNat), .conn .or,
    .lpar, .prim (.ipMasked 6 2 0x3fff 0), .rpar, .rpar, .conn .and, .lpar, .lpar, .lpar, .not,
    .prim .ipMulticast, .rpar]

def addressLexemes : Option HostAddress → List Lexeme
  | none => []
  | some a => [.conn .and, .lpar, .prim (.ipDst (octets a.ipv4)), .rpar]

def moreGroupLexemes (groups : List HostAddress) : List Lexeme :=
  groups.flatMap fun g => [.conn .or, .prim (.dst (octets g.ipv4))]

def groupLexemes : List HostAddress → List Lexeme
  | [] => []
  | g :: groups => [.conn .or, .lpar, .prim .ipMulticast, .conn .and, .lpar,
      .prim (.dst (octets g.ipv4))] ++ moreGroupLexemes groups ++ [.rpar, .rpar]

theorem readAddress_inetNtop (n : UInt32) : readAddress (inetNtop n) = some (octets n) :=
  readAddress_dotted (length_octets n) (octets_lt n)

theorem lexemes_mac (mac : Option MacAddress) (ts : List Token) :
    lexemes (macTokens mac ++ ts) = (lexemes ts).map (macLexemes mac ++ ·) := by
  cases mac with
  | none => simp [macTokens, macLexemes]
  | some mac =>
    have hlt : ∀ n ∈ mac.values, n < 256 := by
      intro n hn
      obtain ⟨b, -, rfl⟩ := List.mem_map.mp hn
      exact b.toNat_lt
    have hread : readMac mac.toText = some mac.values :=
      readMac_hexPairs (by simp [MacAddress.values, mac.length_eq]) hlt
    rw [macTokens]
    simp only [List.cons_append, List.nil_append, lexemes, hread, Option.bind_some]
    cases lexemes ts <;> rfl

theorem lexemes_port (port : UInt16) (ts : List Token) :
    lexemes (portTokens port ++ ts) = (lexemes ts).map (portLexemes port ++ ·) := by
  have hnum := readNumber_toDigits port.toNat
  rw [portTokens]
  generalize Nat.toDigits 10 port.toNat = w at hnum ⊢
  have hrange : readRange "6:2".toList = some (6, 2) := by decide
  have hmask : readNumber "0x3fff".toList = some 0x3fff := by decide
  have hzero : readNumber "0".toList = some 0 := by decide
  simp only [List.cons_append, List.nil_append, lexemes, hnum, hrange, hmask, hzero,
    Option.bind_some]
  cases lexemes ts <;> rfl

theorem lexemes_address (a : Option HostAddress) (ts : List Token) :
    lexemes (addressTokens a ++ ts) = (lexemes ts).map (addressLexemes a ++ ·) := by
  cases a with
  | none => simp [addressTokens, addressLexemes]
  | some a =>
    simp only [addressTokens, List.cons_append, List.nil_append, lexemes, readAddress_inetNtop,
      Option.bind_some]
    cases lexemes ts <;> rfl

theorem lexemes_moreGroups (groups : List HostAddress) (ts : List Token) :
    lexemes (moreGroupTokens groups ++ ts) = (lexemes ts).map (moreGroupLexemes groups ++ ·) := by
  induction groups with
  | nil => simp [moreGroupTokens, moreGroupLexemes]
  | cons g groups ih =>
    change lexemes (.or :: .dst :: .text (inetNtop g.ipv4) :: (moreGroupTokens groups ++ ts)) = _
    simp only [lexemes, readAddress_inetNtop, Option.bind_some, ih]
    cases lexemes ts <;> rfl

theorem lexemes_groups (groups : List HostAddress) (ts : List Token) :
    lexemes (groupTokens groups ++ ts) = (lexemes ts).map (groupLexemes groups ++ ·) := by
  cases groups with
  | nil => simp [groupTokens, groupLexemes]
  | cons g groups =>
    simp only [groupTokens, List.cons_append, List.nil_append, List.append_assoc, lexemes,
      readAddress_inetNtop, Option.bind_some, lexemes_moreGroups]
    cases lexemes ts <;> simp [groupLexemes]

/-! ### The expression of the text -/

/-- The part of the filter that keeps out what the device itself sends. -/
def macExpr (mac : Option MacAddress) : Expr :=
  match mac with
  | none => .prim .ip
  | some mac => .bin .and (.not (.prim (.etherSrc mac.values))) (.prim .ip)

/-- The part of the filter about unicast traffic. -/
def addressExpr (a : Option HostAddress) : Expr :=
  match a with
  | none => .not (.prim .ipMulticast)
  | some a => .bin .and (.not (.prim .ipMulticast)) (.prim (.ipDst (octets a.ipv4)))

/-- The destinations of the groups. -/
def groupsExpr (g : HostAddress) (groups : List HostAddress) : Expr :=
  groups.foldl (fun e g => .bin .or e (.prim (.dst (octets g.ipv4)))) (.prim (.dst (octets g.ipv4)))

/-- The part of the filter about destinations. -/
def destinationExpr (a : Option HostAddress) (groups : List HostAddress) : Expr :=
  match groups with
  | [] => addressExpr a
  | g :: groups =>
    .bin .or (addressExpr a) (.bin .and (.prim .ipMulticast) (groupsExpr g groups))

/-- The expression of the whole filter. -/
def filterExpr (mac : Option MacAddress) (port : UInt16) (a : Option HostAddress)
    (groups : List HostAddress) : Expr :=
  .bin .and
    (.bin .and (.bin .and (macExpr mac) (.prim .udp))
      (.bin .or (.prim (.udpPort port.toNat)) (.prim (.ipMasked 6 2 0x3fff 0))))
    (destinationExpr a groups)

/-- Reading further groups extends the expression in front of them. -/
theorem run_moreGroups (st : List Pending) (e : Expr) (groups : List HostAddress)
    (ls : List Lexeme) :
    Foundation.run shift (.complete st e) (moreGroupLexemes groups ++ ls) =
      Foundation.run shift (.complete st
        (groups.foldl (fun e g => .bin .or e (.prim (.dst (octets g.ipv4)))) e)) ls := by
  induction groups generalizing e with
  | nil => rfl
  | cons g groups ih => exact ih _

theorem run_filter (mac : Option MacAddress) (port : UInt16) (a : Option HostAddress)
    (groups : List HostAddress) :
    Foundation.run shift (.expect [] .fresh) (macLexemes mac ++ (portLexemes port ++
        (addressLexemes a ++ .rpar :: (groupLexemes groups ++ [.rpar])))) =
      some (.complete [] (filterExpr mac port a groups)) := by
  -- what stands in front of the parenthesis that holds the destinations
  set base : Pending := ⟨some (.bin .and (.bin .and (macExpr mac) (.prim .udp))
    (.bin .or (.prim (.udpPort port.toNat)) (.prim (.ipMasked 6 2 0x3fff 0))), .and), 0⟩ with hbase
  have hhead : ∀ ls, Foundation.run shift (.expect [] .fresh)
      (macLexemes mac ++ (portLexemes port ++ ls)) =
        Foundation.run shift (.complete [.fresh, base] (.not (.prim .ipMulticast))) ls := by
    intro ls
    cases mac <;> rfl
  have haddress : ∀ ls, Foundation.run shift (.complete [.fresh, base] (.not (.prim .ipMulticast)))
      (addressLexemes a ++ .rpar :: ls) =
        Foundation.run shift (.complete [base] (addressExpr a)) ls := by
    intro ls
    cases a <;> rfl
  rw [hhead, haddress]
  cases groups with
  | nil => rfl
  | cons g groups =>
    have hmore := run_moreGroups
      [⟨some (.prim .ipMulticast, .and), 0⟩, ⟨some (addressExpr a, .or), 0⟩, base]
      (.prim (.dst (octets g.ipv4))) groups [.rpar, .rpar, .rpar]
    simp only [groupLexemes, List.cons_append, List.nil_append, List.append_assoc]
    exact hmore

/-- **The filter text is well formed.** -/
theorem parse_createFilterString (mac : Option MacAddress) (isLoopback : Bool)
    {boundAddress : HostAddress} (haddr : boundAddress.valid = true) (boundPort : UInt16)
    {groups : List HostAddress} (hgroups : ∀ g ∈ groups, g.valid = true)
    (loopbackEnabled : Bool) :
    parse (createFilterString (macText mac) isLoopback boundAddress boundPort groups
        loopbackEnabled) =
      some (filterExpr (filteredMac isLoopback mac) boundPort (filteredAddress boundAddress)
        (filteredGroups isLoopback groups loopbackEnabled)) := by
  have hlex : lexemes [Token.rpar] = some [.rpar] := rfl
  unfold parse parseTokens
  rw [tokens_createFilterString mac isLoopback haddr boundPort hgroups loopbackEnabled, lexemes_mac,
    lexemes_port, lexemes_address, lexemes, lexemes_groups, hlex]
  simp only [Option.map_some, Option.bind_some]
  rw [run_filter]
  rfl

/-! ### The meaning of the text -/

/-- A frame that carries UDP over IPv4, a fragment or a packet with the port, which
is either unicast to one of the addresses or multicast to one of the groups. -/
def Wanted (port : UInt16) (a : Option HostAddress) (groups : List HostAddress) (v : IpView) :
    Prop :=
  v.protocol = 17 ∧ (v.hasUdpPort port.toNat = true ∨ v.isFragment = true) ∧
    ((v.isMulticast = false ∧ ∀ b, a = some b → v.destination = octets b.ipv4) ∨
      (v.isMulticast = true ∧ ∃ g ∈ groups, v.destination = octets g.ipv4))

theorem eval_groupsExpr (g : HostAddress) (groups : List HostAddress) (src : Option (List ℕ))
    (v : IpView) :
    (groupsExpr g groups).eval ⟨src, .ip v⟩ = true ↔
      ∃ g' ∈ g :: groups, v.destination = octets g'.ipv4 := by
  have hfold : ∀ (e : Expr) (gs : List HostAddress),
      (gs.foldl (fun e g => .bin .or e (.prim (.dst (octets g.ipv4)))) e).eval ⟨src, .ip v⟩ = true ↔
        e.eval ⟨src, .ip v⟩ = true ∨ ∃ g' ∈ gs, v.destination = octets g'.ipv4 := by
    intro e gs
    induction gs generalizing e with
    | nil => simp
    | cons g' gs ih =>
      rw [List.foldl_cons, ih, Expr.eval_or, Bool.or_eq_true, or_assoc]
      simp [Prim.eval]
  rw [groupsExpr, hfold]
  simp [Prim.eval]

theorem eval_destinationExpr (a : Option HostAddress) (groups : List HostAddress)
    (src : Option (List ℕ)) (v : IpView) :
    (destinationExpr a groups).eval ⟨src, .ip v⟩ = true ↔
      (v.isMulticast = false ∧ ∀ b, a = some b → v.destination = octets b.ipv4) ∨
        (v.isMulticast = true ∧ ∃ g ∈ groups, v.destination = octets g.ipv4) := by
  have haddress : (addressExpr a).eval ⟨src, .ip v⟩ = true ↔
      v.isMulticast = false ∧ ∀ b, a = some b → v.destination = octets b.ipv4 := by
    cases a with
    | none => simp [addressExpr, Prim.eval]
    | some a => simp [addressExpr, Prim.eval]
  cases groups with
  | nil => simp [destinationExpr, haddress]
  | cons g groups =>
    rw [destinationExpr, Expr.eval_or, Bool.or_eq_true, haddress, Expr.eval_and, Bool.and_eq_true,
      eval_groupsExpr]
    rfl

/-- **The frames that pass the filter** do not carry the hardware address of the
device, and are wanted. -/
theorem accepts_createFilterString (mac : Option MacAddress) (isLoopback : Bool)
    {boundAddress : HostAddress} (haddr : boundAddress.valid = true) (boundPort : UInt16)
    {groups : List HostAddress} (hgroups : ∀ g ∈ groups, g.valid = true)
    (loopbackEnabled : Bool) (v : PacketView) :
    accepts (createFilterString (macText mac) isLoopback boundAddress boundPort groups
        loopbackEnabled) v = true ↔
      (∀ m, filteredMac isLoopback mac = some m → v.etherSrc ≠ some m.values) ∧
        ∃ ip, v.net = .ip ip ∧ Wanted boundPort (filteredAddress boundAddress)
          (filteredGroups isLoopback groups loopbackEnabled) ip := by
  rw [accepts, parse_createFilterString mac isLoopback haddr boundPort hgroups loopbackEnabled,
    Option.any_some]
  generalize filteredMac isLoopback mac = mac'
  generalize filteredAddress boundAddress = a
  generalize filteredGroups isLoopback groups loopbackEnabled = gs
  obtain ⟨src, net⟩ := v
  have hmac : (macExpr mac').eval ⟨src, net⟩ = true ↔
      (∀ m, mac' = some m → src ≠ some m.values) ∧ ∃ ip, net = .ip ip := by
    cases mac' <;> cases net <;> simp [macExpr, Prim.eval]
  rw [filterExpr, Expr.eval_and, Expr.eval_and, Expr.eval_and, Expr.eval_or]
  simp only [Bool.and_eq_true, Bool.or_eq_true, hmac]
  constructor
  · rintro ⟨⟨⟨⟨hsrc, ip, rfl⟩, hudp⟩, hport⟩, hdst⟩
    refine ⟨hsrc, ip, rfl, ?_, ?_, (eval_destinationExpr a gs src ip).mp hdst⟩
    · simpa [Prim.eval] using hudp
    · simpa [Prim.eval, IpView.isFragment] using hport
  · rintro ⟨hsrc, ip, hip, hudp, hport, hdst⟩
    subst hip
    refine ⟨⟨⟨⟨hsrc, ip, rfl⟩, ?_⟩, ?_⟩, (eval_destinationExpr a gs src ip).mpr hdst⟩
    · simpa [Prim.eval] using hudp
    · simpa [Prim.eval, IpView.isFragment] using hport

end Udpcap
