import Mathlib.Data.List.Basic
import Mathlib.Data.Nat.Digits.Defs
import Udpcap.Foundation.Decimal
import Udpcap.Foundation.Transition

/-!
# The pcap filter language

The part of the pcap filter language that is built from the primitives `ip`,
`udp`, `udp port`, `ip multicast`, `ip dst`, `dst`, `ether src` and a masked
header word: its words, its grammar and its meaning.  A text is read in three
passes, each of which goes through its input once from the left: words
(`tokens`), primitives (`lexemes`), and the expression (`shift`).

In the grammar `not` binds tightest, and `and` and `or` have the same precedence
and associate to the left, so `a or b and c` is `(a or b) and c`.

## Main definitions

* `Expr`, `Expr.eval` — filter expressions and the packets they accept.
* `parse` — the expression a text denotes, if it is well formed.
* `accepts text v` — the filter compiled from `text` lets the packet `v` pass.

## Main results

* `tokens_word_space`, `tokens_word_rpar` — the reading of words may be stopped
  behind a word and resumed, which is how a text printed piece by piece is read.
* `readNumber_toDigits`, `readAddress_dotted`, `readMac_hexPairs` — printed
  numbers, addresses and hardware addresses are read back.
-/

namespace PcapFilter

open Decimal

/-! ### Packets as a filter sees them -/

/-- An IPv4 packet: its header, byte by byte, and the ports that stand behind it. -/
structure IpView where
  /-- The bytes of the header. -/
  header : List ℕ
  /-- A header has at least twenty bytes. -/
  complete : 20 ≤ header.length
  /-- The first two 16-bit words behind the header: the source and destination
  port of a UDP packet that is not a later fragment. -/
  ports : Option (ℕ × ℕ)
  deriving DecidableEq

/-- What a frame carries. -/
inductive Net
  | ip (v : IpView)
  | ip6 (isUdp : Bool) (ports : Option (ℕ × ℕ))
  | arp (target : List ℕ)
  | other
  deriving DecidableEq

/-- A frame: the source of its Ethernet header, if it has one, and what it carries. -/
structure PacketView where
  etherSrc : Option (List ℕ)
  net : Net
  deriving DecidableEq

namespace IpView

/-- The `size` bytes at `off` as a big-endian number. -/
def word (v : IpView) (off size : ℕ) : ℕ :=
  ((v.header.drop off).take size).foldl (fun n b => 256 * n + b) 0

/-- The protocol number. -/
def protocol (v : IpView) : ℕ := v.word 9 1

/-- The octets of the destination address. -/
def destination (v : IpView) : List ℕ := (v.header.drop 16).take 4

/-- `ip multicast` tests the first octet of the destination. -/
def isMulticast (v : IpView) : Bool := decide (224 ≤ v.word 16 1)

/-- More fragments follow, or the offset is not zero. -/
def isFragment (v : IpView) : Bool := v.word 6 2 &&& 0x3fff != 0

/-- The flag that more fragments follow. -/
def moreFragments (v : IpView) : Bool := v.word 6 2 &&& 0x2000 != 0

/-- The offset of a fragment, in units of eight bytes. -/
def fragmentOffset (v : IpView) : ℕ := v.word 6 2 &&& 0x1fff

theorem isFragment_iff (v : IpView) :
    v.isFragment = true ↔ v.moreFragments = true ∨ v.fragmentOffset ≠ 0 := by
  have hmask : v.word 6 2 &&& 0x3fff = v.word 6 2 &&& 0x2000 ||| v.word 6 2 &&& 0x1fff := by
    rw [← Nat.and_or_distrib_left]
    rfl
  unfold isFragment moreFragments fragmentOffset
  rw [bne_iff_ne, bne_iff_ne, hmask, ne_eq, Nat.or_eq_zero_iff, not_and_or]

/-- The packet is the start of a UDP datagram that has the port `n`. -/
def hasUdpPort (v : IpView) (n : ℕ) : Bool :=
  v.protocol == 17 && v.word 6 2 &&& 0x1fff == 0 &&
    v.ports.any fun p => p.1 == n || p.2 == n

end IpView

/-! ### Expressions -/

/-- The primitives. -/
inductive Prim
  | ip
  | udp
  | udpPort (n : ℕ)
  | ipMulticast
  | ipDst (addr : List ℕ)
  | dst (addr : List ℕ)
  | etherSrc (mac : List ℕ)
  /-- `ip[off:size] & mask != val`. -/
  | ipMasked (off size mask val : ℕ)
  deriving DecidableEq, Repr

/-- The two connectives. -/
inductive Conn
  | and
  | or
  deriving DecidableEq, Repr

/-- Filter expressions. -/
inductive Expr
  | prim (p : Prim)
  | not (e : Expr)
  | bin (op : Conn) (l r : Expr)
  deriving DecidableEq, Repr

/-- The frames a primitive accepts. -/
def Prim.eval : Prim → PacketView → Bool
  | .ip, ⟨_, .ip _⟩ => true
  | .udp, ⟨_, .ip v⟩ => v.protocol == 17
  | .udp, ⟨_, .ip6 isUdp _⟩ => isUdp
  | .udpPort n, ⟨_, .ip v⟩ => v.hasUdpPort n
  | .udpPort n, ⟨_, .ip6 isUdp ports⟩ => isUdp && ports.any fun p => p.1 == n || p.2 == n
  | .ipMulticast, ⟨_, .ip v⟩ => v.isMulticast
  | .ipDst a, ⟨_, .ip v⟩ => v.destination == a
  | .dst a, ⟨_, .ip v⟩ => v.destination == a
  | .dst a, ⟨_, .arp t⟩ => t == a
  | .etherSrc m, ⟨src, _⟩ => src == some m
  | .ipMasked off size mask val, ⟨_, .ip v⟩ => v.word off size &&& mask != val
  | _, _ => false

def Conn.eval : Conn → Bool → Bool → Bool
  | .and => (· && ·)
  | .or => (· || ·)

/-- The frames an expression accepts. -/
def Expr.eval : Expr → PacketView → Bool
  | .prim p, v => p.eval v
  | .not e, v => !e.eval v
  | .bin op l r, v => op.eval (l.eval v) (r.eval v)

@[simp] theorem Expr.eval_prim (p : Prim) (v : PacketView) : (Expr.prim p).eval v = p.eval v := rfl

@[simp] theorem Expr.eval_not (e : Expr) (v : PacketView) : (Expr.not e).eval v = !e.eval v := rfl

@[simp] theorem Expr.eval_and (l r : Expr) (v : PacketView) :
    (Expr.bin .and l r).eval v = (l.eval v && r.eval v) := rfl

@[simp] theorem Expr.eval_or (l r : Expr) (v : PacketView) :
    (Expr.bin .or l r).eval v = (l.eval v || r.eval v) := rfl

/-! ### Words -/

/-- The words of the language. -/
inductive Token
  | lpar
  | rpar
  | lbrack
  | rbrack
  | amp
  | ne
  | not
  | and
  | or
  | ether
  | src
  | dst
  | ip
  | udp
  | port
  | multicast
  /-- A number, an address or anything else. -/
  | text (w : List Char)
  deriving DecidableEq, Repr

/-- The keyword a run of characters stands for. -/
def Token.ofWord (w : List Char) : Token :=
  if w = "and".toList then .and
  else if w = "or".toList then .or
  else if w = "not".toList then .not
  else if w = "ip".toList then .ip
  else if w = "udp".toList then .udp
  else if w = "port".toList then .port
  else if w = "dst".toList then .dst
  else if w = "src".toList then .src
  else if w = "ether".toList then .ether
  else if w = "multicast".toList then .multicast
  else if w = "&".toList then .amp
  else if w = "!=".toList then .ne
  else .text w

/-- The brackets, which are words of their own. -/
def Token.ofBracket : Char → Option Token
  | '(' => some .lpar
  | ')' => some .rpar
  | '[' => some .lbrack
  | ']' => some .rbrack
  | _ => none

/-- A character that may stand inside a word. -/
def isWordChar (c : Char) : Bool := c != ' ' && (Token.ofBracket c).isNone

/-- The pending word, given by its characters in reverse, if there is one. -/
def flush (acc : List Char) : List Token :=
  if acc.isEmpty then [] else [Token.ofWord acc.reverse]

/-- The words of a text that continues the pending word `acc`: blanks separate
words, brackets are words, and a word is as long as possible. -/
def tokensFrom : List Char → List Char → List Token
  | acc, [] => flush acc
  | acc, c :: cs =>
    if c = ' ' then flush acc ++ tokensFrom [] cs
    else match Token.ofBracket c with
      | some t => flush acc ++ t :: tokensFrom [] cs
      | none => tokensFrom (c :: acc) cs

/-- The words of a text. -/
def tokens (cs : List Char) : List Token := tokensFrom [] cs

/-- Word characters only extend the pending word. -/
theorem tokensFrom_word {w : List Char} (hw : ∀ c ∈ w, isWordChar c = true) :
    ∀ (acc rest : List Char), tokensFrom acc (w ++ rest) = tokensFrom (w.reverse ++ acc) rest := by
  induction w with
  | nil => intro acc rest; rfl
  | cons c w ih =>
    intro acc rest
    have hc := hw c List.mem_cons_self
    simp only [isWordChar, Bool.and_eq_true, bne_iff_ne, Option.isNone_iff_eq_none] at hc
    rw [List.cons_append, tokensFrom, if_neg hc.1, hc.2]
    simp only
    rw [ih (fun d hd => hw d (List.mem_cons_of_mem c hd)), List.reverse_cons, List.append_assoc]
    rfl

/-- **A nonempty word followed by a blank** is one word. -/
theorem tokens_word_space {w : List Char} (hw : ∀ c ∈ w, isWordChar c = true) (hne : w ≠ [])
    (rest : List Char) : tokens (w ++ ' ' :: rest) = Token.ofWord w :: tokens rest := by
  rw [tokens, tokensFrom_word hw, List.append_nil, tokensFrom, if_pos rfl, flush]
  rw [if_neg (by simpa using hne), List.reverse_reverse]
  rfl

/-- **A nonempty word followed by a closing parenthesis** is one word. -/
theorem tokens_word_rpar {w : List Char} (hw : ∀ c ∈ w, isWordChar c = true) (hne : w ≠ [])
    (rest : List Char) : tokens (w ++ ')' :: rest) = Token.ofWord w :: .rpar :: tokens rest := by
  rw [tokens, tokensFrom_word hw, List.append_nil, tokensFrom, if_neg (by decide)]
  simp only [Token.ofBracket]
  rw [flush, if_neg (by simpa using hne), List.reverse_reverse]
  rfl

/-! ### Numbers and addresses -/

/-- The value of a hexadecimal digit. -/
def hexValue (c : Char) : Option ℕ :=
  if '0' ≤ c ∧ c ≤ '9' then some (c.toNat - '0'.toNat)
  else if 'a' ≤ c ∧ c ≤ 'f' then some (c.toNat - 'a'.toNat + 10)
  else none

/-- The value of a nonempty run of hexadecimal digits. -/
def readHex (w : List Char) : Option ℕ :=
  if w.isEmpty then none
  else w.foldl (fun n c => n.bind fun n => (hexValue c).map fun d => 16 * n + d) (some 0)

/-- The value of a nonempty run of decimal digits. -/
def readDecimal (w : List Char) : Option ℕ :=
  if w.isEmpty || !w.all Char.isDigit then none else some (Nat.ofDigitChars 10 w 0)

/-- A number, decimal or hexadecimal. -/
def readNumber : List Char → Option ℕ
  | '0' :: 'x' :: w => readHex w
  | w => readDecimal w

/-- An IPv4 address in dotted-quad notation. -/
def readAddress (w : List Char) : Option (List ℕ) :=
  ((w.splitOn '.').mapM readDecimal).filter fun a => a.length = 4 ∧ ∀ n ∈ a, n < 256

/-- A hardware address: six pairs of hexadecimal digits. -/
def readMac (w : List Char) : Option (List ℕ) :=
  ((w.splitOn ':').mapM readHex).filter fun m => m.length = 6 ∧ ∀ n ∈ m, n < 256

/-- The offset and the size of a header word. -/
def readRange (w : List Char) : Option (ℕ × ℕ) :=
  match (w.splitOn ':').mapM readDecimal with
  | some [off, size] => some (off, size)
  | _ => none

theorem isWordChar_of_isDigit {c : Char} (h : c.isDigit = true) : isWordChar c = true := by
  have hsp : c ≠ ' ' := by
    rintro rfl
    exact absurd h (by decide)
  have hbr : Token.ofBracket c = none := by
    unfold Token.ofBracket
    split <;> first | exact absurd h (by decide) | rfl
  simp [isWordChar, hsp, hbr]

@[simp] theorem readDecimal_toDigits (n : ℕ) : readDecimal (Nat.toDigits 10 n) = some n := by
  have hall : (Nat.toDigits 10 n).all Char.isDigit = true :=
    List.all_eq_true.mpr fun c hc => isDigit_toDigits hc
  have hne : (Nat.toDigits 10 n).isEmpty = false := by simp
  rw [readDecimal, hall, hne, Nat.ofDigitChars_ten_toDigits]
  rfl

/-- **A printed number is read back.** -/
@[simp] theorem readNumber_toDigits (n : ℕ) : readNumber (Nat.toDigits 10 n) = some n := by
  rw [readNumber.eq_2, readDecimal_toDigits]
  intro w hw
  -- a decimal number has no `x` in second place
  have hx : 'x' ∈ Nat.toDigits 10 n := by rw [hw]; simp
  exact absurd (isDigit_toDigits hx) (by decide)

/-- The dotted notation of a list of octets. -/
def dotted (a : List ℕ) : List Char := ['.'].intercalate (a.map (Nat.toDigits 10))

/-- Two hexadecimal digits. -/
def hexPair (n : ℕ) : List Char := [Nat.digitChar (n / 16), Nat.digitChar (n % 16)]

/-- The notation of a hardware address. -/
def hexPairs (m : List ℕ) : List Char := [':'].intercalate (m.map hexPair)

private theorem mapM_readDecimal (a : List ℕ) :
    (a.map (Nat.toDigits 10)).mapM readDecimal = some a := by
  induction a with
  | nil => rfl
  | cons n a ih => simp [ih]

/-- **A printed address is read back.** -/
theorem readAddress_dotted {a : List ℕ} (hlen : a.length = 4) (hlt : ∀ n ∈ a, n < 256) :
    readAddress (dotted a) = some a := by
  have hdot : ∀ w ∈ a.map (Nat.toDigits 10), '.' ∉ w := by
    intro w hw hc
    obtain ⟨n, -, rfl⟩ := List.mem_map.mp hw
    exact absurd (isDigit_toDigits hc) (by decide)
  have hne : a.map (Nat.toDigits 10) ≠ [] := by
    intro h
    rw [List.map_eq_nil_iff] at h
    simp [h] at hlen
  rw [readAddress, dotted, List.splitOn_intercalate '.' hdot hne, mapM_readDecimal,
    Option.filter_some, if_pos]
  simpa using ⟨hlen, hlt⟩

private theorem hexValue_digitChar : ∀ {d : ℕ}, d < 16 → hexValue (Nat.digitChar d) = some d := by
  decide

private theorem digitChar_chars : ∀ {d : ℕ}, d < 16 →
    Nat.digitChar d ≠ ':' ∧ isWordChar (Nat.digitChar d) = true := by
  decide

private theorem readHex_hexPair {n : ℕ} (h : n < 256) : readHex (hexPair n) = some n := by
  have h₁ := hexValue_digitChar (d := n / 16) (by omega)
  have h₂ := hexValue_digitChar (d := n % 16) (by omega)
  simp only [readHex, hexPair, List.isEmpty_cons, Bool.false_eq_true, if_false, List.foldl_cons,
    List.foldl_nil, Option.bind_some, h₁, h₂, Option.map_some]
  congr 1
  omega

theorem hexPair_chars {n : ℕ} (h : n < 256) {c : Char} (hc : c ∈ hexPair n) :
    c ≠ ':' ∧ isWordChar c = true := by
  simp only [hexPair, List.mem_cons, List.not_mem_nil, or_false] at hc
  rcases hc with rfl | rfl
  · exact digitChar_chars (by omega)
  · exact digitChar_chars (by omega)

private theorem mapM_readHex {m : List ℕ} (h : ∀ n ∈ m, n < 256) :
    (m.map hexPair).mapM readHex = some m := by
  induction m with
  | nil => rfl
  | cons n m ih =>
    have hn := readHex_hexPair (h n List.mem_cons_self)
    have hm := ih fun k hk => h k (List.mem_cons_of_mem n hk)
    simp [hn, hm]

/-- **A printed hardware address is read back.** -/
theorem readMac_hexPairs {m : List ℕ} (hlen : m.length = 6) (hlt : ∀ n ∈ m, n < 256) :
    readMac (hexPairs m) = some m := by
  have hcol : ∀ w ∈ m.map hexPair, ':' ∉ w := by
    intro w hw
    obtain ⟨n, hn, rfl⟩ := List.mem_map.mp hw
    exact fun hc => (hexPair_chars (hlt n hn) hc).1 rfl
  have hne : m.map hexPair ≠ [] := by
    intro h
    rw [List.map_eq_nil_iff] at h
    simp [h] at hlen
  rw [readMac, hexPairs, List.splitOn_intercalate ':' hcol hne, mapM_readHex hlt,
    Option.filter_some, if_pos]
  simpa using ⟨hlen, hlt⟩

private theorem of_mem_intercalate {x c : Char} {ls : List (List Char)}
    (h : c ∈ [x].intercalate ls) : c = x ∨ ∃ l ∈ ls, c ∈ l := by
  induction ls with
  | nil => simp at h
  | cons l ls ih =>
    by_cases hls : ls = []
    · subst hls
      rw [List.intercalate_singleton] at h
      exact Or.inr ⟨l, List.mem_cons_self, h⟩
    · rw [List.intercalate_cons_of_ne_nil hls, List.mem_append, List.mem_append,
        List.mem_singleton] at h
      rcases h with (h | h) | h
      · exact Or.inr ⟨l, List.mem_cons_self, h⟩
      · exact Or.inl h
      · rcases ih h with h | ⟨l', hl', hc⟩
        · exact Or.inl h
        · exact Or.inr ⟨l', List.mem_cons_of_mem l hl', hc⟩

theorem isWordChar_dotted {a : List ℕ} : ∀ c ∈ dotted a, isWordChar c = true := by
  intro c hc
  rcases of_mem_intercalate hc with rfl | ⟨w, hw, hcw⟩
  · decide
  · obtain ⟨n, -, rfl⟩ := List.mem_map.mp hw
    exact isWordChar_of_isDigit (isDigit_toDigits hcw)

theorem isWordChar_hexPairs {m : List ℕ} (h : ∀ n ∈ m, n < 256) :
    ∀ c ∈ hexPairs m, isWordChar c = true := by
  intro c hc
  rcases of_mem_intercalate hc with rfl | ⟨w, hw, hcw⟩
  · decide
  · obtain ⟨n, hn, rfl⟩ := List.mem_map.mp hw
    exact (hexPair_chars (h n hn) hcw).2

/-! ### Primitives -/

/-- The units of the grammar: a whole primitive is one of them. -/
inductive Lexeme
  | lpar
  | rpar
  | not
  | conn (op : Conn)
  | prim (p : Prim)
  deriving DecidableEq, Repr

/-- The primitives of a list of words, each as long as possible; `none` when a
word is out of place or a number or address is malformed. -/
def lexemes : List Token → Option (List Lexeme)
  | [] => some []
  | .lpar :: ts => (lexemes ts).map (.lpar :: ·)
  | .rpar :: ts => (lexemes ts).map (.rpar :: ·)
  | .not :: ts => (lexemes ts).map (.not :: ·)
  | .and :: ts => (lexemes ts).map (.conn .and :: ·)
  | .or :: ts => (lexemes ts).map (.conn .or :: ·)
  | .ether :: .src :: .text w :: ts =>
    (readMac w).bind fun m => (lexemes ts).map (.prim (.etherSrc m) :: ·)
  | .udp :: .port :: .text w :: ts =>
    (readNumber w).bind fun n => (lexemes ts).map (.prim (.udpPort n) :: ·)
  | .udp :: ts => (lexemes ts).map (.prim .udp :: ·)
  | .ip :: .multicast :: ts => (lexemes ts).map (.prim .ipMulticast :: ·)
  | .ip :: .dst :: .text w :: ts =>
    (readAddress w).bind fun a => (lexemes ts).map (.prim (.ipDst a) :: ·)
  | .ip :: .lbrack :: .text r :: .rbrack :: .amp :: .text m :: .ne :: .text v :: ts =>
    (readRange r).bind fun range => (readNumber m).bind fun mask => (readNumber v).bind fun val =>
      (lexemes ts).map (.prim (.ipMasked range.1 range.2 mask val) :: ·)
  | .ip :: ts => (lexemes ts).map (.prim .ip :: ·)
  | .dst :: .text w :: ts =>
    (readAddress w).bind fun a => (lexemes ts).map (.prim (.dst a) :: ·)
  | _ => none

/-! ### Expressions -/

/-- What stands in front of an operand since the innermost open parenthesis. -/
structure Pending where
  /-- The expression so far and the connective behind it. -/
  left : Option (Expr × Conn)
  /-- The number of `not`s in front of the operand. -/
  nots : ℕ
  deriving DecidableEq, Repr

/-- Nothing stands in front of the operand. -/
def Pending.fresh : Pending := ⟨none, 0⟩

/-- Put an operand behind what is pending: the `not`s apply to the operand alone,
and the connective to everything on its left. -/
def Pending.close (p : Pending) (e : Expr) : Expr :=
  let e := Expr.not^[p.nots] e
  match p.left with
  | none => e
  | some (l, op) => .bin op l e

/-- The state of the parser; the stack belongs to the open parentheses. -/
inductive Parser
  /-- An operand must follow. -/
  | expect (stack : List Pending) (cur : Pending)
  /-- An operand is complete. -/
  | complete (stack : List Pending) (e : Expr)
  deriving DecidableEq, Repr

/-- One step of the parser. -/
def shift : Parser → Lexeme → Option Parser
  | .expect st cur, .not => some (.expect st { cur with nots := cur.nots + 1 })
  | .expect st cur, .lpar => some (.expect (cur :: st) .fresh)
  | .expect st cur, .prim p => some (.complete st (cur.close (.prim p)))
  | .complete st e, .conn op => some (.expect st ⟨some (e, op), 0⟩)
  | .complete (cur :: st) e, .rpar => some (.complete st (cur.close e))
  | _, _ => none

/-- The expression that a completed parser holds. -/
def Parser.result : Parser → Option Expr
  | .complete [] e => some e
  | _ => none

/-- The expression a list of words denotes, if it is well formed. -/
def parseTokens (ts : List Token) : Option Expr :=
  (lexemes ts).bind fun ls => (Foundation.run shift (.expect [] .fresh) ls).bind Parser.result

/-- The expression a text denotes, if it is well formed. -/
def parse (cs : List Char) : Option Expr := parseTokens (tokens cs)

/-- The filter compiled from a text lets a frame pass; nothing passes a text that
does not compile. -/
def accepts (cs : List Char) (v : PacketView) : Bool := (parse cs).any fun e => e.eval v

/-! `not` binds tightest, and `and` and `or` associate to the left: -/

example : parse "not ip and udp or ip multicast".toList =
    some (.bin .or (.bin .and (.not (.prim .ip)) (.prim .udp)) (.prim .ipMulticast)) := by decide

end PcapFilter
