import Mathlib.Data.List.Basic
import QueryConsole.Text.Utf8

/-!
# Reading encoded texts

The bytes of a text are cut into its characters, one piece for each, so strict reading gives the
text back.

## Main results

- `Utf8.piecesFrom_encodeChar`: the bytes of a character are one piece, whatever follows them
- `Utf8.toNat_of_mem_encodeChar`: only a character of ASCII has a byte of ASCII
- `Utf8.decode?_bytesOf`: strict reading gives a text back
-/

namespace QueryConsole

namespace Utf8

variable {v : Nat} {rest : List UInt8}

/-! ## Single bytes -/

theorem toNat_ofNat {n : Nat} (h : n < 256) : (UInt8.ofNat n).toNat = n := by
  rw [UInt8.toNat_ofNat']
  exact Nat.mod_eq_of_lt h

/-- A byte that goes on with a character: the last one that is owed completes it. -/
theorem step_tail (p : Partial) (n : Nat) (hlow : p.low ≤ n % 64 + 128)
    (hhigh : n % 64 + 128 ≤ p.high) :
    step (some p) (UInt8.ofNat (n % 64 + 128)) =
      if p.owed = 1 then ([.char (Char.ofNat (p.bits * 64 + n % 64))], none)
      else ([], some ⟨p.bits * 64 + n % 64, p.read + 1, p.owed - 1, 0x80, 0xBF⟩) := by
  have hbyte : (UInt8.ofNat (n % 64 + 128)).toNat = n % 64 + 128 := toNat_ofNat (by omega)
  simp only [step, hbyte, if_pos (And.intro hlow hhigh), Nat.add_sub_cancel]

theorem step_ascii (h : v < 128) :
    step none (UInt8.ofNat v) = ([.char (Char.ofNat v)], none) := by
  have hbyte : (UInt8.ofNat v).toNat = v := toNat_ofNat (by omega)
  simp only [step, begin, hbyte, if_pos h]

theorem step_start {n : Nat} {p : Partial} (hlow : 128 ≤ n) (hhigh : n < 256)
    (h : Partial.start n = some p) : step none (UInt8.ofNat n) = ([], some p) := by
  have hbyte : (UInt8.ofNat n).toNat = n := toNat_ofNat hhigh
  simp only [step, begin, hbyte, if_neg (Nat.not_lt.2 hlow), h]

/-! ## First bytes -/

theorem start_two (hlow : 0x80 ≤ v) (hhigh : v ≤ 0x7FF) :
    Partial.start (v / 64 % 32 + 192) = some ⟨v / 64, 1, 1, 0x80, 0xBF⟩ := by
  have hrange : 0xC2 ≤ v / 64 % 32 + 192 ∧ v / 64 % 32 + 192 ≤ 0xDF := by omega
  have hfirst : v / 64 % 32 + 192 - 0xC0 = v / 64 := by omega
  rw [Partial.start, if_pos hrange, hfirst]

/-- The first byte of three, which says how the second one is bounded: no character has a shorter
form, and none is a surrogate. -/
theorem start_three (hlow : 0x800 ≤ v) (hhigh : v ≤ 0xFFFF) (hvalid : v < 0xD800 ∨ 0xDFFF < v) :
    ∃ low high, Partial.start (v / 4096 % 16 + 224) = some ⟨v / 4096, 1, 2, low, high⟩ ∧
      low ≤ v / 64 % 64 + 128 ∧ v / 64 % 64 + 128 ≤ high := by
  have hfirst : v / 4096 % 16 = v / 4096 := by omega
  have htwo : ¬(0xC2 ≤ v / 4096 + 224 ∧ v / 4096 + 224 ≤ 0xDF) := by omega
  rw [hfirst, Partial.start, if_neg htwo]
  -- 0 would lead to shorter forms, and 0xD to surrogates
  by_cases hzero : v / 4096 = 0
  · rw [hzero, if_pos rfl]
    exact ⟨_, _, rfl, by omega, by omega⟩
  by_cases hsurrogate : v / 4096 = 0xD
  · rw [hsurrogate, if_neg (by decide), if_pos rfl]
    exact ⟨_, _, rfl, by omega, by omega⟩
  rw [if_neg (by omega), if_neg (by omega), if_pos (by omega), Nat.add_sub_cancel]
  exact ⟨_, _, rfl, by omega, by omega⟩

theorem start_four (hlow : 0x10000 ≤ v) (hhigh : v < 0x110000) :
    ∃ low high, Partial.start (v / 262144 % 8 + 240) = some ⟨v / 262144, 1, 3, low, high⟩ ∧
      low ≤ v / 4096 % 64 + 128 ∧ v / 4096 % 64 + 128 ≤ high := by
  have hfirst : v / 262144 % 8 = v / 262144 := by omega
  rw [hfirst, Partial.start, if_neg (by omega), if_neg (by omega), if_neg (by omega),
    if_neg (by omega)]
  -- 0 would lead to shorter forms, and 4 beyond the last character
  by_cases hzero : v / 262144 = 0
  · rw [hzero, if_pos rfl]
    exact ⟨_, _, rfl, by omega, by omega⟩
  by_cases hlast : v / 262144 = 4
  · rw [hlast, if_neg (by decide), if_neg (by decide), if_pos rfl]
    exact ⟨_, _, rfl, by omega, by omega⟩
  rw [if_neg (by omega), if_pos (by omega), Nat.add_sub_cancel]
  exact ⟨_, _, rfl, by omega, by omega⟩

/-! ## Characters -/

theorem piecesFrom_cons (p : Option Partial) (b : UInt8) :
    piecesFrom p (b :: rest) = (step p b).1 ++ piecesFrom (step p b).2 rest := by
  cases p <;> rfl

theorem piecesFrom_of_step {p : Option Partial} {q : Partial} {b : UInt8}
    (h : step p b = ([], some q)) : piecesFrom p (b :: rest) = piecesFrom (some q) rest := by
  rw [piecesFrom_cons, h]
  rfl

theorem piecesFrom_of_char {p : Option Partial} {c : Char} {b : UInt8}
    (h : step p b = ([.char c], none)) :
    piecesFrom p (b :: rest) = .char c :: piecesFrom none rest := by
  rw [piecesFrom_cons, h]
  rfl

theorem piecesFrom_last {bits read low high : Nat} (n : Nat) (hlow : low ≤ n % 64 + 128)
    (hhigh : n % 64 + 128 ≤ high) :
    piecesFrom (some ⟨bits, read, 1, low, high⟩) (UInt8.ofNat (n % 64 + 128) :: rest) =
      .char (Char.ofNat (bits * 64 + n % 64)) :: piecesFrom none rest :=
  piecesFrom_of_char (step_tail _ n hlow hhigh)

theorem piecesFrom_tail {bits read owed low high : Nat} (n : Nat) (hlow : low ≤ n % 64 + 128)
    (hhigh : n % 64 + 128 ≤ high) (howed : owed ≠ 0) :
    piecesFrom (some ⟨bits, read, owed + 1, low, high⟩) (UInt8.ofNat (n % 64 + 128) :: rest) =
      piecesFrom (some ⟨bits * 64 + n % 64, read + 1, owed, 0x80, 0xBF⟩) rest := by
  refine piecesFrom_of_step ?_
  rw [step_tail _ n hlow hhigh, if_neg (by simpa using howed)]
  rfl

/-- The bytes of a character are one piece, whatever follows them. -/
theorem piecesFrom_encodeChar (c : Char) (rest : List UInt8) :
    piecesFrom none (String.utf8EncodeChar c ++ rest) = .char c :: piecesFrom none rest := by
  obtain ⟨v, hv⟩ : ∃ v, c.val.toNat = v := ⟨_, rfl⟩
  have hchar : Char.ofNat v = c := by
    rw [← hv]
    exact Char.ofNat_toNat c
  have hvalid : v < 0xD800 ∨ (0xDFFF < v ∧ v < 0x110000) := hv ▸ c.valid
  have htail (n : Nat) : 0x80 ≤ n % 64 + 128 ∧ n % 64 + 128 ≤ 0xBF := by omega
  -- one case for each number of bytes, whose bits make up the number again
  simp only [String.utf8EncodeChar, hv]
  split_ifs with hone htwo hthree
  · exact piecesFrom_of_char (hchar ▸ step_ascii (by omega))
  · have hbits : v / 64 * 64 + v % 64 = v := by omega
    have hfirst := step_start (by omega) (by omega) (start_two (v := v) (by omega) htwo)
    rw [List.cons_append, piecesFrom_of_step hfirst, List.cons_append,
      piecesFrom_last v (htail v).1 (htail v).2, hbits, hchar, List.nil_append]
  · have hbits : (v / 4096 * 64 + v / 64 % 64) * 64 + v % 64 = v := by omega
    obtain ⟨low, high, hstart, hlow, hhigh⟩ := start_three (v := v) (by omega) hthree (by omega)
    have hfirst := step_start (by omega) (by omega) hstart
    rw [List.cons_append, piecesFrom_of_step hfirst, List.cons_append,
      piecesFrom_tail (v / 64) hlow hhigh (by decide), List.cons_append,
      piecesFrom_last v (htail v).1 (htail v).2, hbits, hchar, List.nil_append]
  · have hbits : ((v / 262144 * 64 + v / 4096 % 64) * 64 + v / 64 % 64) * 64 + v % 64 = v := by
      omega
    obtain ⟨low, high, hstart, hlow, hhigh⟩ := start_four (v := v) (by omega) (by omega)
    have hfirst := step_start (by omega) (by omega) hstart
    rw [List.cons_append, piecesFrom_of_step hfirst, List.cons_append,
      piecesFrom_tail (v / 4096) hlow hhigh (by decide), List.cons_append,
      piecesFrom_tail (v / 64) (htail _).1 (htail _).2 (by decide), List.cons_append,
      piecesFrom_last v (htail v).1 (htail v).2, hbits, hchar, List.nil_append]

/-- A byte of a character is the character, or it is not below 128. -/
theorem toNat_of_mem_encodeChar {b : UInt8} {c : Char} (h : b ∈ String.utf8EncodeChar c) :
    b.toNat = c.toNat ∨ 0x80 ≤ b.toNat := by
  have hvalid : c.toNat < 0xD800 ∨ (0xDFFF < c.toNat ∧ c.toNat < 0x110000) := c.valid
  have hbyte (n : Nat) (hn : n < 256) : (UInt8.ofNat n).toNat = n := toNat_ofNat hn
  have hc : c.val.toNat = c.toNat := rfl
  simp only [String.utf8EncodeChar, hc] at h
  split_ifs at h
  · rw [List.mem_singleton.1 h, hbyte _ (by omega)]
    exact .inl rfl
  -- where there are several bytes, each has the highest bit
  all_goals
    simp only [List.mem_cons, List.not_mem_nil, or_false] at h
    right
  · obtain rfl | rfl := h <;> rw [hbyte _ (by omega)] <;> omega
  · obtain rfl | rfl | rfl := h <;> rw [hbyte _ (by omega)] <;> omega
  · obtain rfl | rfl | rfl | rfl := h <;> rw [hbyte _ (by omega)] <;> omega

/-! ## Texts -/

theorem encode_append (a b : List Char) : encode (a ++ b) = encode a ++ encode b :=
  List.flatMap_append

theorem encode_cons (c : Char) (cs : List Char) :
    encode (c :: cs) = String.utf8EncodeChar c ++ encode cs :=
  List.flatMap_cons

theorem pieces_encode (cs : List Char) : pieces (encode cs) = cs.map .char := by
  induction cs with
  | nil => rfl
  | cons c cs ih =>
    rw [encode_cons, pieces, piecesFrom_encodeChar, List.map_cons, ← ih, pieces]

theorem wholeFrom_map_char (before : Nat) (cs : List Char) :
    wholeFrom before (cs.map .char) = .ok cs := by
  induction cs generalizing before with
  | nil => rfl
  | cons c cs ih =>
    rw [List.map_cons, wholeFrom, ih]
    rfl

/-- Strict reading gives the characters of encoded ones back. -/
theorem decode_encode (cs : List Char) : decode (encode cs) = .ok cs := by
  rw [decode, pieces_encode, wholeFrom_map_char]

theorem decode?_encode (cs : List Char) : decode? (encode cs) = some cs := by
  rw [decode?, decode_encode]
  rfl

/-- A byte of ASCII among the bytes of a text is a character of it. -/
theorem mem_of_mem_encode {b : UInt8} {cs : List Char} (hb : b.toNat < 0x80)
    (h : b ∈ encode cs) : ∃ c ∈ cs, c.toNat = b.toNat := by
  obtain ⟨c, hc, hbyte⟩ := List.mem_flatMap.1 h
  obtain hsame | hhigh := toNat_of_mem_encodeChar hbyte
  · exact ⟨c, hc, hsame.symm⟩
  · omega

theorem toList_loop (bytes : ByteArray) (i : Nat) (done : List UInt8) :
    ByteArray.toList.loop bytes i done = done.reverse ++ bytes.data.toList.drop i := by
  rw [ByteArray.toList.loop]
  split
  · next h =>
    have hlt : i < bytes.data.toList.length := h
    have hget : bytes.get! i = bytes.data.toList[i] := getElem!_pos bytes.data i h
    rw [toList_loop bytes (i + 1), List.drop_eq_getElem_cons hlt, hget]
    simp
  · next h =>
    have hle : bytes.data.toList.length ≤ i := Nat.not_lt.1 h
    rw [List.drop_eq_nil_of_le hle, List.append_nil]
termination_by bytes.size - i

theorem bytesOf_eq_encode (s : String) : bytesOf s = encode s.toList := by
  have hbytes : s.toUTF8 = (encode s.toList).toByteArray := s.utf8Encode_toList.symm
  rw [bytesOf, hbytes, ByteArray.toList, toList_loop]
  simp

/-- Strict reading gives a text back. -/
theorem decode?_bytesOf (s : String) : decode? (bytesOf s) = some s.toList := by
  rw [bytesOf_eq_encode, decode?_encode]

end Utf8

end QueryConsole
