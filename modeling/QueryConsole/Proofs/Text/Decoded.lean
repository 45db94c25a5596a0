import QueryConsole.Proofs.Except
import QueryConsole.Proofs.Text.Utf8

/-!
# What is read as a character

The pieces of a byte string are made of its bytes, and a piece that is a character is made of the
bytes this character is written as. So strict reading accepts nothing but encoded texts, and
lenient reading shows no line feed where there is none.

## Main definitions

- `Utf8.Begun`: a character that some bytes begin
- `Utf8.Covers`: pieces and the bytes they are made of

## Main results

- `Utf8.step_splits`: what one byte does to the character that is pending
- `Utf8.covers_pieces`: the pieces of a byte string are made of its bytes
- `Utf8.decode?_eq_some_iff`: strict reading gives a text exactly from its bytes
- `Utf8.decodeLossy_newline`: a line feed separates what lenient reading reads
-/

namespace QueryConsole

namespace Utf8

variable {v : Nat} {b : UInt8} {bs bytes rest : List UInt8} {p : Partial} {c : Char}
  {ps qs : List Piece}

/-! ## The bytes of a code point -/

theorem toNat_ofNat_of_valid (h : v < 0xD800 ∨ 0xDFFF < v ∧ v < 0x110000) :
    (Char.ofNat v).val.toNat = v := by
  have hvalid : v.isValidChar := h
  rw [Char.ofNat, dif_pos hvalid]
  rfl

theorem encodeChar_one (h : v < 0x80) :
    String.utf8EncodeChar (Char.ofNat v) = [UInt8.ofNat v] := by
  simp only [String.utf8EncodeChar, toNat_ofNat_of_valid (v := v) (by omega)]
  rw [if_pos (by omega)]

theorem encodeChar_two (hlow : 0x80 ≤ v) (hhigh : v ≤ 0x7FF) :
    String.utf8EncodeChar (Char.ofNat v) =
      [UInt8.ofNat (v / 64 + 192), UInt8.ofNat (v % 64 + 128)] := by
  have hfirst : v / 64 % 32 = v / 64 := by omega
  simp only [String.utf8EncodeChar, toNat_ofNat_of_valid (v := v) (by omega)]
  rw [if_neg (by omega), if_pos (by omega), hfirst]

theorem encodeChar_three (hlow : 0x800 ≤ v) (hhigh : v ≤ 0xFFFF)
    (hvalid : v < 0xD800 ∨ 0xDFFF < v) :
    String.utf8EncodeChar (Char.ofNat v) =
      [UInt8.ofNat (v / 4096 + 224), UInt8.ofNat (v / 64 % 64 + 128),
        UInt8.ofNat (v % 64 + 128)] := by
  have hfirst : v / 4096 % 16 = v / 4096 := by omega
  simp only [String.utf8EncodeChar, toNat_ofNat_of_valid (v := v) (by omega)]
  rw [if_neg (by omega), if_neg (by omega), if_pos (by omega), hfirst]

theorem encodeChar_four (hlow : 0x10000 ≤ v) (hhigh : v < 0x110000) :
    String.utf8EncodeChar (Char.ofNat v) =
      [UInt8.ofNat (v / 262144 + 240), UInt8.ofNat (v / 4096 % 64 + 128),
        UInt8.ofNat (v / 64 % 64 + 128), UInt8.ofNat (v % 64 + 128)] := by
  have hfirst : v / 262144 % 8 = v / 262144 := by omega
  simp only [String.utf8EncodeChar, toNat_ofNat_of_valid (v := v) (by omega)]
  rw [if_neg (by omega), if_neg (by omega), if_neg (by omega), hfirst]

/-! ## Characters that were begun -/

/-- A character that some bytes begin: the first of two bytes, the first or both first of three, or
one to three of four. The bounds on the next byte leave out shorter forms, surrogates and what lies
beyond the last character. -/
inductive Begun : List UInt8 → Partial → Prop
  | oneOfTwo {n : Nat} (hlow : 2 ≤ n) (hhigh : n ≤ 0x1F) :
      Begun [UInt8.ofNat (n + 192)] ⟨n, 1, 1, 0x80, 0xBF⟩
  | oneOfThree {n low high : Nat} (hn : n ≤ 0xF) (hlow : 0x80 ≤ low) (hhigh : high ≤ 0xBF)
      (hshort : n = 0 → low = 0xA0) (hsurrogate : n = 0xD → high = 0x9F) :
      Begun [UInt8.ofNat (n + 224)] ⟨n, 1, 2, low, high⟩
  | twoOfThree {n : Nat} (hlow : 0x20 ≤ n) (hhigh : n ≤ 0x3FF)
      (hsurrogate : n < 0x360 ∨ 0x37F < n) :
      Begun [UInt8.ofNat (n / 64 + 224), UInt8.ofNat (n % 64 + 128)] ⟨n, 2, 1, 0x80, 0xBF⟩
  | oneOfFour {n low high : Nat} (hn : n ≤ 4) (hlow : 0x80 ≤ low) (hhigh : high ≤ 0xBF)
      (hshort : n = 0 → low = 0x90) (hlast : n = 4 → high = 0x8F) :
      Begun [UInt8.ofNat (n + 240)] ⟨n, 1, 3, low, high⟩
  | twoOfFour {n : Nat} (hlow : 0x10 ≤ n) (hhigh : n ≤ 0x10F) :
      Begun [UInt8.ofNat (n / 64 + 240), UInt8.ofNat (n % 64 + 128)] ⟨n, 2, 2, 0x80, 0xBF⟩
  | threeOfFour {n : Nat} (hlow : 0x400 ≤ n) (hhigh : n ≤ 0x43FF) :
      Begun [UInt8.ofNat (n / 4096 + 240), UInt8.ofNat (n / 64 % 64 + 128),
        UInt8.ofNat (n % 64 + 128)] ⟨n, 3, 1, 0x80, 0xBF⟩

/-- No byte that a character goes on with is one of ASCII. -/
theorem Begun.low_le (h : Begun bs p) : 0x80 ≤ p.low := by
  cases h with
  | oneOfThree _ hlow => exact hlow
  | oneOfFour _ hlow => exact hlow
  | _ => exact Nat.le_refl _

theorem Begun.high_le (h : Begun bs p) : p.high ≤ 0xBF := by
  cases h with
  | oneOfThree _ _ hhigh => exact hhigh
  | oneOfFour _ _ hhigh => exact hhigh
  | _ => exact Nat.le_refl _

theorem Begun.length_eq (h : Begun bs p) : bs.length = p.read := by
  cases h <;> rfl

theorem begun_start (h : Partial.start b.toNat = some p) : Begun [b] p := by
  have hb : ∀ n m, b.toNat = n + m → [b] = [UInt8.ofNat (n + m)] := by
    intro n m hnm
    rw [← hnm, UInt8.ofNat_toNat]
  unfold Partial.start at h
  split_ifs at h with h2 h3 hD h3' h4 h4' h4''
  all_goals rw [← Option.some.inj h]
  · rw [hb (b.toNat - 0xC0) 192 (by omega)]
    exact .oneOfTwo (by omega) (by omega)
  · rw [hb 0 224 (by omega)]
    exact .oneOfThree (by omega) (by omega) (by omega) (fun _ => rfl) (by omega)
  · rw [hb 0xD 224 (by omega)]
    exact .oneOfThree (by omega) (by omega) (by omega) (by omega) (fun _ => rfl)
  · rw [hb (b.toNat - 0xE0) 224 (by omega)]
    exact .oneOfThree (by omega) (by omega) (by omega) (by omega) (by omega)
  · rw [hb 0 240 (by omega)]
    exact .oneOfFour (by omega) (by omega) (by omega) (fun _ => rfl) (by omega)
  · rw [hb (b.toNat - 0xF0) 240 (by omega)]
    exact .oneOfFour (by omega) (by omega) (by omega) (by omega) (by omega)
  · rw [hb 4 240 (by omega)]
    exact .oneOfFour (by omega) (by omega) (by omega) (by omega) (fun _ => rfl)

/-- The six bits that a byte adds to a character. -/
theorem exists_tail (hlow : 0x80 ≤ b.toNat) (hhigh : b.toNat ≤ 0xBF) :
    ∃ k, k < 64 ∧ b.toNat = k + 128 ∧ b = UInt8.ofNat (k + 128) := by
  refine ⟨b.toNat - 128, by omega, by omega, ?_⟩
  have hsum : b.toNat - 128 + 128 = b.toNat := by omega
  rw [hsum, UInt8.ofNat_toNat]

/-- A byte within the bounds goes on with a character that owes more than one. -/
theorem Begun.next (h : Begun bs p) (hlow : p.low ≤ b.toNat) (hhigh : b.toNat ≤ p.high)
    (howed : p.owed ≠ 1) :
    Begun (bs ++ [b]) ⟨p.bits * 64 + (b.toNat - 0x80), p.read + 1, p.owed - 1, 0x80, 0xBF⟩ := by
  obtain ⟨k, hk, hnat, hb⟩ :=
    exists_tail (Nat.le_trans h.low_le hlow) (Nat.le_trans hhigh h.high_le)
  rw [hnat, Nat.add_sub_cancel, hb]
  rw [hnat] at hlow hhigh
  cases h with
  | @oneOfThree n low high hn _ _ hshort hsurrogate =>
    have hdiv : (n * 64 + k) / 64 = n := by omega
    have hmod : (n * 64 + k) % 64 = k := by omega
    have hnew := Begun.twoOfThree (n := n * 64 + k) (by dsimp only at hlow; omega) (by omega)
      (by dsimp only at hhigh; omega)
    rw [hdiv, hmod] at hnew
    exact hnew
  | @oneOfFour n low high hn _ _ hshort hlast =>
    have hdiv : (n * 64 + k) / 64 = n := by omega
    have hmod : (n * 64 + k) % 64 = k := by omega
    have hnew := Begun.twoOfFour (n := n * 64 + k) (by dsimp only at hlow; omega)
      (by dsimp only at hhigh; omega)
    rw [hdiv, hmod] at hnew
    exact hnew
  | @twoOfFour n hmin hmax =>
    have hdiv : (n * 64 + k) / 4096 = n / 64 := by omega
    have hmid : (n * 64 + k) / 64 % 64 = n % 64 := by omega
    have hmod : (n * 64 + k) % 64 = k := by omega
    have hnew := Begun.threeOfFour (n := n * 64 + k) (by omega) (by omega)
    rw [hdiv, hmid, hmod] at hnew
    exact hnew
  | oneOfTwo => exact absurd rfl howed
  | twoOfThree => exact absurd rfl howed
  | threeOfFour => exact absurd rfl howed

/-- The last byte that a character owes completes it. -/
theorem Begun.finish (h : Begun bs p) (hlow : p.low ≤ b.toNat) (hhigh : b.toNat ≤ p.high)
    (howed : p.owed = 1) :
    String.utf8EncodeChar (Char.ofNat (p.bits * 64 + (b.toNat - 0x80))) = bs ++ [b] := by
  obtain ⟨k, hk, hnat, hb⟩ :=
    exists_tail (Nat.le_trans h.low_le hlow) (Nat.le_trans hhigh h.high_le)
  rw [hnat, Nat.add_sub_cancel, hb]
  rw [hnat] at hlow hhigh
  cases h with
  | @oneOfTwo n hmin hmax =>
    dsimp only
    have hdiv : (n * 64 + k) / 64 = n := by omega
    have hmod : (n * 64 + k) % 64 = k := by omega
    rw [encodeChar_two (by omega) (by omega), hdiv, hmod]
    rfl
  | @twoOfThree n hmin hmax hsurrogate =>
    dsimp only
    have hdiv : (n * 64 + k) / 4096 = n / 64 := by omega
    have hmid : (n * 64 + k) / 64 % 64 = n % 64 := by omega
    have hmod : (n * 64 + k) % 64 = k := by omega
    rw [encodeChar_three (by omega) (by omega) (by omega), hdiv, hmid, hmod]
    rfl
  | @threeOfFour n hmin hmax =>
    dsimp only
    have hdiv : (n * 64 + k) / 262144 = n / 4096 := by omega
    have hsecond : (n * 64 + k) / 4096 % 64 = n / 64 % 64 := by omega
    have hthird : (n * 64 + k) / 64 % 64 = n % 64 := by omega
    have hmod : (n * 64 + k) % 64 = k := by omega
    rw [encodeChar_four (by omega) (by omega), hdiv, hsecond, hthird, hmod]
    rfl
  | oneOfThree => cases howed
  | oneOfFour => cases howed
  | twoOfFour => cases howed

/-! ## Pieces and their bytes -/

/-- The pieces are made of these bytes, in order: a character of the ones it is written as, and any
other piece of as many as it says. -/
inductive Covers : List Piece → List UInt8 → Prop
  | nil : Covers [] []
  | char (c : Char) {ps : List Piece} {later : List UInt8} (h : Covers ps later) :
      Covers (.char c :: ps) (String.utf8EncodeChar c ++ later)
  | broken (run : List UInt8) {ps : List Piece} {later : List UInt8} (h : Covers ps later) :
      Covers (.broken run.length :: ps) (run ++ later)
  | cut (run : List UInt8) {ps : List Piece} {later : List UInt8} (h : Covers ps later) :
      Covers (.cut run.length :: ps) (run ++ later)

theorem Covers.append (h : Covers ps bytes) (hrest : Covers qs rest) :
    Covers (ps ++ qs) (bytes ++ rest) := by
  induction h with
  | nil => exact hrest
  | char c _ ih =>
    rw [List.append_assoc]
    exact ih.char c
  | broken run _ ih =>
    rw [List.append_assoc]
    exact ih.broken run
  | cut run _ ih =>
    rw [List.append_assoc]
    exact ih.cut run

/-- What was read and belongs to no piece yet: nothing, or the start of a character. -/
def Pending (bs : List UInt8) : Option Partial → Prop
  | none => bs = []
  | some p => Begun bs p

/-- What `step` leaves: the pieces it completes take the first of the bytes, and the others are
pending. -/
def Splits (bs : List UInt8) (s : List Piece × Option Partial) : Prop :=
  ∃ done left, bs = done ++ left ∧ Covers s.1 done ∧ Pending left s.2

theorem Begun.splits (h : Begun bs p) : Splits bs ([], some p) :=
  ⟨[], bs, rfl, .nil, h⟩

theorem splits_char (h : String.utf8EncodeChar c = bs) : Splits bs ([.char c], none) := by
  refine ⟨bs, [], (List.append_nil bs).symm, ?_, rfl⟩
  rw [← h, ← List.append_nil (String.utf8EncodeChar c)]
  exact Covers.nil.char c

/-- A byte between characters is one, begins one, or is a piece by itself. -/
theorem begin_splits (b : UInt8) : Splits [b] (begin b) := by
  unfold begin
  split_ifs with hascii
  · refine splits_char ?_
    rw [encodeChar_one hascii, UInt8.ofNat_toNat]
  · split
    · next hstart => exact (begun_start hstart).splits
    · exact ⟨[b], [], rfl, Covers.nil.broken [b], rfl⟩

/-- One byte goes on with the character that is pending, completes it, or breaks it off. -/
theorem step_splits {q : Option Partial} (h : Pending bs q) (b : UInt8) :
    Splits (bs ++ [b]) (step q b) := by
  cases q with
  | none =>
    obtain rfl : bs = [] := h
    exact begin_splits b
  | some p =>
    have hbegun : Begun bs p := h
    rw [step]
    split_ifs with hrange howed
    · exact splits_char (hbegun.finish hrange.1 hrange.2 howed)
    · exact (hbegun.next hrange.1 hrange.2 howed).splits
    · obtain ⟨done, left, hbytes, hcovers, hpending⟩ := begin_splits b
      refine ⟨bs ++ done, left, ?_, ?_, hpending⟩
      · rw [hbytes, List.append_assoc]
      · rw [← hbegun.length_eq]
        exact hcovers.broken bs

theorem covers_piecesFrom {q : Option Partial} (h : Pending bs q) (rest : List UInt8) :
    Covers (piecesFrom q rest) (bs ++ rest) := by
  induction rest generalizing bs q with
  | nil =>
    cases q with
    | none =>
      obtain rfl : bs = [] := h
      exact .nil
    | some p =>
      have hbegun : Begun bs p := h
      rw [piecesFrom, ← hbegun.length_eq]
      exact Covers.nil.cut bs
  | cons b rest ih =>
    obtain ⟨done, left, hbytes, hcovers, hpending⟩ := step_splits h b
    have hsplit : bs ++ b :: rest = done ++ (left ++ rest) := by
      rw [← List.append_assoc, ← hbytes, List.append_assoc, List.singleton_append]
    rw [piecesFrom_cons, hsplit]
    exact hcovers.append (ih hpending)

/-- The pieces of a byte string are made of its bytes, none left out and none taken twice. -/
theorem covers_pieces (bytes : List UInt8) : Covers (pieces bytes) bytes :=
  covers_piecesFrom (q := none) rfl bytes

/-! ## Strict reading -/

theorem covers_chars {cs : List Char} (h : Covers (cs.map .char) bytes) : bytes = encode cs := by
  induction cs generalizing bytes with
  | nil =>
    cases h
    rfl
  | cons c cs ih =>
    rw [List.map_cons] at h
    cases h with
    | char _ hrest => rw [encode_cons, ih hrest]

theorem eq_chars_of_wholeFrom {before : Nat} {cs : List Char} (h : wholeFrom before ps = .ok cs) :
    ps = cs.map .char := by
  induction ps generalizing before cs with
  | nil =>
    cases h
    rfl
  | cons piece ps ih =>
    cases piece with
    | char c =>
      rw [wholeFrom] at h
      obtain ⟨later, hlater, rfl⟩ := map_eq_ok_iff.1 h
      rw [ih hlater, List.map_cons]
    | broken n => cases h
    | cut n => cases h

/-- Strict reading gives a text exactly from its bytes. -/
theorem decode?_eq_some_iff {cs : List Char} : decode? bytes = some cs ↔ bytes = encode cs := by
  constructor
  · intro h
    rw [decode?] at h
    cases hread : decode bytes with
    | error e =>
      rw [hread] at h
      cases h
    | ok read =>
      rw [hread] at h
      obtain rfl : read = cs := Option.some.inj h
      exact covers_chars (eq_chars_of_wholeFrom hread ▸ covers_pieces bytes)
  · rintro rfl
    exact decode?_encode cs

/-! ## Lenient reading -/

theorem Covers.mem (h : Covers ps bytes) (hc : .char c ∈ ps) :
    ∀ b ∈ String.utf8EncodeChar c, b ∈ bytes := by
  induction h with
  | nil => cases hc
  | char c' _ ih =>
    intro b hb
    rw [List.mem_append]
    obtain hsame | hlater := List.mem_cons.1 hc
    · cases hsame
      exact .inl hb
    · exact .inr (ih hlater b hb)
  | broken run _ ih =>
    intro b hb
    obtain hsame | hlater := List.mem_cons.1 hc
    · cases hsame
    · exact List.mem_append_right run (ih hlater b hb)
  | cut run _ ih =>
    intro b hb
    obtain hsame | hlater := List.mem_cons.1 hc
    · cases hsame
    · exact List.mem_append_right run (ih hlater b hb)

/-- A character that lenient reading shows stands in the bytes, but for the replacement. -/
theorem mem_of_mem_decodeLossy (h : c ∈ decodeLossy bytes) (hc : c ≠ replacement) :
    ∀ b ∈ String.utf8EncodeChar c, b ∈ bytes := by
  obtain ⟨piece, hpiece, hshown⟩ := List.mem_map.1 h
  cases piece with
  | char c' =>
    obtain rfl : c' = c := hshown
    exact (covers_pieces bytes).mem hpiece
  | broken n => exact absurd hshown.symm hc
  | cut n => exact absurd hshown.symm hc

theorem decodeLossy_eq_nil_iff : decodeLossy bytes = [] ↔ bytes = [] := by
  constructor
  · intro h
    have hpieces : pieces bytes = [] := List.map_eq_nil_iff.1 h
    have hcovers := covers_pieces bytes
    rw [hpieces] at hcovers
    cases hcovers
    rfl
  · rintro rfl
    rfl

/-- A line feed ends whatever character it breaks off, so lenient reading reads what stands before
it and what stands behind it apart. -/
theorem shown_newline {q : Option Partial} (h : Pending bs q) (line rest : List UInt8) :
    (piecesFrom q (line ++ 0x0A :: rest)).map Piece.shown =
      (piecesFrom q line).map Piece.shown ++ '\n' :: decodeLossy rest := by
  induction line generalizing bs q with
  | nil =>
    rw [List.nil_append, piecesFrom_cons]
    cases q with
    | none => rfl
    | some p =>
      have hlow : 0x80 ≤ p.low := Begun.low_le h
      have hout : ¬(p.low ≤ (0x0A : UInt8).toNat ∧ (0x0A : UInt8).toNat ≤ p.high) := by
        intro hrange
        exact absurd (Nat.le_trans hlow hrange.1) (by decide)
      rw [step, if_neg hout]
      rfl
  | cons b line ih =>
    obtain ⟨done, left, -, -, hpending⟩ := step_splits h b
    rw [List.cons_append, piecesFrom_cons, piecesFrom_cons, List.map_append, List.map_append,
      ih hpending, List.append_assoc]

theorem decodeLossy_newline (line rest : List UInt8) :
    decodeLossy (line ++ 0x0A :: rest) = decodeLossy line ++ '\n' :: decodeLossy rest :=
  shown_newline (q := none) rfl line rest

end Utf8

end QueryConsole
