import QueryConsole.Json.Decode
import QueryConsole.Json.Encode
import QueryConsole.Proofs.Json.Readers
import QueryConsole.Proofs.Text.Utf8

/-!
# Reading what was written

A written text is read back as it was, whatever its characters: those that are escaped are undone,
and the bytes of all others pass as they are. So an object of texts is read back member by member.

## Main definitions

- `Json.ofTexts`: an object of texts
- `Json.inside`: the bytes of a written text behind its opening quote

## Main results

- `Json.content_inside`: a written text is read back
- `Json.decode_ofTexts`: a written object of texts is read back
-/

namespace QueryConsole

namespace Json

variable {done rest : List UInt8}

/-! ## Characters -/

/-- A byte that stands for itself within a text. -/
def IsPlain (b : UInt8) : Prop := b ≠ 0x22 ∧ b ≠ 0x5C ∧ ¬b < 0x20

theorem contentFrom_plain {bytes : List UInt8} (h : ∀ b ∈ bytes, IsPlain b) :
    contentFrom done .plain (bytes ++ rest) = contentFrom (bytes.reverse ++ done) .plain rest := by
  induction bytes generalizing done with
  | nil => rfl
  | cons b bytes ih =>
    obtain ⟨⟨hquote, hslash, hcontrol⟩, hbytes⟩ := List.forall_mem_cons.1 h
    rw [List.cons_append, contentFrom, if_neg hquote, if_neg hslash, if_neg hcontrol, ih hbytes]
    simp

/-- A code unit that is a character of its own is written in four digits. -/
theorem contentFrom_unit {digits bytes : List UInt8} {unit : Nat} (hlength : digits.length = 4)
    (hcode : hexCode digits = some unit) (hunit : unitEnd unit none = some (bytes, .plain)) :
    contentFrom done .plain (0x5C :: 0x75 :: digits ++ rest) =
      contentFrom (bytes.reverse ++ done) .plain rest := by
  match digits, hlength with
  | [a, b, c, d], _ => simp [contentFrom, hcode, hunit]

/-- The characters that are escaped by a letter, or by themselves. -/
def lettered : List Char := ['"', '\\', '\n', '\r', '\t', '\x08', '\x0c']

/-- The controls that have no letter of their own are written as code units. -/
theorem quoteChar_control : ∀ n < 0x20, Char.ofNat n ∉ lettered →
    let bytes := Utf8.encode (quoteChar (Char.ofNat n))
    bytes.take 2 = [0x5C, 0x75] ∧ (bytes.drop 2).length = 4 ∧ hexCode (bytes.drop 2) = some n ∧
      unitEnd n none = some (String.utf8EncodeChar (Char.ofNat n), .plain) := by
  decide +kernel

theorem quoteChar_self {c : Char} (hlettered : c ∉ lettered) (hcontrol : ¬c.toNat < 0x20) :
    quoteChar c = [c] := by
  have hlow : ¬c.toNat < 0x10 := by omega
  simp only [lettered, List.mem_cons, List.not_mem_nil, or_false, not_or] at hlettered
  simp [quoteChar, hlettered, hlow, hcontrol]

/-- The bytes of a character that is not escaped stand for themselves. -/
theorem isPlain_of_mem_encodeChar {b : UInt8} {c : Char} (hlettered : c ∉ lettered)
    (hcontrol : ¬c.toNat < 0x20) (hb : b ∈ String.utf8EncodeChar c) : IsPlain b := by
  have hne (d : Char) (hd : d ∈ lettered) (hlow : d.toNat < 0x80) : b.toNat ≠ d.toNat := by
    intro heq
    obtain hself | hhigh := Utf8.toNat_of_mem_encodeChar hb
    · have hcd : c = d := Char.toNat_inj.1 (hself.symm.trans heq)
      exact hlettered (hcd ▸ hd)
    · omega
  refine ⟨?_, ?_, ?_⟩
  · rintro rfl
    exact hne '"' (by decide) (by decide) rfl
  · rintro rfl
    exact hne '\\' (by decide) (by decide) rfl
  · intro hlt
    have hlow : b.toNat < 0x20 := hlt
    obtain hself | hhigh := Utf8.toNat_of_mem_encodeChar hb <;> omega

/-- Every character is read back as it was, whether it is escaped or not. -/
theorem contentFrom_quoteChar (c : Char) :
    contentFrom done .plain (Utf8.encode (quoteChar c) ++ rest) =
      contentFrom ((String.utf8EncodeChar c).reverse ++ done) .plain rest := by
  -- escaped by a letter, by a code unit, or not at all
  by_cases hlettered : c ∈ lettered
  · simp only [lettered, List.mem_cons, List.not_mem_nil, or_false] at hlettered
    obtain rfl | rfl | rfl | rfl | rfl | rfl | rfl := hlettered <;> rfl
  by_cases hcontrol : c.toNat < 0x20
  · have hchar : Char.ofNat c.toNat = c := Char.ofNat_toNat c
    obtain ⟨htake, hlength, hhex, hunit⟩ :=
      quoteChar_control c.toNat hcontrol (hchar.symm ▸ hlettered)
    rw [hchar] at htake hlength hhex hunit
    rw [← List.take_append_drop 2 (Utf8.encode (quoteChar c)), htake]
    exact contentFrom_unit hlength hhex hunit
  · rw [quoteChar_self hlettered hcontrol, Utf8.encode, List.flatMap_singleton]
    exact contentFrom_plain fun b hb => isPlain_of_mem_encodeChar hlettered hcontrol hb

/-! ## Texts -/

/-- The bytes of a written text behind its opening quote. -/
def inside (s : String) : List UInt8 :=
  Utf8.encode (s.toList.flatMap quoteChar) ++ [0x22]

theorem encode_quote (s : String) : Utf8.encode (quote s) = 0x22 :: inside s := by
  rw [quote, List.cons_append, Utf8.encode_cons, Utf8.encode_append]
  rfl

theorem contentFrom_flatMap (cs : List Char) :
    contentFrom done .plain (Utf8.encode (cs.flatMap quoteChar) ++ 0x22 :: rest) =
      .ok ((Utf8.encode cs).reverse ++ done, rest) := by
  induction cs generalizing done with
  | nil => rfl
  | cons c cs ih =>
    rw [List.flatMap_cons, Utf8.encode_append, List.append_assoc, contentFrom_quoteChar, ih,
      Utf8.encode_cons, List.reverse_append, List.append_assoc]

/-- A written text is read back as it was. -/
theorem content_inside (s : String) (rest : List UInt8) :
    content (inside s ++ rest) = .ok (s, rest) := by
  have hfrom : contentFrom [] .plain (inside s ++ rest) =
      .ok ((Utf8.encode s.toList).reverse, rest) := by
    rw [inside, List.append_assoc, List.singleton_append, contentFrom_flatMap, List.append_nil]
  simp only [content, hfrom, bind, Except.bind, List.reverse_reverse, Utf8.decode?_encode,
    String.ofList_toList]

/-! ## Members -/

/-- The bytes of a written member. -/
def written (m : String × String) : List UInt8 :=
  0x22 :: inside m.1 ++ 0x3A :: 0x22 :: inside m.2

/-- The bytes behind a member: those of the later ones, and the closing brace. -/
def behind : List (String × String) → List UInt8
  | [] => [0x7D]
  | m :: rest => 0x2C :: written m ++ behind rest

/-- A member as it is read. -/
def readMember (m : String × String) : String × Part := (m.1, .written m.2)

variable {inner : List UInt8 → Option Json} {members : List (String × Part)}
  {stack : List (Frame Part String)}

/-- More steps than are needed change nothing. -/
theorem Reading.run_mono {ν τ : Type} {r : Reading ν τ} {fuel more : Nat} {s : Reader ν τ}
    {result : ν × List UInt8} (h : r.run fuel s = .ok result) (hle : fuel ≤ more) :
    r.run more s = .ok result := by
  induction fuel generalizing more s with
  | zero => cases h
  | succ fuel ih =>
    obtain ⟨more, rfl⟩ := Nat.exists_eq_add_of_lt hle
    obtain ⟨p, hp, h⟩ := bind_eq_ok_iff.1 h
    rw [run, hp]
    cases p with
    | done value rest => exact h
    | reading next => exact ih h (by omega)

theorem run_of_step {fuel : Nat} {s next : Reader Part String}
    (h : (decodingWith inner).step s = .ok (.reading next)) :
    (decodingWith inner).run (fuel + 1) s = (decodingWith inner).run fuel next := by
  rw [Reading.run, h]
  rfl

theorem step_key {want : Want} (hwant : want = .key ∨ want = .firstKey) (key : String)
    (rest : List UInt8) :
    (decodingWith inner).step ⟨want, .object members :: stack, 0x22 :: inside key ++ 0x3A :: rest⟩ =
      .ok (.reading ⟨.value, .member members key :: stack, rest⟩) := by
  have htext : (decodingWith inner).text (inside key ++ 0x3A :: rest) = .ok (key, 0x3A :: rest) :=
    content_inside key _
  obtain rfl | rfl := hwant <;>
    simp [Reading.step, skipBlank, isBlank, Reading.stepKey, htext, bind, Except.bind]

theorem step_text (key s : String) (rest : List UInt8) :
    (decodingWith inner).step ⟨.value, .member members key :: stack, 0x22 :: inside s ++ rest⟩ =
      .ok (.reading ⟨.more, .object (readMember (key, s) :: members) :: stack, rest⟩) := by
  have htext : (decodingWith inner).text (inside s ++ rest) = .ok (s, rest) :=
    content_inside s rest
  -- the opening quote decides that a text comes next
  show ((decodingWith inner).text (inside s ++ rest) >>= fun read =>
    Reading.finish (.written read.1) (.member members key :: stack) read.2) = _
  rw [htext]
  rfl

theorem step_comma (rest : List UInt8) :
    (decodingWith inner).step ⟨.more, .object members :: stack, 0x2C :: rest⟩ =
      .ok (.reading ⟨.key, .object members :: stack, rest⟩) :=
  rfl

/-- The closing brace of an object outside of everything. -/
theorem step_close {v : Json} (h : objectValue inner members.reverse = some v) :
    (decodingWith inner).step ⟨.more, [.object members], [0x7D]⟩ = .ok (.done (.other v) []) := by
  have hobject : (decodingWith inner).object members.reverse = some (.other v) := by
    show (objectValue inner members.reverse).map Part.other = _
    rw [h]
    rfl
  show (decodingWith inner).leave [.object members] [] = _
  rw [Reading.leave, hobject]
  rfl

/-- A written member is read in two steps. -/
theorem run_written {want : Want} (hwant : want = .key ∨ want = .firstKey) (m : String × String)
    (rest : List UInt8) (fuel : Nat) :
    (decodingWith inner).run (fuel + 2) ⟨want, .object members :: stack, written m ++ rest⟩ =
      (decodingWith inner).run fuel ⟨.more, .object (readMember m :: members) :: stack, rest⟩ := by
  have hbytes : written m ++ rest = 0x22 :: inside m.1 ++ 0x3A :: (0x22 :: inside m.2 ++ rest) := by
    simp [written]
  rw [hbytes, run_of_step (step_key hwant m.1 _), run_of_step (step_text m.1 m.2 rest)]

/-- The members of an object are read one after the other, in three steps each. -/
theorem run_members {want : Want} (hwant : want = .key ∨ want = .firstKey) {m : String × String}
    {rest : List (String × String)} {v : Json}
    (h : objectValue inner (members.reverse ++ (m :: rest).map readMember) = some v) :
    (decodingWith inner).run (3 * (rest.length + 1)) ⟨want, [.object members],
      written m ++ behind rest⟩ = .ok (.other v, []) := by
  -- what was read so far is kept in reverse, before the members that are to come
  induction rest generalizing want m members with
  | nil =>
    have hvalue : objectValue inner (readMember m :: members).reverse = some v := by
      rw [List.reverse_cons]
      exact h
    rw [behind, List.length_nil, run_written hwant, Reading.run, step_close hvalue]
    rfl
  | cons next rest ih =>
    have hvalue : objectValue inner ((readMember m :: members).reverse ++
        (next :: rest).map readMember) = some v := by
      rw [List.reverse_cons, List.append_assoc]
      exact h
    have hfuel : 3 * ((next :: rest).length + 1) = 3 * (rest.length + 1) + 1 + 2 := by
      simp
      omega
    rw [hfuel, run_written hwant, behind, List.cons_append, run_of_step (step_comma _)]
    exact ih (.inl rfl) hvalue

/-! ## Objects of texts -/

/-- An object of texts. -/
def ofTexts (members : List (String × String)) : Json :=
  .object (members.map fun m => (m.1, .text m.2))

theorem encode_separated (m : String × String) (rest : List (String × String)) :
    Utf8.encode (separated (renderMembers ((m :: rest).map fun m => (m.1, .text m.2)))) ++ [0x7D] =
      written m ++ behind rest := by
  have hmember (m : String × String) : Utf8.encode (quote m.1 ++ ':' :: quote m.2) = written m := by
    rw [Utf8.encode_append, Utf8.encode_cons, encode_quote, encode_quote]
    rfl
  induction rest generalizing m with
  | nil =>
    rw [behind, ← hmember m]
    rfl
  | cons next rest ih =>
    have hcomma : String.utf8EncodeChar ',' = [0x2C] := rfl
    simp only [List.map_cons, renderMembers, separated, renderChars] at ih ⊢
    rw [Utf8.encode_append, Utf8.encode_cons, hmember, hcomma, List.append_assoc,
      List.append_assoc, ih next]
    rfl

theorem bytesOf_ofTexts (m : String × String) (rest : List (String × String)) :
    Utf8.bytesOf (ofTexts (m :: rest)).render = 0x7B :: (written m ++ behind rest) := by
  rw [Utf8.bytesOf_eq_encode, ofTexts, render, String.toList_ofList, renderChars,
    List.cons_append, Utf8.encode_cons, Utf8.encode_append, ← encode_separated]
  rfl

/-- There are no more lexemes than bytes. -/
theorem length_behind (rest : List (String × String)) : 3 * rest.length < (behind rest).length := by
  induction rest with
  | nil => decide
  | cons m rest ih =>
    simp only [behind, written, List.length_cons, List.length_append]
    omega

/-- An object whose first key does not say that it stands for another text is read as an object. -/
theorem objectValue_of_ne {m : String × Part} (rest : List (String × Part))
    (hkey : m.1 ≠ embeddedKey) :
    objectValue inner (m :: rest) =
      some (.object (putAll ((m :: rest).map fun m => (m.1, m.2.value)))) :=
  if_neg hkey

/-- The value of an object of texts is the object, when its keys are distinct and the first one does
not say that it stands for another text. -/
theorem objectValue_texts {m : String × String} {rest : List (String × String)}
    (hkey : m.1 ≠ embeddedKey) (hkeys : ((m :: rest).map Prod.fst).Nodup) :
    objectValue inner ((m :: rest).map readMember) = some (ofTexts (m :: rest)) := by
  have hnodup : (((m :: rest).map fun m => (m.1, Json.text m.2)).map Prod.fst).Nodup := by
    rw [List.map_map]
    exact hkeys
  rw [List.map_cons, objectValue_of_ne _ hkey, ← List.map_cons, List.map_map]
  exact congrArg (fun entries => some (Json.object entries)) (putAll_of_nodup hnodup)

/-- A written object of texts is read back as it was. -/
theorem decode_ofTexts {m : String × String} {rest : List (String × String)}
    (hkey : m.1 ≠ embeddedKey) (hkeys : ((m :: rest).map Prod.fst).Nodup) :
    decode (Utf8.bytesOf (ofTexts (m :: rest)).render) = .ok (ofTexts (m :: rest)) := by
  obtain ⟨inner, hinner⟩ := decoding_eq (Utf8.bytesOf (ofTexts (m :: rest)).render).length
  have hopen : (decodingWith inner).step ⟨.value, [], 0x7B :: (written m ++ behind rest)⟩ =
      .ok (.reading ⟨.firstKey, [.object []], written m ++ behind rest⟩) := rfl
  have hvalue : objectValue inner ([].reverse ++ (m :: rest).map readMember) =
      some (ofTexts (m :: rest)) := objectValue_texts hkey hkeys
  have hrun := run_members (.inr rfl) hvalue
  have hfuel : 3 * (rest.length + 1) ≤ (written m ++ behind rest).length + 1 := by
    have hrest := length_behind rest
    simp only [written, List.length_append, List.length_cons]
    omega
  have hread : (decodingWith inner).read (0x7B :: (written m ++ behind rest)) =
      .ok (.other (ofTexts (m :: rest))) := by
    rw [Reading.read, List.length_cons, run_of_step hopen, Reading.run_mono hrun hfuel]
    rfl
  rw [decode, hinner, bytesOf_ofTexts, hread]
  rfl

end Json

end QueryConsole
