import Mathlib.Data.List.Forall2
import QueryConsole.Proofs.Text.Blank
import QueryConsole.Proofs.Text.Utf8
import QueryConsole.Text.Lines

/-!
# The lines of an encoded text

No character but the line feed has the byte of a line feed, so cutting the bytes of a text behind
line feeds cuts the text there.

## Main results

- `Text.cutLines_encode`: the lines of the bytes of a text are those of the text
-/

namespace QueryConsole

namespace Text

open Utf8 (encode)

theorem newline_not_mem {line : List Char} (h : '\n' ∉ line) : (0x0A : UInt8) ∉ encode line := by
  intro hmem
  obtain ⟨c, hc, hsame⟩ := Utf8.mem_of_mem_encode (by decide) hmem
  have hnewline : c = '\n' := Char.toNat_inj.1 hsame
  exact h (hnewline ▸ hc)

/-! ## Cutting -/

variable {bytes rest : List UInt8}

theorem cutLines_append (h : 0x0A ∉ bytes) :
    cutLines (bytes ++ 0x0A :: rest) = (bytes ++ [0x0A]) :: cutLines rest := by
  induction bytes with
  | nil => rfl
  | cons b bytes ih =>
    rw [List.mem_cons, not_or] at h
    rw [List.cons_append, cutLines, if_neg (Ne.symm h.1), ih h.2]
    rfl

theorem cutLines_last (h : 0x0A ∉ bytes) (hne : bytes ≠ []) : cutLines bytes = [bytes] := by
  induction bytes with
  | nil => exact absurd rfl hne
  | cons b bytes ih =>
    rw [List.mem_cons, not_or] at h
    rw [cutLines, if_neg (Ne.symm h.1)]
    cases bytes with
    | nil => rfl
    | cons b' bytes => rw [ih h.2 (List.cons_ne_nil _ _)]

/-! ## Taking off the end of a line -/

theorem chomp_return (bytes : List UInt8) : chomp (bytes ++ [0x0D] ++ [0x0A]) = bytes := by
  simp [chomp]

theorem chomp_newline (h : bytes.getLast? ≠ some 0x0D) : chomp (bytes ++ [0x0A]) = bytes := by
  obtain rfl | ⟨front, b, rfl⟩ := List.eq_nil_or_concat' bytes
  · rfl
  · have hb : b ≠ 0x0D := by
      rintro rfl
      simp at h
    have hreverse : (front ++ [b] ++ [0x0A]).reverse = 0x0A :: b :: front.reverse := by simp
    rw [chomp, hreverse]
    split
    · next heq =>
      simp only [List.cons.injEq] at heq
      exact absurd heq.2.1 hb
    · next heq =>
      simp only [List.cons.injEq, true_and] at heq
      simp [← heq]
    · next hother => exact absurd rfl (hother _)

theorem chomp_last (h : 0x0A ∉ bytes) : chomp bytes = bytes := by
  have hreverse : ∀ rest, bytes.reverse ≠ 0x0A :: rest := by
    intro rest hrest
    apply h
    rw [← List.mem_reverse, hrest]
    exact List.mem_cons_self
  unfold chomp
  split
  · next heq => exact absurd heq (hreverse _)
  · next heq => exact absurd heq (hreverse _)
  · rfl

/-! ## The lines of a text -/

/-- Bytes are read as a line, but for white space around it. -/
def ReadAs (bytes : List UInt8) (line : List Char) : Prop :=
  ∃ cs, Utf8.decode (chomp bytes) = .ok cs ∧ trimChars cs = trimChars line

theorem readAs_last {line : List Char} (h : '\n' ∉ line) : ReadAs (encode line) line := by
  refine ⟨line, ?_, rfl⟩
  rw [chomp_last (newline_not_mem h), Utf8.decode_encode]

theorem readAs_newline (line : List Char) : ReadAs (encode line ++ [0x0A]) line := by
  obtain rfl | ⟨front, c, rfl⟩ := List.eq_nil_or_concat' line
  · exact ⟨[], rfl, rfl⟩
  by_cases hc : c = '\r'
  · have hbytes : encode (front ++ ['\r']) = encode front ++ [0x0D] := Utf8.encode_append _ _
    refine ⟨front, ?_, ?_⟩
    · rw [hc, hbytes, chomp_return, Utf8.decode_encode]
    · rw [hc, trimChars_append (List.forall_mem_singleton.2 rfl)]
  · refine ⟨front ++ [c], ?_, rfl⟩
    have hlast : (encode (front ++ [c])).getLast? ≠ some 0x0D := by
      intro hlast
      have hbytes : encode (front ++ [c]) = encode front ++ String.utf8EncodeChar c := by
        rw [Utf8.encode_append, Utf8.encode_cons]
        exact congrArg (encode front ++ ·) (List.append_nil _)
      have hmem : (0x0D : UInt8) ∈ String.utf8EncodeChar c := by
        rw [hbytes, List.getLast?_append_of_ne_nil _ String.utf8EncodeChar_ne_nil] at hlast
        exact List.mem_of_getLast? hlast
      have hself : (0x0D : UInt8).toNat = c.toNat := by
        obtain hself | hhigh := Utf8.toNat_of_mem_encodeChar hmem
        · exact hself
        · exact absurd hhigh (by decide)
      exact hc (Char.toNat_inj.1 hself.symm)
    rw [chomp_newline hlast, Utf8.decode_encode]

theorem beq_newline {line : List Char} (h : '\n' ∉ line) : ∀ c ∈ line, (c == '\n') = false := by
  intro c hc
  exact beq_false_of_ne fun hnewline => h (hnewline ▸ hc)

/-- The lines of the bytes of a text are the lines of the text, one by one; what follows the last
line feed is none if it is empty. -/
theorem cutLines_encode (cs : List Char) :
    ∃ lines rest, cs.splitOn '\n' = lines ++ rest ∧ (rest = [] ∨ rest = [[]]) ∧
      List.Forall₂ ReadAs (cutLines (encode cs)) lines := by
  induction hlength : cs.length using Nat.strong_induction_on generalizing cs with
  | _ n ih =>
    by_cases hmem : '\n' ∈ cs
    · obtain ⟨line, later, rfl, hline⟩ := List.eq_append_cons_of_mem hmem
      have hshort : later.length < n := by
        rw [← hlength, List.length_append, List.length_cons]
        omega
      obtain ⟨lines, rest, hsplit, hrest, hread⟩ := ih later.length hshort later rfl
      have hbytes : encode (line ++ '\n' :: later) = encode line ++ 0x0A :: encode later :=
        Utf8.encode_append _ _
      refine ⟨line :: lines, rest, ?_, hrest, ?_⟩
      · have happend :=
          List.splitOnP_append_cons_of_forall_mem (beq_newline hline) '\n' rfl later
        rw [List.cons_append, ← hsplit]
        exact happend
      · rw [hbytes, cutLines_append (newline_not_mem hline)]
        exact .cons (readAs_newline line) hread
    · have hsplit : cs.splitOn '\n' = [cs] := List.splitOnP_eq_singleton (beq_newline hmem)
      obtain rfl | hne := eq_or_ne cs []
      · exact ⟨[], [[]], hsplit, .inr rfl, .nil⟩
      · have hbytes : encode cs ≠ [] := by
          intro hnil
          have hread := Utf8.decode_encode cs
          rw [hnil] at hread
          exact hne (Except.ok.inj hread).symm
        refine ⟨[cs], [], hsplit, .inl rfl, ?_⟩
        rw [cutLines_last (newline_not_mem hmem) hbytes]
        exact .cons (readAs_last hmem) .nil

end Text

end QueryConsole
