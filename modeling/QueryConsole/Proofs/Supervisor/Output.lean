import Mathlib.Data.List.DropRight
import Mathlib.Data.List.Forall2
import QueryConsole.Proofs.Text.Decoded
import QueryConsole.Proofs.Text.Lines
import QueryConsole.Supervisor.Basic

/-!
# What is logged of a stream

A stream is cut into lines as bytes, and each line is read as text by itself. A line feed is a byte
of no other character and breaks off whatever character stands unfinished before it, so the lines of
the text that the whole stream is read as are the same.

## Main definitions

- `LinesOf`: the lines of a list
- `Supervisor.Trimmed`: a text without what ends a line

## Main results

- `Text.linesOf_cutLines`: the cut gives the lines of a byte string
- `LinesOf.decodeLossy`: lenient reading goes line by line
- `no_output_lost`: what is logged are the lines of the stream, all of them and in order
-/

namespace QueryConsole

variable {α : Type} {stop : α} {text : List α} {lines lines' : List (List α)}

/-- The lines of a list: each goes up to the stop that ends it, and what follows the last stop is a
line if it is not empty. -/
inductive LinesOf (stop : α) : List α → List (List α) → Prop
  | nil : LinesOf stop [] []
  | last {line : List α} (hline : stop ∉ line) (hne : line ≠ []) : LinesOf stop line [line]
  | line {line rest : List α} {lines : List (List α)} (hline : stop ∉ line)
      (h : LinesOf stop rest lines) :
      LinesOf stop (line ++ stop :: rest) ((line ++ [stop]) :: lines)

namespace LinesOf

/-- Nothing is left out of the lines, and nothing is in two of them. -/
theorem flatten_eq (h : LinesOf stop text lines) : lines.flatten = text := by
  induction h with
  | nil => rfl
  | last => exact List.flatten_singleton
  | line _ _ ih => rw [List.flatten_cons, ih, List.append_assoc, List.singleton_append]

/-- A stop that was not yet passed is the next one. -/
theorem eq_nil_of_not_mem {front between rest rest' : List α} (h : stop ∉ front ++ between)
    (heq : stop :: rest = between ++ stop :: rest') : between = [] := by
  cases between with
  | nil => rfl
  | cons c between =>
    obtain ⟨rfl, -⟩ := List.cons.inj heq
    exact absurd (List.mem_append_right front List.mem_cons_self) h

theorem append_stop_inj {front front' rest rest' : List α} (h : stop ∉ front)
    (h' : stop ∉ front') (heq : front ++ stop :: rest = front' ++ stop :: rest') :
    front = front' ∧ rest = rest' := by
  obtain ⟨between, rfl, hrest⟩ | ⟨between, rfl, hrest⟩ := List.append_eq_append_iff.1 heq
  · obtain rfl := eq_nil_of_not_mem h' hrest
    exact ⟨(List.append_nil front).symm, (List.cons.inj hrest).2⟩
  · obtain rfl := eq_nil_of_not_mem h hrest
    exact ⟨List.append_nil front', (List.cons.inj hrest).2.symm⟩

theorem unique (h : LinesOf stop text lines) (h' : LinesOf stop text lines') : lines = lines' := by
  induction h generalizing lines' with
  | nil =>
    generalize htext : ([] : List α) = text at h'
    cases h' with
    | nil => rfl
    | last _ hne => exact absurd htext.symm hne
    | line => simp at htext
  | @last line hline hne =>
    cases h' with
    | nil => exact absurd rfl hne
    | last => rfl
    | line => exact absurd (by simp) hline
  | @line line rest lines hline _ ih =>
    generalize htext : line ++ stop :: rest = text at h'
    cases h' with
    | nil => simp at htext
    | last hline' => exact absurd (htext ▸ by simp) hline'
    | line hline' hrest =>
      obtain ⟨rfl, rfl⟩ := append_stop_inj hline hline' htext
      rw [ih hrest]

end LinesOf

/-! ## The lines of a byte string -/

theorem Text.linesOf_cutLines (bytes : List UInt8) : LinesOf 0x0A bytes (cutLines bytes) := by
  induction hlength : bytes.length using Nat.strong_induction_on generalizing bytes with
  | _ n ih =>
    by_cases hmem : 0x0A ∈ bytes
    · obtain ⟨line, rest, rfl, hline⟩ := List.eq_append_cons_of_mem hmem
      have hshort : rest.length < n := by
        rw [← hlength, List.length_append, List.length_cons]
        omega
      rw [cutLines_append hline]
      exact .line hline (ih rest.length hshort rest rfl)
    · obtain rfl | hne := eq_or_ne bytes []
      · exact .nil
      · rw [cutLines_last hmem hne]
        exact .last hmem hne

/-! ## Reading line by line -/

theorem Utf8.newline_not_mem_decodeLossy {line : List UInt8} (h : 0x0A ∉ line) :
    '\n' ∉ Utf8.decodeLossy line := by
  intro hmem
  apply h
  exact Utf8.mem_of_mem_decodeLossy hmem (by decide) 0x0A (by decide)

/-- Each line of the text that bytes are read as is one line of the bytes, read by itself. -/
theorem LinesOf.decodeLossy {bytes : List UInt8} {lines : List (List UInt8)}
    (h : LinesOf 0x0A bytes lines) :
    LinesOf '\n' (Utf8.decodeLossy bytes) (lines.map Utf8.decodeLossy) := by
  induction h with
  | nil => exact .nil
  | last hline hne =>
    exact .last (Utf8.newline_not_mem_decodeLossy hline) (mt Utf8.decodeLossy_eq_nil_iff.1 hne)
  | line hline _ ih =>
    rw [Utf8.decodeLossy_newline, List.map_cons, Utf8.decodeLossy_newline]
    exact .line (Utf8.newline_not_mem_decodeLossy hline) ih

namespace Supervisor

/-! ## What ends a line -/

/-- A text without the carriage returns and line feeds at its end. -/
structure Trimmed (cs record : List Char) : Prop where
  ending : ∃ ending, cs = record ++ ending ∧ ∀ c ∈ ending, c = '\r' ∨ c = '\n'
  last : ∀ c, record.getLast? = some c → c ≠ '\r' ∧ c ≠ '\n'

/-- The characters that `trimLine` takes off. -/
def endsLine (c : Char) : Bool := c == '\r' || c == '\n'

theorem endsLine_iff {c : Char} : endsLine c = true ↔ c = '\r' ∨ c = '\n' := by
  simp [endsLine]

theorem trimLine_eq (cs : List Char) : trimLine cs = cs.rdropWhile endsLine := rfl

theorem trimLine_eq_iff {cs record : List Char} : trimLine cs = record ↔ Trimmed cs record := by
  rw [trimLine_eq, Text.rdropWhile_eq_iff]
  simp only [endsLine_iff, not_or]
  exact ⟨fun h => ⟨h.1, h.2⟩, fun h => ⟨h.ending, h.last⟩⟩

theorem trimmed_map_iff {β : Type} {f : β → List Char} {lines : List β}
    {logged : List (List Char)} :
    List.Forall₂ (fun line => Trimmed (f line)) lines logged ↔
      lines.map (fun line => trimLine (f line)) = logged := by
  induction lines generalizing logged with
  | nil => rw [List.forall₂_nil_left_iff, List.map_nil, eq_comm]
  | cons line lines ih =>
    rw [List.forall₂_cons_left_iff, List.map_cons]
    constructor
    · rintro ⟨record, rest, hrecord, hrest, rfl⟩
      rw [trimLine_eq_iff.2 hrecord, ih.1 hrest]
    · rintro rfl
      exact ⟨_, _, trimLine_eq_iff.1 rfl, ih.2 rfl, rfl⟩

end Supervisor

open Supervisor (Trimmed)

/-- No output of a stream is lost. Its lines make it up again, also an unfinished last one, and one
record is logged for each of them in order: the line read leniently, without the carriage returns
and line feeds at its end. Reading the whole stream first and cutting the text into lines gives the
same records, since no character goes over the end of a line. -/
theorem no_output_lost (bytes : List UInt8) (logged : List (List Char)) :
    (∃ lines, LinesOf 0x0A bytes lines ∧ lines.flatten = bytes ∧
      LinesOf '\n' (Utf8.decodeLossy bytes) (lines.map Utf8.decodeLossy)) ∧
    (Supervisor.records bytes = logged ↔ ∃ lines, LinesOf 0x0A bytes lines ∧
      List.Forall₂ (fun line => Trimmed (Utf8.decodeLossy line)) lines logged) ∧
    (Supervisor.records bytes = logged ↔ ∃ texts, LinesOf '\n' (Utf8.decodeLossy bytes) texts ∧
      List.Forall₂ Trimmed texts logged) := by
  have hlines := Text.linesOf_cutLines bytes
  refine ⟨⟨_, hlines, hlines.flatten_eq, hlines.decodeLossy⟩, ?_, ?_⟩
  · constructor
    · intro hlogged
      exact ⟨_, hlines, Supervisor.trimmed_map_iff.2 hlogged⟩
    · rintro ⟨lines, hother, hlogged⟩
      rw [hother.unique hlines] at hlogged
      exact Supervisor.trimmed_map_iff.1 hlogged
  · constructor
    · intro hlogged
      refine ⟨_, hlines.decodeLossy, Supervisor.trimmed_map_iff.2 ?_⟩
      rw [List.map_map]
      exact hlogged
    · rintro ⟨texts, hother, hlogged⟩
      rw [hother.unique hlines.decodeLossy] at hlogged
      have hrecords := Supervisor.trimmed_map_iff.1 hlogged
      rw [List.map_map] at hrecords
      exact hrecords

/-- A character that the end of a line breaks off does not go on in the next line, and a lone
carriage return in the middle stays. -/
example : Supervisor.records [0xE2, 0x82, 0x0D, 0x0A, 0x0A, 0xAC, 0x0D, 0x41] =
    [['\uFFFD'], [], ['\uFFFD', '\r', 'A']] := by decide

end QueryConsole
