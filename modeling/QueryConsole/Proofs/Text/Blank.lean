import Mathlib.Data.List.DropRight
import QueryConsole.Text.Blank

/-!
# White space around a text and inside it

Taking white space off a text leaves what has none at either end. Such a text is a word, or a word
and an argument with white space between them, and its parts are found by looking for white space
from its beginning.

## Main definitions

- `Text.IsWhite`: a text of white space only
- `Text.Bare`: a text with no white space at either end
- `Text.Cut`: a text in its parts

## Main results

- `Text.rdropWhile_eq_iff`: what is left of a list whose end is taken off
- `Text.trim_surround`: white space around a text makes no difference
- `Text.exists_surround`: only white space is taken off
- `Text.Cut.splitWord_eq`, `Text.exists_cut`: the parts of a text are found, whatever they are
-/

namespace QueryConsole

namespace Text

/-! ## The ends of a list -/

section Ends

variable {α : Type} {p : α → Bool} {l core tail : List α}

/-- A list is cut where something no longer holds. -/
theorem exists_span (p : α → Bool) (l : List α) :
    ∃ front rest, l = front ++ rest ∧ (∀ a ∈ front, p a = true) ∧
      ∀ a, rest.head? = some a → p a = false := by
  refine ⟨l.takeWhile p, l.dropWhile p, List.takeWhile_append_dropWhile.symm, ?_, ?_⟩
  · exact fun a ha => List.mem_takeWhile_imp ha
  · intro a ha
    have hstop := List.head?_dropWhile_not p l
    rw [ha] at hstop
    simpa using hstop

theorem rdropWhile_append_of_pos (h : ∀ a ∈ tail, p a = true) :
    (l ++ tail).rdropWhile p = l.rdropWhile p := by
  have hreverse : ∀ a ∈ tail.reverse, p a = true := by
    intro a ha
    exact h a (List.mem_reverse.1 ha)
  rw [List.rdropWhile, List.reverse_append, List.dropWhile_append_of_pos hreverse,
    List.rdropWhile]

theorem dropWhile_eq_self_iff : l.dropWhile p = l ↔ ∀ a, l.head? = some a → ¬p a = true := by
  rw [List.dropWhile_eq_self_iff]
  cases l with
  | nil => simp
  | cons a l => simp

theorem rdropWhile_eq_self_iff :
    l.rdropWhile p = l ↔ ∀ a, l.getLast? = some a → ¬p a = true := by
  rw [List.rdropWhile_eq_self_iff]
  constructor
  · intro h a ha
    obtain ⟨hne, rfl⟩ := List.mem_getLast?_eq_getLast ha
    exact h hne
  · intro h hne
    exact h _ (List.getLast?_eq_some_getLast hne)

/-- What is left of a list when its end is taken off, as far as something holds of it. -/
theorem rdropWhile_eq_iff :
    l.rdropWhile p = core ↔ (∃ tail, l = core ++ tail ∧ ∀ a ∈ tail, p a = true) ∧
      ∀ a, core.getLast? = some a → ¬p a = true := by
  constructor
  · rintro rfl
    refine ⟨⟨l.rtakeWhile p, List.rdropWhile_append_rtakeWhile.symm, ?_⟩, ?_⟩
    · exact fun a ha => List.mem_rtakeWhile_imp ha
    · exact rdropWhile_eq_self_iff.1 (List.rdropWhile_idempotent p l)
  · rintro ⟨⟨tail, rfl, htail⟩, hlast⟩
    rw [rdropWhile_append_of_pos htail]
    exact rdropWhile_eq_self_iff.2 hlast

end Ends

/-! ## White space around a text -/

/-- A text of white space only. -/
def IsWhite (s : String) : Prop := ∀ c ∈ s.toList, isBlank c = true

/-- A text with no white space at either end. -/
structure Bare (s : String) : Prop where
  first : ∀ c, s.toList.head? = some c → ¬isBlank c = true
  last : ∀ c, s.toList.getLast? = some c → ¬isBlank c = true

variable {before text word gap argument after s : String}

theorem trimEndChars_eq (cs : List Char) : trimEndChars cs = cs.rdropWhile isBlank := rfl

theorem trimChars_eq (cs : List Char) :
    trimChars cs = (cs.dropWhile isBlank).rdropWhile isBlank := rfl

/-- White space before a text makes no difference. -/
theorem trimChars_prepend {blanks cs : List Char} (h : ∀ c ∈ blanks, isBlank c = true) :
    trimChars (blanks ++ cs) = trimChars cs := by
  rw [trimChars_eq, List.dropWhile_append_of_pos h, trimChars_eq]

/-- White space behind a text makes no difference. -/
theorem trimChars_append {cs blanks : List Char} (h : ∀ c ∈ blanks, isBlank c = true) :
    trimChars (cs ++ blanks) = trimChars cs := by
  rw [trimChars_eq, trimChars_eq, List.dropWhile_append]
  split
  · next hall =>
    have hnil : cs.dropWhile isBlank = [] := List.isEmpty_iff.1 hall
    rw [hnil, List.dropWhile_eq_nil_iff.2 h]
  · exact rdropWhile_append_of_pos h

theorem trim_surround (hbefore : IsWhite before) (hafter : IsWhite after) (s : String) :
    trim (before ++ s ++ after) = trim s := by
  rw [trim, String.toList_append, String.toList_append, trimChars_append hafter,
    trimChars_prepend hbefore, trim]

/-- What begins with no white space keeps its beginning when white space is taken off its end. -/
theorem dropWhile_rdropWhile {cs : List Char} (h : cs.dropWhile isBlank = cs) :
    (cs.rdropWhile isBlank).dropWhile isBlank = cs.rdropWhile isBlank := by
  obtain ⟨tail, htail⟩ := List.rdropWhile_prefix isBlank cs
  cases hshort : cs.rdropWhile isBlank with
  | nil => rfl
  | cons c rest =>
    rw [hshort, List.cons_append] at htail
    have hc : ¬isBlank c = true := by
      rw [← htail, dropWhile_eq_self_iff] at h
      exact h c rfl
    exact List.dropWhile_cons_of_neg hc

theorem bare_iff : Bare s ↔
    s.toList.dropWhile isBlank = s.toList ∧ s.toList.rdropWhile isBlank = s.toList := by
  rw [dropWhile_eq_self_iff, rdropWhile_eq_self_iff]
  exact ⟨fun h => ⟨h.first, h.last⟩, fun h => ⟨h.1, h.2⟩⟩

instance : Decidable (IsWhite s) :=
  decidable_of_iff (s.toList.all isBlank = true) List.all_eq_true

instance : Decidable (Bare s) :=
  decidable_of_iff _ bare_iff.symm

theorem bare_trim (s : String) : Bare (trim s) := by
  rw [bare_iff, trim, String.toList_ofList, trimChars_eq]
  exact ⟨dropWhile_rdropWhile (List.dropWhile_idempotent isBlank _),
    List.rdropWhile_idempotent isBlank _⟩

theorem Bare.trim_eq (h : Bare s) : trim s = s := by
  obtain ⟨hfront, hend⟩ := bare_iff.1 h
  rw [trim, trimChars_eq, hfront, hend, String.ofList_toList]

/-- There is nothing left to take off. -/
theorem trim_idem (s : String) : trim (trim s) = trim s :=
  (bare_trim s).trim_eq

/-- Nothing but white space is taken off. -/
theorem exists_surround (s : String) :
    ∃ before after, IsWhite before ∧ IsWhite after ∧ s = before ++ trim s ++ after := by
  refine ⟨String.ofList (s.toList.takeWhile isBlank),
    String.ofList ((s.toList.dropWhile isBlank).rtakeWhile isBlank), ?_, ?_, ?_⟩
  · intro c hc
    rw [String.toList_ofList] at hc
    exact List.mem_takeWhile_imp hc
  · intro c hc
    rw [String.toList_ofList] at hc
    exact List.mem_rtakeWhile_imp hc
  · rw [← String.toList_inj, String.toList_append, String.toList_append, String.toList_ofList,
      String.toList_ofList, trim, String.toList_ofList, trimChars_eq, List.append_assoc,
      List.rdropWhile_append_rtakeWhile, List.takeWhile_append_dropWhile]

theorem trim_eq_empty_iff : trim s = "" ↔ IsWhite s := by
  constructor
  · intro h c hc
    obtain ⟨before, after, hbefore, hafter, heq⟩ := exists_surround s
    rw [heq, h, String.append_empty, String.toList_append, List.mem_append] at hc
    exact hc.elim (hbefore c) (hafter c)
  · intro h
    have hnone : IsWhite "" := by simp [IsWhite]
    have htrim := trim_surround h hnone ""
    rwa [String.append_empty, String.append_empty] at htrim

/-! ## The parts of a text -/

/-- A text in its parts: a word, white space, and an argument. The argument may be missing, and then
there is no white space behind the word either. -/
structure Cut (text word gap argument : String) : Prop where
  text_eq : text = word ++ gap ++ argument
  word_ne : word ≠ ""
  solid : ∀ c ∈ word.toList, ¬isBlank c = true
  white : IsWhite gap
  bare : Bare argument
  apart : gap = "" ↔ argument = ""

theorem Cut.toList_eq (h : Cut text word gap argument) :
    text.toList = word.toList ++ (gap.toList ++ argument.toList) := by
  rw [h.text_eq, String.toList_append, String.toList_append, List.append_assoc]

theorem Cut.text_ne (h : Cut text word gap argument) : text ≠ "" := by
  rintro rfl
  have hnone := h.toList_eq.symm
  rw [String.toList_empty, List.append_eq_nil_iff, String.toList_eq_nil_iff] at hnone
  exact h.word_ne hnone.1

/-- What follows the word is nothing, or begins with white space. -/
theorem Cut.behind (h : Cut text word gap argument) :
    (gap.toList = [] ∧ argument.toList = []) ∨
      ∃ c rest, gap.toList = c :: rest ∧ isBlank c = true ∧ ∀ c ∈ rest, isBlank c = true := by
  cases hgap : gap.toList with
  | nil =>
    have hnone : argument = "" := h.apart.1 (String.toList_eq_nil_iff.1 hgap)
    exact .inl ⟨rfl, String.toList_eq_nil_iff.2 hnone⟩
  | cons c rest =>
    have hwhite : ∀ b ∈ c :: rest, isBlank b = true := by
      rw [← hgap]
      exact h.white
    exact .inr ⟨c, rest, rfl, hwhite c List.mem_cons_self,
      fun b hb => hwhite b (List.mem_cons_of_mem c hb)⟩

/-- The parts of a text are found. -/
theorem Cut.splitWord_eq (h : Cut text word gap argument) :
    (splitWord text).1 = word ∧ trim (splitWord text).2 = argument := by
  have hsolid : ∀ c ∈ word.toList, (!isBlank c) = true := by
    intro c hc
    simpa using h.solid c hc
  have hsplit : splitWordChars text.toList =
      (word.toList ++ (gap.toList ++ argument.toList).takeWhile (!isBlank ·),
        ((gap.toList ++ argument.toList).dropWhile (!isBlank ·)).drop 1) := by
    rw [splitWordChars, h.toList_eq, List.takeWhile_append_of_pos hsolid,
      List.dropWhile_append_of_pos hsolid]
  simp only [splitWord, hsplit, trim, String.toList_ofList]
  obtain ⟨hgap, hargument⟩ | ⟨c, rest, hgap, hc, hrest⟩ := h.behind
  · have hnone : argument = "" := String.toList_eq_nil_iff.1 hargument
    rw [hgap, hargument, hnone]
    simp [trimChars_eq]
  · -- the first white space behind the word is dropped, and the others are taken off
    have hstop : (!isBlank c) = false := by simp [hc]
    simp only [hgap, List.cons_append, List.takeWhile_cons, List.dropWhile_cons, hstop, if_false,
      Bool.false_eq_true, List.append_nil, List.drop_one, List.tail_cons, trimChars_prepend hrest,
      String.ofList_toList, true_and]
    exact h.bare.trim_eq

/-- A text in its parts has no white space at either end. -/
theorem Cut.bare_text (h : Cut text word gap argument) : Bare text := by
  constructor
  · intro c hc
    have hword : word.toList ≠ [] := mt String.toList_eq_nil_iff.1 h.word_ne
    rw [h.toList_eq, List.head?_append_of_ne_nil _ hword] at hc
    exact h.solid c (List.mem_of_head? hc)
  · intro c hc
    rw [h.toList_eq] at hc
    by_cases hargument : argument.toList = []
    · have hgap : gap.toList = [] := by
        rw [String.toList_eq_nil_iff] at hargument ⊢
        exact h.apart.2 hargument
      rw [hgap, hargument, List.append_nil, List.append_nil] at hc
      exact h.solid c (List.mem_of_getLast? hc)
    · rw [← List.append_assoc, List.getLast?_append_of_ne_nil _ hargument] at hc
      exact h.bare.last c hc

/-- What begins with white space and does not end in it is white space and an argument. -/
theorem exists_gap {rest : List Char} (hfirst : ∀ c, rest.head? = some c → isBlank c = true)
    (hlast : ∀ c, rest.getLast? = some c → ¬isBlank c = true) :
    ∃ gap argument, rest = gap ++ argument.toList ∧ (∀ c ∈ gap, isBlank c = true) ∧
      Bare argument ∧ (gap = [] ↔ argument = "") := by
  obtain ⟨gap, argument, rfl, hgap, hargument⟩ := exists_span isBlank rest
  refine ⟨gap, String.ofList argument, by rw [String.toList_ofList], hgap, ⟨?_, ?_⟩, ?_⟩
  · intro c hc
    rw [String.toList_ofList] at hc
    simp [hargument c hc]
  · intro c hc
    rw [String.toList_ofList] at hc
    apply hlast c
    rw [List.getLast?_append, hc, Option.some_or]
  · rw [String.ofList_eq_empty_iff]
    constructor
    · rintro rfl
      cases argument with
      | nil => rfl
      | cons c argument => exact absurd (hfirst c rfl) (by simp [hargument c rfl])
    · rintro rfl
      rw [List.append_nil] at hlast
      by_contra hne
      exact hlast _ (List.getLast?_eq_some_getLast hne) (hgap _ (List.getLast_mem hne))

/-- Every text with no white space at either end has its parts, unless it is empty. -/
theorem exists_cut (h : Bare text) (hne : text ≠ "") :
    ∃ word gap argument, Cut text word gap argument := by
  have htext : text.toList ≠ [] := mt String.toList_eq_nil_iff.1 hne
  obtain ⟨word, rest, hsplit, hsolid, hrest⟩ := exists_span (!isBlank ·) text.toList
  have hfirst : ∀ c, rest.head? = some c → isBlank c = true := by
    intro c hc
    simpa using hrest c hc
  have hlast : ∀ c, rest.getLast? = some c → ¬isBlank c = true := by
    intro c hc
    apply h.last c
    rw [hsplit, List.getLast?_append, hc, Option.some_or]
  have hword : word ≠ [] := by
    -- else the text would begin with white space
    rintro rfl
    obtain ⟨c, hc⟩ := Option.ne_none_iff_exists'.1 (mt List.head?_eq_none_iff.1 htext)
    exact h.first c hc (hfirst c (by rwa [hsplit, List.nil_append] at hc))
  obtain ⟨gap, argument, rfl, hgap, hargument, hapart⟩ := exists_gap hfirst hlast
  refine ⟨String.ofList word, String.ofList gap, argument, ?_, ?_, ?_, ?_, hargument, ?_⟩
  · rw [← String.toList_inj, hsplit, String.toList_append, String.toList_append,
      String.toList_ofList, String.toList_ofList, List.append_assoc]
  · rwa [ne_eq, String.ofList_eq_empty_iff]
  · rw [String.toList_ofList]
    intro c hc
    simpa using hsolid c hc
  · rwa [IsWhite, String.toList_ofList]
  · rwa [String.ofList_eq_empty_iff]

end Text

end QueryConsole
