import Mathlib.Data.List.Infix

/-!
# Search — a word in a text that is put together from parts

`occurs word text` searches the text from left to right.  A letter that the word does not use cuts
the text into two parts that can be searched one by one.
-/

namespace Lib

variable {α : Type}

/-- A word cannot lie across a letter it does not use. -/
theorem infix_append_cons_iff {word before after : List α} {letter : α} (h : letter ∉ word) :
    word <:+: before ++ letter :: after ↔ word <:+: before ∨ word <:+: after := by
  constructor
  · rintro ⟨s, t, heq⟩
    rw [List.append_assoc] at heq
    rcases List.append_eq_append_iff.1 heq with ⟨mid, hbefore, hrest⟩ | ⟨mid, hs, hafter⟩
    · -- the word starts in the first part, and the cut lies behind it
      rcases List.append_eq_append_iff.1 hrest with ⟨mid', hmid, _⟩ | ⟨mid', hword, hcut⟩
      · exact Or.inl ⟨s, mid', by rw [hbefore, hmid, List.append_assoc]⟩
      · cases mid' with
        | nil =>
            rw [List.append_nil] at hword
            exact Or.inl ⟨s, [], by rw [hbefore, hword, List.append_nil]⟩
        | cons a mid' =>
            rw [List.cons_append, List.cons.injEq] at hcut
            rw [hword, hcut.1] at h
            exact absurd (List.mem_append_right _ List.mem_cons_self) h
    · -- the word starts at the cut or behind it
      cases mid with
      | nil =>
          cases word with
          | nil =>
              exact Or.inl List.nil_infix
          | cons a word =>
              rw [List.nil_append, List.cons_append, List.cons.injEq] at hafter
              rw [hafter.1] at h
              exact absurd List.mem_cons_self h
      | cons a mid =>
          rw [List.cons_append, List.cons.injEq] at hafter
          exact Or.inr ⟨mid, t, by rw [hafter.2, List.append_assoc]⟩
  · rintro (h | h)
    · exact List.infix_append_of_infix_left h
    · exact List.infix_append_of_infix_right (List.infix_cons h)

variable [BEq α] [LawfulBEq α]

/-- The word begins at some position of the text. -/
def occurs (word text : List α) : Bool :=
  text.tails.any fun tail => word.isPrefixOf tail

theorem occurs_iff {word text : List α} : occurs word text = true ↔ word <:+: text := by
  simp only [occurs, List.any_eq_true, List.mem_tails, List.isPrefixOf_iff_prefix]
  constructor
  · rintro ⟨tail, hsuffix, hprefix⟩
    exact List.infix_iff_prefix_suffix.2 ⟨tail, hprefix, hsuffix⟩
  · intro h
    rcases List.infix_iff_prefix_suffix.1 h with ⟨tail, hprefix, hsuffix⟩
    exact ⟨tail, hsuffix, hprefix⟩

theorem occurs_append_cons {word before after : List α} {letter : α} (h : letter ∉ word) :
    occurs word (before ++ letter :: after) = (occurs word before || occurs word after) := by
  rw [Bool.eq_iff_iff, Bool.or_eq_true, occurs_iff, occurs_iff, occurs_iff,
    infix_append_cons_iff h]

end Lib
