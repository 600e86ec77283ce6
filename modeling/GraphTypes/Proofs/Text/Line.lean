import Mathlib.Data.List.TakeWhile
import GraphTypes.Text.Line

/-!
# What trimming and cutting leave

A text is its trimmed form with white space around it, and there is only one such form
(`isTrimOf_iff`). A text is cut at a mark into what has no mark in it and all the rest.
-/

namespace GraphTypes.Text

variable {text inner front back : List Char} {mark : Char}

/-! ### Trimming -/

/-- A text with no white space at its ends. -/
structure IsTrimmed (text : List Char) : Prop where
  first : ∀ c ∈ text.head?, ¬ isBlank c
  last : ∀ c ∈ text.getLast?, ¬ isBlank c

/-- The first text is the second without the white space at its ends. -/
structure IsTrimOf (inner text : List Char) : Prop where
  trimmed : IsTrimmed inner
  padded : ∃ front back, text = front ++ (inner ++ back) ∧
    (∀ c ∈ front, isBlank c) ∧ ∀ c ∈ back, isBlank c

theorem dropWhile_eq_self {p : Char → Bool} (h : ∀ c ∈ text.head?, ¬ p c) :
    text.dropWhile p = text := by
  cases text with
  | nil => rfl
  | cons c rest => exact List.dropWhile_cons_of_neg (h c rfl)

/-- Dropping stops in front of a character that is not to be dropped. -/
theorem not_head?_dropWhile (p : Char → Bool) (text : List Char) :
    ∀ c ∈ (text.dropWhile p).head?, ¬ p c := by
  intro c hc
  have stopped := List.head?_dropWhile_not p text
  rw [Option.mem_def.mp hc] at stopped
  simpa using stopped

/-- The white space that is dropped at the end of a text. -/
theorem exists_eq_trimEnd_append (text : List Char) :
    ∃ back, text = trimEnd text ++ back ∧ ∀ c ∈ back, isBlank c := by
  refine ⟨(text.reverse.takeWhile isBlank).reverse, ?_, ?_⟩
  · rw [trimEnd, ← List.reverse_append, List.takeWhile_append_dropWhile, List.reverse_reverse]
  · intro c hc
    exact List.mem_takeWhile_imp (List.mem_reverse.mp hc)

theorem isTrimmed_trimChars (text : List Char) : IsTrimmed (trimChars text) where
  first := by
    obtain ⟨back, split, -⟩ := exists_eq_trimEnd_append (text.dropWhile isBlank)
    intro c hc
    -- What is dropped at the end leaves the first character where it is.
    apply not_head?_dropWhile isBlank text c
    rw [split, List.head?_append, ← trimChars, Option.mem_def.mp hc]
    rfl
  last := by
    intro c hc
    rw [trimChars, trimEnd, List.getLast?_reverse] at hc
    exact not_head?_dropWhile isBlank _ c hc

theorem trimChars_padded (trimmed : IsTrimmed inner) (hfront : ∀ c ∈ front, isBlank c)
    (hback : ∀ c ∈ back, isBlank c) : trimChars (front ++ (inner ++ back)) = inner := by
  rw [trimChars, List.dropWhile_append_of_pos hfront]
  cases inner with
  | nil =>
    have none : back.dropWhile isBlank = [] := List.dropWhile_eq_nil_iff.mpr hback
    rw [List.nil_append, none]
    rfl
  | cons c rest =>
    have begins : ∀ d ∈ ((c :: rest) ++ back).head?, ¬ isBlank d := trimmed.first
    have ends : ∀ d ∈ (c :: rest).reverse.head?, ¬ isBlank d := by
      rw [List.head?_reverse]
      exact trimmed.last
    have blank : ∀ d ∈ back.reverse, isBlank d := fun d hd => hback d (List.mem_reverse.mp hd)
    rw [dropWhile_eq_self begins, trimEnd, List.reverse_append,
      List.dropWhile_append_of_pos blank, dropWhile_eq_self ends, List.reverse_reverse]

/-- A text has one trimmed form. -/
theorem isTrimOf_iff : IsTrimOf inner text ↔ inner = trimChars text := by
  constructor
  · rintro ⟨trimmed, front, back, rfl, hfront, hback⟩
    exact (trimChars_padded trimmed hfront hback).symm
  · rintro rfl
    obtain ⟨back, split, hback⟩ := exists_eq_trimEnd_append (text.dropWhile isBlank)
    refine ⟨isTrimmed_trimChars text, text.takeWhile isBlank, back, ?_,
      fun c hc => List.mem_takeWhile_imp hc, hback⟩
    rw [trimChars, ← split, List.takeWhile_append_dropWhile]

theorem IsTrimmed.isTrimOf_self (h : IsTrimmed text) : IsTrimOf text text :=
  ⟨h, [], [], by simp, by simp, by simp⟩

theorem trimChars_eq_nil_iff : trimChars text = [] ↔ ∀ c ∈ text, isBlank c := by
  constructor
  · intro empty
    obtain ⟨-, front, back, split, hfront, hback⟩ := isTrimOf_iff.mpr (Eq.refl (trimChars text))
    rw [empty, List.nil_append] at split
    intro c hc
    rw [split] at hc
    exact (List.mem_append.mp hc).elim (hfront c) (hback c)
  · intro blank
    have trimmed : IsTrimmed [] := ⟨by simp, by simp⟩
    simpa using trimChars_padded trimmed blank (by simp : ∀ c ∈ [], isBlank c)

theorem trimChars_ne_nil (h : ∃ c ∈ text, ¬ isBlank c) : trimChars text ≠ [] := by
  rw [Ne, trimChars_eq_nil_iff]
  simpa using h

/-! ### Cutting -/

theorem cutAt_append (h : mark ∉ front) :
    cutAt mark (front ++ mark :: back) = some (front, back) := by
  induction front with
  | nil => rw [List.nil_append, cutAt, if_pos rfl]
  | cons c rest ih =>
    rw [List.mem_cons, not_or] at h
    rw [List.cons_append, cutAt, if_neg (Ne.symm h.1), ih h.2]
    rfl

theorem cutAt_eq_none (h : mark ∉ text) : cutAt mark text = none := by
  induction text with
  | nil => rfl
  | cons c rest ih =>
    rw [List.mem_cons, not_or] at h
    rw [cutAt, if_neg (Ne.symm h.1), ih h.2]
    rfl

end GraphTypes.Text
