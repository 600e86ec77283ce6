import GraphTypes.Proofs.Resolver.Imports

/-!
# Templates and what is filled into them

The expression of a reference may hold the mark `{T}` any number of times; each stands for the
identifier of the type that the reference replaces. `Filled` says what comes of that: the template
is cut at its marks, and the identifier is put between the pieces. As no mark overlaps another,
there is one way to cut only, and `filled_iff` says that `fillIn` finds it.
-/

namespace GraphTypes.Imports

open Config

/-! ### Filling in -/

/-- What stands for an identifier in a template. -/
def mark : List Char := ['\x7b', 'T', '\x7d']

/-- A template and the text that it becomes when `name` is put in place of all its marks. -/
inductive Filled (name : List Char) : List Char → List Char → Prop
  | last {piece : List Char} (free : ¬ mark <:+: piece) : Filled name piece piece
  | next {piece rest text : List Char} (free : ¬ mark <:+: piece) (filled : Filled name rest text) :
    Filled name (piece ++ mark ++ rest) (piece ++ name ++ text)

variable {name piece back : List Char}

/-- A mark that begins in a piece is not completed by another mark, or by nothing, behind it. -/
theorem mark_prefix_of_append {c : Char} (h : mark <+: c :: (piece ++ back))
    (hback : back = [] ∨ mark <+: back) : mark <+: c :: piece := by
  rcases piece with _ | ⟨d, _ | ⟨e, piece⟩⟩
  · rcases hback with rfl | ⟨after, rfl⟩ <;> simp [mark] at h
  · rcases hback with rfl | ⟨after, rfl⟩ <;> simp [mark] at h
  · simpa [mark] using h

theorem fillIn_cons {c : Char} {rest : List Char} (h : ¬ mark <+: c :: rest) :
    fillIn name (c :: rest) = c :: fillIn name rest := by
  rw [fillIn]
  rintro after rfl rfl
  exact h (List.prefix_append mark after)

/-- What stands before a mark, or at the end, stays as it is. -/
theorem fillIn_piece (free : ¬ mark <:+: piece) (hback : back = [] ∨ mark <+: back) :
    fillIn name (piece ++ back) = piece ++ fillIn name back := by
  induction piece with
  | nil => rfl
  | cons c rest ih =>
    -- A mark in front would be one in the piece, whatever is behind it.
    have begins : ¬ mark <+: c :: (rest ++ back) :=
      fun h => free (mark_prefix_of_append h hback).isInfix
    have inside : ¬ mark <:+: rest := fun h => free (h.trans (List.suffix_cons c rest).isInfix)
    rw [List.cons_append, List.cons_append, fillIn_cons begins, ih inside]

theorem Filled.cons {c : Char} {rest text : List Char} (h : ¬ mark <+: c :: rest)
    (filled : Filled name rest text) : Filled name (c :: rest) (c :: text) := by
  have longer : ∀ {piece : List Char}, ¬ mark <:+: piece → ¬ mark <+: c :: piece →
      ¬ mark <:+: c :: piece := by
    intro piece free begins
    rw [List.infix_cons_iff]
    exact not_or_intro begins free
  -- The character joins the first piece of the rest, which stays without a mark.
  cases filled with
  | last free => exact .last (longer free h)
  | @next piece rest text free filled =>
    have begins : ¬ mark <+: c :: piece := by
      intro begins
      apply h
      rw [List.append_assoc]
      exact begins.trans (List.prefix_append (c :: piece) _)
    exact .next (longer free begins) filled

/-- Filling in puts the name in place of every mark and changes nothing else. -/
theorem filled_iff {template text : List Char} :
    Filled name template text ↔ fillIn name template = text := by
  constructor
  · intro h
    induction h with
    | @last piece free =>
      have whole : fillIn name (piece ++ []) = piece ++ fillIn name [] :=
        fillIn_piece free (Or.inl rfl)
      rwa [List.append_nil, fillIn, List.append_nil] at whole
    | @next piece rest text free _ ih =>
      rw [List.append_assoc, fillIn_piece free (Or.inr (List.prefix_append mark rest)),
        List.append_assoc, ← ih]
      rfl
  · rintro rfl
    induction template using fillIn.induct with
    | case1 rest ih =>
      have free : ¬ mark <:+: [] := by decide
      exact .next free ih
    | case2 c rest begins ih =>
      have apart : ¬ mark <+: c :: rest := by
        rintro ⟨after, heq⟩
        cases heq
        exact begins after rfl rfl
      rw [fillIn_cons apart]
      exact ih.cons apart
    | case3 => exact .last (by decide)

/-! ### Expressions -/

/-- What a reference is written as before anything is filled in: an expression as it stands, a
symbol under its local name and with its type arguments. -/
inductive IsTemplate (imports : Imports) : Reference → String → Prop
  | inline (text : String) : IsTemplate imports (.inline text) text
  | external {ref : ExternalRef} {localName : String}
    (imported : imports.localName? ref = some localName) :
    IsTemplate imports (.external ref) (localName ++ ref.typeArguments)

theorem IsTemplate.eq_template {imports : Imports} {reference : Reference} {text : String}
    (h : imports.IsTemplate reference text) : imports.template reference = text := by
  cases h with
  | inline => rfl
  | external imported => rw [template, imported, Option.getD_some]

end GraphTypes.Imports
