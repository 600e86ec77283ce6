import GraphTypes.Proofs.TypeScript.Comment
import GraphTypes.TypeScript.Member

/-!
# Reading literals off code

A reader of code that knows only two things: where a comment begins and ends, and where a string
literal does. What it reads off code that is put together from doc comments, literals and other text
is what the literals were made for. So a description cannot pass for a literal, nor hide one.
-/

namespace GraphTypes.TypeScript

/-! ### The reader -/

/-- Where in a text of code a reader is. -/
inductive Place where
  | code
  | comment
  /-- In a string literal, behind the given characters, of which the last comes first. -/
  | literal (read : List Char)

/-- The string literals that a reader finds from where it is. A literal has no escapes in it, and
one that is not ended is not found. -/
def literalsFrom : Place → List Char → List (List Char)
  | _, [] => []
  | .code, '/' :: '*' :: rest => literalsFrom .comment rest
  | .code, '"' :: rest => literalsFrom (.literal []) rest
  | .code, _ :: rest => literalsFrom .code rest
  | .comment, '*' :: '/' :: rest => literalsFrom .code rest
  | .comment, _ :: rest => literalsFrom .comment rest
  | .literal read, '"' :: rest => read.reverse :: literalsFrom .code rest
  | .literal read, c :: rest => literalsFrom (.literal (c :: read)) rest

/-- The string literals of code, in order. What stands in comments does not count. -/
def stringLiterals (code : String) : List String :=
  (literalsFrom .code code.toList).map String.ofList

example : stringLiterals "enum A \x7b /** \"no\" */ B = \"C\", D = \"E\" \x7d" = ["C", "E"] := by
  decide +kernel

/-! ### What it reads -/

/-- A text in which neither a literal nor a comment begins. -/
def IsPlain (text : List Char) : Prop := ∀ c ∈ text, c ≠ '"' ∧ c ≠ '/'

theorem literalsFrom_plain {text : List Char} (plain : IsPlain text) (rest : List Char) :
    literalsFrom .code (text ++ rest) = literalsFrom .code rest := by
  induction text with
  | nil => rfl
  | cons c more ih =>
    obtain ⟨⟨quote, slash⟩, plain⟩ := List.forall_mem_cons.mp plain
    rw [List.cons_append, literalsFrom, ih plain]
    · intro _ same
      exact absurd same slash
    · exact quote

/-- A comment goes on to its first end. -/
theorem literalsFrom_comment {inner : List Char} (free : EndFree inner) (rest : List Char) :
    literalsFrom .comment (inner ++ '*' :: '/' :: rest) = literalsFrom .code rest := by
  induction inner with
  | nil => rfl
  | cons c more ih =>
    have tail : EndFree more := List.IsChain.tail free
    rw [List.cons_append, literalsFrom, ih tail]
    -- The end may not be met before the given one, not even with the first star of it.
    rintro after rfl slash
    cases more with
    | nil => simp at slash
    | cons d others =>
      obtain ⟨rfl, -⟩ := List.cons.inj slash
      exact (List.isChain_cons_cons.mp free).1 ⟨rfl, rfl⟩

theorem literalsFrom_literal {text : List Char} (h : '"' ∉ text) (rest read : List Char) :
    literalsFrom (.literal read) (text ++ '"' :: rest) =
      (read.reverse ++ text) :: literalsFrom .code rest := by
  induction text generalizing read with
  | nil => rw [List.nil_append, literalsFrom, List.append_nil]
  | cons c more ih =>
    rw [List.mem_cons, not_or] at h
    rw [List.cons_append, literalsFrom, ih h.2, List.reverse_cons, List.append_assoc]
    · rfl
    · exact fun same => h.1 same.symm

/-! ### Code that is put together -/

theorem stringLiterals_plain {text : String} (plain : IsPlain text.toList) (rest : String) :
    stringLiterals (text ++ rest) = stringLiterals rest := by
  rw [stringLiterals, String.toList_append, literalsFrom_plain plain, stringLiterals]

theorem stringLiterals_literal {name : String} (h : '"' ∉ name.toList) (rest : String) :
    stringLiterals (literal name ++ rest) = name :: stringLiterals rest := by
  have opened : (literal name ++ rest).toList =
      '"' :: (name.toList ++ '"' :: rest.toList) := by simp [literal]
  rw [stringLiterals, opened, literalsFrom, literalsFrom_literal h, List.map_cons, List.reverse_nil,
    List.nil_append, String.ofList_toList, stringLiterals]

theorem stringLiterals_docComment {indent : String} (blanks : ∀ c ∈ indent.toList, c = ' ')
    (description : Option String) (rest : String) :
    stringLiterals (docComment indent description ++ rest) = stringLiterals rest := by
  rcases docComment_closed blanks description with none | ⟨inner, free, comment⟩
  · rw [none, String.empty_append]
  · have plain : IsPlain indent.toList := by
      intro c hc
      rw [blanks c hc]
      decide
    have opened : (docComment indent description ++ rest).toList =
        indent.toList ++
          '/' :: '*' :: ('*' :: inner.toList ++ '*' :: '/' :: '\n' :: rest.toList) := by
      simp [comment]
    have newline : IsPlain ['\n'] := by simp [IsPlain]
    rw [stringLiterals, opened, literalsFrom_plain plain, literalsFrom, literalsFrom_comment free]
    exact congrArg (List.map String.ofList) (literalsFrom_plain newline rest.toList)

/-- A choice between literals offers these. -/
theorem stringLiterals_alternatives {names : List String} (h : ∀ name ∈ names, '"' ∉ name.toList)
    (rest : String) :
    stringLiterals (alternatives (names.map literal) ++ rest) = names ++ stringLiterals rest := by
  cases names with
  | nil =>
    have never : IsPlain "never".toList := by simp [IsPlain]
    exact stringLiterals_plain never rest
  | cons first others =>
    show stringLiterals (String.intercalate " | " ((first :: others).map literal) ++ rest) = _
    induction others generalizing first with
    | nil =>
      obtain ⟨hfirst, -⟩ := List.forall_mem_cons.mp h
      rw [List.map_singleton, String.intercalate_singleton, stringLiterals_literal hfirst]
      rfl
    | cons second more ih =>
      obtain ⟨hfirst, h⟩ := List.forall_mem_cons.mp h
      have bar : IsPlain " | ".toList := by simp [IsPlain]
      rw [List.map_cons, List.map_cons, String.intercalate_cons_cons, String.append_assoc,
        String.append_assoc, stringLiterals_literal hfirst, stringLiterals_plain bar,
        ← List.map_cons, ih second h]
      rfl

end GraphTypes.TypeScript
