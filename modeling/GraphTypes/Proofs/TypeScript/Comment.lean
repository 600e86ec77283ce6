import Mathlib.Data.List.Chain
import GraphTypes.Proofs.Text.Line
import GraphTypes.TypeScript.Comment

/-!
# Doc comments end where they should

A description may hold anything, the end of a comment too. It is escaped, cut into lines, and the
lines are trimmed and put behind each other again. No step makes a star stand in front of a slash
(`EndFree`), so the only end of a doc comment is the one that it is given (`docComment_closed`). The
lines of the comment are lines of the text, and so all of these are indented
(`endedLines_indented`).
-/

namespace GraphTypes.TypeScript

open GraphTypes.Text

/-! ### Indented lines -/

theorem indented_append (indent : String) (code more : List String) :
    indented indent (code ++ more) = indented indent code ++ indented indent more := by
  rw [indented, List.map_append, String.join_append]
  rfl

theorem indented_singleton (indent line : String) :
    indented indent [line] = indent ++ line ++ "\n" := by
  simp [indented, String.join_cons]

theorem indented_flatMap {α : Type} (indent : String) (code : α → List String) (xs : List α) :
    indented indent (xs.flatMap code) = String.join (xs.map fun x => indented indent (code x)) := by
  induction xs with
  | nil => rfl
  | cons x rest ih =>
    rw [List.flatMap_cons, indented_append, ih, List.map_cons, String.join_cons]

/-- Lines behind a doc comment. -/
theorem indented_comment (indent line : String) (description : Option String) :
    indented indent (commentLines description ++ [line]) =
      docComment indent description ++ indent ++ line ++ "\n" := by
  rw [indented_append, indented_singleton, docComment]
  simp only [String.append_assoc]

/-! ### Texts without the end of a comment -/

/-- A text in which no star stands directly in front of a slash. -/
def EndFree (text : List Char) : Prop := text.IsChain fun c d => ¬ (c = '*' ∧ d = '/')

theorem EndFree.of_isInfix {text part : List Char} (h : EndFree text) (inside : part <:+: text) :
    EndFree part := by
  obtain ⟨before, after, rfl⟩ := inside
  exact h.left_of_append.right_of_append

theorem EndFree.append {front back : List Char} (hfront : EndFree front) (hback : EndFree back)
    (apart : front.getLast? ≠ some '*' ∨ back.head? ≠ some '/') : EndFree (front ++ back) := by
  refine List.isChain_append.mpr ⟨hfront, hback, ?_⟩
  rintro c hc d hd ⟨rfl, rfl⟩
  exact apart.elim (· hc) (· hd)

theorem endFree_of_forall_ne {text : List Char} (h : ∀ c ∈ text, c ≠ '*') : EndFree text := by
  induction text with
  | nil => exact .nil
  | cons c rest ih =>
    obtain ⟨hc, hrest⟩ := List.forall_mem_cons.mp h
    exact List.IsChain.cons (ih hrest) fun d _ ends => hc ends.1

theorem head?_escapeCommentEnd (text : List Char) :
    (escapeCommentEnd text).head? = text.head? := by
  fun_cases escapeCommentEnd text <;> rfl

theorem endFree_escapeCommentEnd (text : List Char) : EndFree (escapeCommentEnd text) := by
  fun_induction escapeCommentEnd text with
  | case1 rest ih =>
    have slash : EndFree ('/' :: escapeCommentEnd rest) := .cons ih (by simp)
    exact .cons (.cons slash (by simp)) (by simp)
  | case2 c rest open' ih =>
    refine List.IsChain.cons ih ?_
    rintro d hd ⟨rfl, rfl⟩
    -- What comes behind the star was there before, and would have been escaped.
    rw [head?_escapeCommentEnd] at hd
    obtain ⟨after, hrest⟩ := List.head?_eq_some_iff.mp hd
    exact open' after rfl hrest
  | case3 => exact .nil

/-! ### Lines -/

theorem isPrefix_chompReturn (line : List Char) : chompReturn line <+: line := by
  rw [chompReturn]
  split
  · exact List.dropLast_prefix line
  · exact List.prefix_rfl

theorem isPrefix_trimEnd (text : List Char) : trimEnd text <+: text := by
  rw [trimEnd, ← List.reverse_suffix, List.reverse_reverse]
  exact List.dropWhile_suffix _

theorem isInfix_of_mem_lines_go {line text l : List Char} (h : l ∈ lines.go line text) :
    l <:+: line.reverse ++ text := by
  fun_induction lines.go line text with
  | case1 line empty => cases h
  | case2 line some =>
    rw [List.mem_singleton.mp h]
    exact (List.prefix_append _ _).isInfix
  | case3 line rest ih =>
    rcases List.mem_cons.mp h with rfl | h
    · exact ((isPrefix_chompReturn _).trans (List.prefix_append _ _)).isInfix
    · exact (ih h).trans ((List.suffix_cons _ _).trans (List.suffix_append _ _)).isInfix
  | case4 line c rest more ih =>
    have moved : (c :: line).reverse ++ rest = line.reverse ++ c :: rest := by simp
    exact moved ▸ ih h

/-- The lines of a text are parts of it. -/
theorem isInfix_of_mem_lines {text l : List Char} (h : l ∈ lines text) : l <:+: text :=
  isInfix_of_mem_lines_go h

theorem endFree_commentLine {line : List Char} (h : EndFree line) : EndFree (commentLine line) := by
  rw [commentLine]
  split
  · exact .cons (.cons .nil (by simp)) (by simp)
  · have front : EndFree [' ', '*', ' '] := by
      exact .cons (.cons (.cons .nil (by simp)) (by simp)) (by simp)
    exact front.append (h.of_isInfix (isPrefix_trimEnd line).isInfix) (Or.inl (by simp))

section Indented

variable {indent : String} (blanks : ∀ c ∈ indent.toList, c = ' ')

include blanks

theorem endFree_indent : EndFree indent.toList :=
  endFree_of_forall_ne fun c hc => by
    rw [blanks c hc]
    decide

theorem getLast?_indent_ne : indent.toList.getLast? ≠ some '*' := by
  intro star
  have blank := blanks _ (List.mem_of_getLast? star)
  cases blank

theorem endFree_indented {code : List String} (h : ∀ line ∈ code, EndFree line.toList) :
    EndFree (indented indent code).toList := by
  induction code with
  | nil => exact .nil
  | cons line rest ih =>
    obtain ⟨hline, hrest⟩ := List.forall_mem_cons.mp h
    have first : EndFree ((indent.toList ++ line.toList) ++ ['\n']) :=
      ((endFree_indent blanks).append hline (Or.inl (getLast?_indent_ne blanks))).append
        (.singleton _) (Or.inr (by simp))
    have split : (indented indent (line :: rest)).toList =
        ((indent.toList ++ line.toList) ++ ['\n']) ++ (indented indent rest).toList := by
      rw [← List.singleton_append, indented_append, indented_singleton]
      simp
    rw [split]
    exact first.append (ih hrest) (Or.inl (by simp))

/-- A doc comment is empty, or ends at its end and nowhere before. -/
theorem docComment_closed (description : Option String) : docComment indent description = "" ∨
    ∃ inner : String, EndFree ('*' :: inner.toList) ∧
      docComment indent description = indent ++ "/**" ++ inner ++ "*/\n" := by
  rw [docComment, commentLines]
  generalize trimChars (description.getD "").toList = text
  have free : ∀ line ∈ lines (escapeCommentEnd text), EndFree line :=
    fun line hline => (endFree_escapeCommentEnd text).of_isInfix (isInfix_of_mem_lines hline)
  split
  · exact Or.inl rfl
  · right
    split
    · next line only =>
      rw [only] at free
      refine ⟨" " ++ String.ofList line ++ " ", ?_, ?_⟩
      · have front : EndFree ['*', ' '] := .cons (.singleton _) (by simp)
        have text : EndFree (['*', ' '] ++ line) :=
          front.append (free line (List.mem_singleton_self line)) (Or.inl (by simp))
        simpa using text.append (.singleton ' ') (Or.inr (by simp))
      · rw [indented_singleton]
        simp [← String.toList_inj]
    · let middle := (lines (escapeCommentEnd text)).map fun line =>
        String.ofList (commentLine line)
      refine ⟨"\n" ++ indented indent middle ++ indent ++ " ", ?_, ?_⟩
      · have front : EndFree ['*', '\n'] := .cons (.singleton _) (by simp)
        have inside : EndFree (indented indent middle).toList := by
          apply endFree_indented blanks
          rw [List.forall_mem_map]
          intro line hline
          rw [String.toList_ofList]
          exact endFree_commentLine (free line hline)
        have slash : indent.toList.head? ≠ some '/' := by
          intro slash
          have blank := blanks _ (List.mem_of_head? slash)
          cases blank
        have whole : EndFree ((['*', '\n'] ++ (indented indent middle).toList) ++ indent.toList) :=
          (front.append inside (Or.inl (by simp))).append (endFree_indent blanks) (Or.inr slash)
        simpa using whole.append (.singleton ' ') (Or.inr (by simp))
      · rw [indented_append, indented_append, indented_singleton, indented_singleton]
        simp [middle, ← String.toList_inj]

end Indented

/-! ### Ends and lines of the whole text -/

theorem EndFree.ne {text front back : List Char} (h : EndFree text) :
    text ≠ front ++ '*' :: '/' :: back := by
  rintro rfl
  exact (List.isChain_cons_cons.mp h.right_of_append).1 ⟨rfl, rfl⟩

/-- A text that goes on with the end of a comment has no other end of one. -/
theorem EndFree.eq_of_append {text front back : List Char} (h : EndFree text)
    (same : text ++ ['*', '/', '\n'] = front ++ '*' :: '/' :: back) : back = ['\n'] := by
  have star : EndFree (text ++ ['*']) := h.append (.singleton _) (Or.inr (by simp))
  have split : (text ++ ['*']) ++ ['/', '\n'] = (front ++ ['*']) ++ '/' :: back := by
    simpa using same
  rcases List.append_eq_append_iff.mp split with ⟨more, -, slash⟩ | ⟨more, ends, slash⟩
  · -- The other end is not behind the given one.
    cases more with
    | nil => exact (List.cons.inj slash).2.symm
    | cons c others =>
      obtain ⟨rfl, rest⟩ := List.cons.inj slash
      cases others <;> simp at rest
  · -- Neither is it in front of it.
    cases more with
    | nil => exact (List.cons.inj slash).2
    | cons c others =>
      obtain ⟨rfl, -⟩ := List.cons.inj slash
      exact absurd (by simpa using ends) star.ne

theorem newline_not_mem_lines_go {line text l : List Char} (h : '\n' ∉ line)
    (hl : l ∈ lines.go line text) : '\n' ∉ l := by
  fun_induction lines.go line text with
  | case1 line empty => cases hl
  | case2 line some =>
    rw [List.mem_singleton.mp hl, List.mem_reverse]
    exact h
  | case3 line rest ih =>
    rcases List.mem_cons.mp hl with rfl | hl
    · exact fun newline => h (List.mem_reverse.mp ((isPrefix_chompReturn _).subset newline))
    · exact ih List.not_mem_nil hl
  | case4 line c rest more ih =>
    refine ih ?_ hl
    rw [List.mem_cons, not_or]
    exact ⟨fun newline => more newline.symm, h⟩

/-- No line of a comment is cut in two. -/
theorem newline_not_mem_commentLines (description : Option String) :
    ∀ line ∈ commentLines description, '\n' ∉ line.toList := by
  rw [commentLines]
  generalize trimChars (description.getD "").toList = text
  have plain : ∀ line ∈ lines (escapeCommentEnd text), '\n' ∉ line :=
    fun line hline => newline_not_mem_lines_go List.not_mem_nil hline
  split
  · exact List.forall_mem_nil _
  · split
    · next line only =>
      rw [only, List.forall_mem_singleton] at plain
      simpa using plain
    · simp only [List.forall_mem_append, List.forall_mem_singleton, List.forall_mem_map,
        String.toList_ofList]
      refine ⟨⟨by decide, fun line hline => ?_⟩, by decide⟩
      rw [commentLine]
      split
      · decide
      · have kept := (isPrefix_trimEnd line).subset
        simpa using fun newline => plain line hline (kept newline)

/-- The lines of a text that are ended by a line feed. -/
def endedLines (text : String) : List (List Char) := (text.toList.splitOn '\n').dropLast

/-- The ended lines of indented code are the lines of the code. -/
theorem endedLines_indented {indent : String} {code : List String}
    (h : ∀ line ∈ code, '\n' ∉ (indent ++ line).toList) :
    endedLines (indented indent code) = code.map fun line => (indent ++ line).toList := by
  have split : (indented indent code).toList.splitOn '\n' =
      (code.map fun line => (indent ++ line).toList) ++ [[]] := by
    induction code with
    | nil => rfl
    | cons line rest ih =>
      obtain ⟨hline, hrest⟩ := List.forall_mem_cons.mp h
      have first : (indented indent (line :: rest)).toList =
          (indent ++ line).toList ++ '\n' :: (indented indent rest).toList := by
        rw [← List.singleton_append, indented_append, indented_singleton]
        simp
      rw [first, List.splitOn_append_cons_self_of_not_mem hline, ih hrest]
      rfl
  rw [endedLines, split, List.dropLast_concat]

/-! ### The result -/

/-- A text is one comment, indented throughout. -/
structure IsComment (indent text : String) : Prop where
  framed : ∃ inner, text = indent ++ "/**" ++ inner ++ "*/\n"
  closed : ∀ front back, text = front ++ "*/" ++ back → back = "\n"
  indented : ∀ line ∈ endedLines text, indent.toList <+: line

theorem commentLines_eq_nil_iff {description : Option String} :
    commentLines description = [] ↔ ∀ text ∈ description, ∀ c ∈ text.toList, isBlank c := by
  have trimmed : commentLines description = [] ↔
      trimChars (description.getD "").toList = [] := by
    rw [commentLines]
    split
    · next blank => simp [blank]
    · next present => split <;> exact iff_of_false (by simp) present
  rw [trimmed, trimChars_eq_nil_iff]
  cases description <;> simp

theorem indented_eq_empty_iff {indent : String} {code : List String} :
    indented indent code = "" ↔ code = [] := by
  cases code with
  | nil => exact iff_of_true rfl rfl
  | cons line rest =>
    rw [← List.singleton_append, indented_append, indented_singleton]
    refine iff_of_false (fun empty => ?_) (by simp)
    simpa using congrArg String.toList empty

/-- A description that is missing or blank leaves no comment. Any other one leaves a comment that
ends at its end and nowhere before, whatever the description holds, and every line of which is
indented. -/
theorem isComment_docComment {indent : String} (blanks : ∀ c ∈ indent.toList, c = ' ')
    (description : Option String) :
    (docComment indent description = "" ↔
      ∀ text ∈ description, ∀ c ∈ text.toList, isBlank c) ∧
    (docComment indent description ≠ "" → IsComment indent (docComment indent description)) := by
  refine ⟨indented_eq_empty_iff.trans commentLines_eq_nil_iff, fun some => ?_⟩
  obtain none | ⟨inner, free, comment⟩ := docComment_closed blanks description
  · exact absurd none some
  have opened : EndFree ('/' :: '*' :: '*' :: inner.toList) :=
    .cons (.cons free (by simp)) (by simp)
  have body : EndFree (indent.toList ++ '/' :: '*' :: '*' :: inner.toList) :=
    (endFree_indent blanks).append opened (Or.inl (getLast?_indent_ne blanks))
  constructor
  case framed => exact ⟨inner, comment⟩
  case closed =>
    intro front back split
    rw [comment] at split
    have same : (indent.toList ++ '/' :: '*' :: '*' :: inner.toList) ++ ['*', '/', '\n'] =
        front.toList ++ '*' :: '/' :: back.toList := by
      simpa [← String.toList_inj] using split
    exact String.toList_inj.mp (body.eq_of_append same)
  case indented =>
    have whole : ∀ line ∈ commentLines description, '\n' ∉ (indent ++ line).toList := by
      intro line hline
      rw [String.toList_append, List.mem_append, not_or]
      exact ⟨fun newline => absurd (blanks _ newline) (by decide),
        newline_not_mem_commentLines description line hline⟩
    rw [docComment, endedLines_indented whole, List.forall_mem_map]
    intro line _
    rw [String.toList_append]
    exact List.prefix_append _ _

/-- Ends of comments that overlap, one that is cut by a line feed, and a line without text. -/
theorem isComment_docComment_ends :
    let description := some " **// */*/ \n \t \n*\r\n/ done(); "
    (∀ c ∈ "  ".toList, c = ' ') ∧ docComment "  " description ≠ "" ∧
      IsComment "  " (docComment "  " description) := by
  intro description
  have blanks : ∀ c ∈ "  ".toList, c = ' ' := by simp
  have some : docComment "  " description ≠ "" := by decide +kernel
  exact ⟨blanks, some, (isComment_docComment blanks description).2 some⟩

end GraphTypes.TypeScript
