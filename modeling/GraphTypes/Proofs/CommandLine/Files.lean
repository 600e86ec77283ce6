import GraphTypes.CommandLine.Files
import GraphTypes.Proofs.Config.Reference

/-!
# Writing a file

A file is written at the place that its path leads to, and nothing else changes: all other places
hold what they held. Writing takes no directory away, so every path that could be walked before can
be walked afterwards (`walk_put`), and what was written can be read back by the path it was written
to.
-/

namespace GraphTypes.CommandLine.FileTree

open Config

variable {t t' : FileTree} {p q destination : Place} {text path : String}

/-! ### Files -/

theorem bytes?_put_self (t : FileTree) (p : Place) (text : String) :
    (t.put p text).bytes? p = some text.toUTF8 := by
  rw [bytes?, put, List.lookup_cons, beq_self_eq_true]

theorem bytes?_put_of_ne (differs : q ≠ p) : (t.put p text).bytes? q = t.bytes? q := by
  have others : ∀ files : List (Place × ByteArray),
      (files.filter (·.1 != p)).lookup q = files.lookup q := by
    intro files
    induction files with
    | nil => rfl
    | cons file rest ih =>
      obtain ⟨r, bytes⟩ := file
      by_cases same : r = p
      · subst same
        rw [List.filter_cons_of_neg (by simp), ih, List.lookup_cons, beq_false_of_ne differs]
      · rw [List.filter_cons_of_pos (by simp [same]), List.lookup_cons, List.lookup_cons, ih]
  rw [bytes?, put, List.lookup_cons, beq_false_of_ne differs, others, bytes?]

/-! ### Directories -/

theorem isDirectory_put (h : t.isDirectory q) : (t.put p text).isDirectory q := by
  rw [isDirectory, Bool.or_eq_true, List.any_eq_true] at h ⊢
  refine h.imp_right ?_
  rintro ⟨⟨r, bytes⟩, hfile, below⟩
  by_cases same : r = p
  · -- The file that lies in the directory is the one that is written.
    exact ⟨(p, text.toUTF8), List.mem_cons_self, same ▸ below⟩
  · have kept : (r, bytes) ∈ t.files.filter (·.1 != p) :=
      List.mem_filter.mpr ⟨hfile, by simpa using same⟩
    exact ⟨(r, bytes), List.mem_cons_of_mem _ kept, below⟩

theorem isDirectory_of_requireDirectory {u : Unit} (h : t.requireDirectory q = .ok u) :
    t.isDirectory q := by
  rw [requireDirectory] at h
  split at h
  · next directory => exact directory
  · cases h

theorem requireDirectory_eq_ok (h : t.isDirectory q) : t.requireDirectory q = .ok () := by
  rw [requireDirectory, if_pos h]

/-! ### Walking -/

theorem walk_append (t : FileTree) (p : Place) (parts others : List String) :
    t.walk p (parts ++ others) = t.walk p parts >>= fun q => t.walk q others := by
  induction parts generalizing p with
  | nil => rfl
  | cons part rest ih =>
    rw [List.cons_append, walk, walk]
    cases t.requireDirectory p with
    | error e => rfl
    | ok _ =>
      cases p.step part with
      | error e => rfl
      | ok next => exact ih next

theorem walk_singleton {last : String} (h : t.isDirectory q) :
    t.walk q [last] = q.step last := by
  rw [walk, requireDirectory_eq_ok h]
  cases q.step last <;> rfl

/-- A path leads to the same place after a file has been written. -/
theorem walk_put {parts : List String} (h : t.walk q parts = .ok destination) :
    (t.put p text).walk q parts = .ok destination := by
  induction parts generalizing q with
  | nil => exact h
  | cons part rest ih =>
    rw [walk] at h
    obtain ⟨_, required, h⟩ := exists_of_bind_eq_ok h
    obtain ⟨next, stepped, h⟩ := exists_of_bind_eq_ok h
    have directory : (t.put p text).isDirectory q :=
      isDirectory_put (isDirectory_of_requireDirectory required)
    rw [walk, requireDirectory_eq_ok directory, stepped]
    exact ih h

/-! ### Writing -/

/-- The place that a path leads to. -/
def resolve (t : FileTree) (path : String) : Except FileError Place := do
  t.walk (← Place.start path) (pathParts path)

/-- What is left of a list without what it ends in is the list, if it is not shorter. -/
theorem eq_of_length_le_dropWhile {parts : List String} {p : String → Bool}
    (h : parts.length ≤ (parts.reverse.dropWhile p).reverse.length) :
    (parts.reverse.dropWhile p).reverse = parts := by
  have front : (parts.reverse.dropWhile p).reverse <+: parts := by
    rw [← List.reverse_suffix, List.reverse_reverse]
    exact List.dropWhile_suffix p
  exact front.eq_of_length_le h

/-- What is written is put at the place that the path leads to. -/
theorem exists_put_of_write (h : t.write path text = .ok t') :
    ∃ p, t.resolve path = .ok p ∧ t' = t.put p text := by
  rw [write] at h
  dsimp only at h
  obtain ⟨base, started, h⟩ := exists_of_bind_eq_ok h
  split at h
  · next last hlast =>
    obtain ⟨directory, walked, h⟩ := exists_of_bind_eq_ok h
    obtain ⟨_, required, h⟩ := exists_of_bind_eq_ok h
    split at h
    · cases h
    · next plain =>
      obtain ⟨p, stepped, h⟩ := exists_of_bind_eq_ok h
      split at h
      · cases h
      · cases h
        -- The path has no slash at its end, so its parts are the names on the way and the last.
        have whole : ((pathParts path).reverse.dropWhile (· == "")).reverse = pathParts path := by
          simp only [Bool.or_eq_true, decide_eq_true_eq, not_or, Nat.not_lt] at plain
          exact eq_of_length_le_dropWhile plain.1.1
        rw [whole] at hlast walked
        obtain ⟨names, parts⟩ := List.getLast?_eq_some_iff.mp hlast
        rw [parts, List.dropLast_concat] at walked
        refine ⟨p, ?_, rfl⟩
        rw [resolve, started, parts]
        show t.walk base (names ++ [last]) = _
        rw [walk_append, walked]
        exact (walk_singleton (isDirectory_of_requireDirectory required)).trans stepped
  · cases h

theorem fromUTF8?_toUTF8 (text : String) : String.fromUTF8? text.toUTF8 = some text := by
  have valid : text.toUTF8.IsValidUTF8 := text.isValidUTF8
  rw [String.fromUTF8?, dif_pos valid]
  rfl

theorem resolve_put (h : t.resolve path = .ok destination) :
    (t.put p text).resolve path = .ok destination := by
  obtain ⟨base, started, walked⟩ := exists_of_bind_eq_ok h
  rw [resolve, started]
  exact walk_put walked

theorem read_eq_ok (leads : t.resolve path = .ok p) (bytes : t.bytes? p = some text.toUTF8) :
    t.read path = .ok text := by
  obtain ⟨base, started, walked⟩ := exists_of_bind_eq_ok leads
  simp only [read, started, walked, bytes, fromUTF8?_toUTF8, Except.bind, bind, pure, Except.pure]

/-- What is written is in full at the place that its path leads to, and can be read from there. All
other places are as they were. -/
structure IsWritten (t : FileTree) (path text : String) (t' : FileTree) : Prop where
  place : ∃ p, t.resolve path = .ok p ∧ t'.bytes? p = some text.toUTF8 ∧
    ∀ q ≠ p, t'.bytes? q = t.bytes? q
  read : t'.read path = .ok text

/-- Writing does what it is meant to, or fails. -/
theorem isWritten_of_write (h : t.write path text = .ok t') : IsWritten t path text t' := by
  obtain ⟨p, leads, rfl⟩ := exists_put_of_write h
  have bytes := bytes?_put_self t p text
  exact ⟨⟨p, leads, bytes, fun q => bytes?_put_of_ne⟩, read_eq_ok (resolve_put leads) bytes⟩

/-! ### Access -/

theorem run_write_ok (h : t.write path text = .ok t') :
    (access.write path text).run t = (.ok (), t') := by
  simp only [access, StateT.run_bind, StateT.run_get, pure_bind, h]
  rfl

theorem run_write_error {e : FileError} (h : t.write path text = .error e) :
    (access.write path text).run t = (.error e, t) := by
  simp only [access, StateT.run_bind, StateT.run_get, pure_bind, h]
  rfl

end GraphTypes.CommandLine.FileTree
