import Mathlib.Data.List.Nodup
import GraphTypes.Proofs.Config.Reference
import GraphTypes.Proofs.Name.Registry
import GraphTypes.Resolver.Imports

/-!
# The import table

The table holds one local name for each symbol of a module, so each symbol is imported by a single
specifier. References enter it one after the other: a symbol that is there keeps its name, any other
claims one that nothing uses yet.

A local name is an identifier, and what a reference is written as begins with it. `leadingName`
reads it off again.
-/

namespace GraphTypes

open Config Name

/-! ### Specifiers -/

/-- A symbol in an import line, with the module of the line. -/
structure ImportSpecifier where
  modulePath : String
  symbol : String
  localName : String
  deriving DecidableEq, Repr

/-- Whether a specifier imports the symbol that a reference is to. -/
def ImportSpecifier.imports (specifier : ImportSpecifier) (ref : ExternalRef) : Bool :=
  specifier.modulePath == ref.modulePath && specifier.symbol == ref.symbol

namespace Imports

/-- The specifiers of all import lines, line by line. -/
def specifiers (imports : Imports) : List ImportSpecifier :=
  imports.entries.flatMap fun (modulePath, symbols) =>
    symbols.entries.map fun (symbol, localName) => { modulePath, symbol, localName }

theorem localName?_eq_some_iff {imports : Imports} {ref : ExternalRef} {localName : String} :
    imports.localName? ref = some localName ↔
      ⟨ref.modulePath, ref.symbol, localName⟩ ∈ imports.specifiers := by
  simp only [localName?, Option.bind_eq_some_iff, Dictionary.get?_eq_some_iff, specifiers,
    List.mem_flatMap, List.mem_map]
  constructor
  · rintro ⟨symbols, hline, hsymbol⟩
    exact ⟨(ref.modulePath, symbols), hline, (ref.symbol, localName), hsymbol, rfl⟩
  · rintro ⟨⟨modulePath, symbols⟩, hline, ⟨symbol, l⟩, hsymbol, heq⟩
    cases heq
    exact ⟨symbols, hline, hsymbol⟩

/-- No two specifiers import the same symbol of the same module. -/
theorem nodup_specifiers (imports : Imports) :
    (imports.specifiers.map fun x => (x.modulePath, x.symbol)).Nodup := by
  rw [specifiers, List.map_flatMap, List.nodup_flatMap]
  constructor
  · -- Within one line the symbols differ.
    rintro ⟨modulePath, symbols⟩ -
    have nodup := symbols.nodup_keys.map (f := fun symbol => (modulePath, symbol)) (by
      intro a b heq
      exact (Prod.mk.inj heq).2)
    simpa [Dictionary.keys, Function.comp_def] using nodup
  · -- Different lines are for different modules.
    have nodup : (imports.entries.map Prod.fst).Nodup := imports.nodup_keys
    rw [List.Nodup, List.pairwise_map] at nodup
    apply nodup.imp
    intro line line' hne key hkey hkey'
    simp only [List.map_map, List.mem_map, Function.comp_apply] at hkey hkey'
    obtain ⟨entry, -, rfl⟩ := hkey
    obtain ⟨entry', -, heq⟩ := hkey'
    exact hne (Prod.mk.inj heq).1.symm

/-- A symbol with a local name is imported by a single specifier, and under that name. -/
theorem filter_specifiers {imports : Imports} {ref : ExternalRef} {localName : String}
    (h : imports.localName? ref = some localName) :
    imports.specifiers.filter (·.imports ref) = [⟨ref.modulePath, ref.symbol, localName⟩] := by
  have hmem := localName?_eq_some_iff.mp h
  have nodup : imports.specifiers.Nodup := .of_map _ imports.nodup_specifiers
  have only : ∀ x ∈ imports.specifiers, x.imports ref =
      (x == ⟨ref.modulePath, ref.symbol, localName⟩) := by
    intro x hx
    rw [Bool.eq_iff_iff, ImportSpecifier.imports, Bool.and_eq_true, beq_iff_eq, beq_iff_eq,
      beq_iff_eq]
    constructor
    · rintro ⟨hmodule, hsymbol⟩
      exact List.inj_on_of_nodup_map imports.nodup_specifiers hx hmem
        (Prod.ext hmodule hsymbol)
    · rintro rfl
      exact ⟨rfl, rfl⟩
  rw [List.filter_congr only, List.filter_beq, List.count_eq_one_of_mem nodup hmem]
  rfl

/-! ### Entering symbols -/

variable {imports : Imports} {r : Registry} {ref other : ExternalRef}

/-- A reference goes by the name of its module and its symbol alone. -/
theorem localName?_congr (hmodule : other.modulePath = ref.modulePath)
    (hsymbol : other.symbol = ref.symbol) : imports.localName? other = imports.localName? ref := by
  rw [localName?, localName?, hmodule, hsymbol]

theorem localName?_enter (modulePath symbol localName : String) :
    (imports.enter modulePath symbol localName).localName? ref =
      if ref.modulePath = modulePath ∧ ref.symbol = symbol then some localName
      else imports.localName? ref := by
  rw [localName?, enter, Dictionary.get?_insert]
  by_cases hmodule : ref.modulePath = modulePath
  · subst hmodule
    rw [if_pos rfl, Option.bind_some, Dictionary.get?_insert]
    simp only [true_and]
    split
    · rfl
    · rw [localName?, symbols]
      cases imports.get? ref.modulePath <;> rfl
  · rw [if_neg hmodule, if_neg (fun h => hmodule h.1), localName?]

theorem localName?_add :
    (imports.add r ref).1.localName? other =
      if other.modulePath = ref.modulePath ∧ other.symbol = ref.symbol then
        some ((imports.localName? ref).getD (r.available (wantedName r ref.symbol)))
      else imports.localName? other := by
  rw [add]
  split
  · next l hl =>
    split
    · next same => rw [localName?_congr same.1 same.2, hl]; rfl
    · rfl
  · next hl =>
    show (imports.enter ref.modulePath ref.symbol _).localName? other = _
    rw [localName?_enter, hl]
    rfl

theorem taken_subset_add : r.taken ⊆ (imports.add r ref).2.taken := by
  intro name hname
  rw [add]
  split
  · exact hname
  · exact Registry.taken_subset_claim r _ hname

theorem taken_subset_addAll {refs : List ExternalRef} :
    r.taken ⊆ (imports.addAll r refs).2.taken := by
  induction refs generalizing imports r with
  | nil => exact List.Subset.refl _
  | cons first rest ih => exact List.Subset.trans taken_subset_add ih

theorem addAll_cons {refs : List ExternalRef} :
    imports.addAll r (ref :: refs) = (imports.add r ref).1.addAll (imports.add r ref).2 refs :=
  rfl

/-- A symbol that has a local name keeps it. -/
theorem localName?_addAll_of_eq_some {refs : List ExternalRef} {localName : String}
    (h : imports.localName? other = some localName) :
    (imports.addAll r refs).1.localName? other = some localName := by
  induction refs generalizing imports r with
  | nil => exact h
  | cons first rest ih =>
    rw [addAll_cons]
    apply ih
    rw [localName?_add]
    split
    · next same => rw [← localName?_congr same.1 same.2, h]; rfl
    · exact h

theorem isSome_localName?_addAll {refs : List ExternalRef} (h : ref ∈ refs) :
    ((imports.addAll r refs).1.localName? ref).isSome := by
  induction refs generalizing imports r with
  | nil => cases h
  | cons first rest ih =>
    rcases List.mem_cons.mp h with rfl | h
    · -- It has a name once it is added, and no later reference takes that away.
      have entered : ∃ l, (imports.add r ref).1.localName? ref = some l := by
        rw [localName?_add, if_pos ⟨rfl, rfl⟩]
        exact ⟨_, rfl⟩
      obtain ⟨l, hl⟩ := entered
      have kept : (imports.addAll r (ref :: rest)).1.localName? ref = some l := by
        rw [addAll_cons]
        exact localName?_addAll_of_eq_some hl
      exact Option.isSome_of_eq_some kept
    · exact ih h

/-- A local name that was not there before is one that a reference to the symbol claimed. -/
theorem claimed_of_localName?_addAll {refs : List ExternalRef} {localName : String}
    (h : (imports.addAll r refs).1.localName? other = some localName) :
    imports.localName? other = some localName ∨
      (∃ ref ∈ refs, other.modulePath = ref.modulePath ∧ other.symbol = ref.symbol) ∧
        ∃ r' : Registry, r.taken ⊆ r'.taken ∧
          localName = r'.available (wantedName r' other.symbol) := by
  induction refs generalizing imports r with
  | nil => exact Or.inl h
  | cons first rest ih =>
    rw [addAll_cons] at h
    -- Either a later reference claimed the name, or it was there after the first reference.
    rcases ih h with hadd | ⟨⟨ref, href, same⟩, r', hsub, rfl⟩
    · rw [localName?_add] at hadd
      split at hadd
      · next same =>
        cases hl : imports.localName? first with
        | some l =>
          rw [hl] at hadd
          left
          rw [localName?_congr same.1 same.2, hl]
          exact hadd
        | none =>
          rw [hl] at hadd
          cases hadd
          refine Or.inr ⟨⟨first, List.mem_cons_self, same⟩, r, List.Subset.refl _, ?_⟩
          rw [same.2]
          rfl
      · exact Or.inl hadd
    · exact Or.inr ⟨⟨ref, List.mem_cons_of_mem _ href, same⟩, r',
        List.Subset.trans taken_subset_add hsub, rfl⟩

/-- Symbols that are imported under their own names override what they went by before. -/
theorem localName?_addPlain {modulePath : String} {symbols : List String} :
    (symbols.foldl (·.addPlain modulePath ·) imports).localName? ref =
      if ref.modulePath = modulePath ∧ ref.symbol ∈ symbols then some ref.symbol
      else imports.localName? ref := by
  induction symbols generalizing imports with
  | nil => simp
  | cons symbol rest ih =>
    -- A symbol that occurs again further on is only entered once more under the same name.
    rw [List.foldl_cons, ih, addPlain, localName?_enter]
    by_cases hmodule : ref.modulePath = modulePath
    · by_cases hsymbol : ref.symbol = symbol
      · simp [hmodule, hsymbol]
      · simp [hmodule, hsymbol]
    · simp [hmodule]

/-! ### Names that can be read off -/

/-- A text that TypeScript reads as one name, or as a part of one. -/
def IsName (text : String) : Prop := ∀ c ∈ text.toList, inIdentifier c

theorem inIdentifier_of_isDigit {c : Char} (h : c.isDigit) : inIdentifier c := by
  have range : 48 ≤ c.toNat ∧ c.toNat ≤ 57 := by
    simpa [Char.isDigit, UInt32.le_iff_toNat_le] using h
  have ascii : Text.isAscii c := by
    rw [Text.isAscii, decide_eq_true_eq]
    omega
  have numeric : Text.isNumeric c := by rw [Text.isNumeric, if_pos ascii]; exact h
  rw [inIdentifier, Text.isAlphanumeric, numeric, Bool.or_true, Bool.true_or, Bool.true_or]

theorem isName_append {front back : String} (hfront : IsName front) (hback : IsName back) :
    IsName (front ++ back) := by
  intro c hc
  rw [String.toList_append, List.mem_append] at hc
  exact hc.elim (hfront c) (hback c)

theorem isName_of_isIdentifier {text : String} (h : isIdentifier text.toList) : IsName text := by
  intro c hc
  cases hchars : text.toList with
  | nil => rw [hchars] at hc; cases hc
  | cons first rest =>
    rw [hchars] at h hc
    rw [isIdentifier, Bool.and_eq_true, List.all_eq_true] at h
    rcases List.mem_cons.mp hc with rfl | hc
    · -- What may begin an identifier may also stand inside.
      have start := h.1
      simp only [Bool.or_eq_true] at start
      simp only [inIdentifier, Text.isAlphanumeric, Bool.or_eq_true]
      exact start.imp_left (Or.imp_left Or.inl)
    · exact h.2 c hc

/-- Neither a number behind it nor a longer wish keeps a claimed name from being one name. -/
theorem isName_available {base : String} (h : IsName base) : IsName (r.available base) := by
  rw [Registry.available]
  split
  · apply isName_append h
    intro c hc
    exact inIdentifier_of_isDigit (Registry.isDigit_of_mem_toString hc)
  · exact h

theorem isName_wantedName {symbol : String} (h : IsName symbol) : IsName (wantedName r symbol) := by
  rw [wantedName]
  split
  · have suffix : "Mapper".toList.all inIdentifier := by decide
    exact isName_append h (List.all_eq_true.mp suffix)
  · exact h

/-! ### What a reference is written as -/

/-- The name that an expression begins with. -/
def leadingName (expression : String) : String :=
  String.ofList (expression.toList.takeWhile inIdentifier)

/-- No name holds a place to be filled in. -/
theorem fillIn_append {name front : List Char} (back : List Char)
    (h : ∀ c ∈ front, inIdentifier c) :
    fillIn name (front ++ back) = front ++ fillIn name back := by
  induction front with
  | nil => rfl
  | cons c rest ih =>
    have hbrace : c ≠ '\x7b' := by
      rintro rfl
      exact absurd (h _ List.mem_cons_self) (by decide)
    rw [List.cons_append, List.cons_append, fillIn, ih fun d hd => h d (List.mem_cons_of_mem _ hd)]
    intro after hc
    exact absurd hc hbrace

theorem leadingName_append {name : String} {back : List Char} (hname : IsName name)
    (hback : ∀ c ∈ back.head?, c = '<') :
    leadingName (String.ofList (name.toList ++ back)) = name := by
  have stops : back.takeWhile inIdentifier = [] := by
    cases back with
    | nil => rfl
    | cons c rest =>
      have hc : c = '<' := hback c rfl
      subst hc
      rfl
  rw [leadingName, String.toList_ofList, List.takeWhile_append_of_pos hname, stops,
    List.append_nil, String.ofList_toList]

variable {localName : String} (wellFormed : ref.WellFormed) (hname : IsName localName)
  (h : imports.localName? ref = some localName)

include wellFormed hname h

theorem leadingName_template : leadingName (imports.template (.external ref)) = localName := by
  have text : imports.template (.external ref) =
      String.ofList (localName.toList ++ ref.typeArguments.toList) := by
    rw [template, h, Option.getD_some, String.ofList_append, String.ofList_toList,
      String.ofList_toList]
  rw [text]
  exact leadingName_append hname wellFormed.typeArguments

/-- Whatever is filled in, the local name of a reference stays in front. -/
theorem leadingName_expression (identifier : String) :
    leadingName (imports.expression (.external ref) identifier) = localName := by
  have filled : ∀ c ∈ (fillIn identifier.toList ref.typeArguments.toList).head?, c = '<' := by
    cases hargs : ref.typeArguments.toList with
    | nil => simp [fillIn]
    | cons c rest =>
      have hc : c = '<' := wellFormed.typeArguments c (by rw [hargs]; rfl)
      subst hc
      simp [fillIn]
  rw [expression, template, h, Option.getD_some, String.toList_append, fillIn_append _ hname]
  exact leadingName_append hname filled

end Imports

end GraphTypes
