import GraphTypes.Proofs.Declaration.Structure

/-!
# What the identifiers of declarations look like

A type of the schema itself is declared under the identifier that the table of names has for it,
which may be any name at all. All other identifiers are derived: those of argument records end in
`Args`, those of introspection types are the names of these in the spelling asked for, both but for
a number. This can be told from the stem alone, so a name with another stem is never such an
identifier.
-/

namespace GraphTypes

open Config Name Sdl TypeScript

/-! ### Derived names -/

/-- Whether a name is of the form of an argument record or of an introspection type. Numbers at its
end do not count. -/
def isDerived (naming : Convention) (name : String) : Bool :=
  "Args".toList.reverse.isPrefixOf (Registry.stem name) ||
    Introspection.metaTypes.any fun t => Registry.stem name == Registry.stem (naming.apply t.name)

theorem isDerived_iff {naming : Convention} {name : String} :
    isDerived naming name ↔ "Args".toList.reverse <+: Registry.stem name ∨
      ∃ t ∈ Introspection.metaTypes, Registry.stem name = Registry.stem (naming.apply t.name) := by
  rw [isDerived, Bool.or_eq_true, List.isPrefixOf_iff_prefix, List.any_eq_true]
  simp only [beq_iff_eq]

theorem isDerived_available {naming : Convention} (r : Registry) (base : String) :
    isDerived naming (r.available base) = isDerived naming base := by
  rw [isDerived, isDerived, Registry.stem_available]

/-- A name is not derived if it ends in something that no derived name ends in. -/
theorem not_isDerived_append {naming : Convention} {back : String} (front : String)
    (noDigit : back.toList.getLast?.any (!·.isDigit))
    (short : "Args".toList.length ≤ back.toList.length)
    (noArguments : ¬ "Args".toList.reverse <+: back.toList.reverse)
    (notReflected : ∀ t ∈ Introspection.metaTypes,
      ¬ back.toList.reverse <+: Registry.stem (naming.apply t.name)) :
    ¬ isDerived naming (front ++ back) := by
  have ends := Registry.prefix_stem_append front noDigit
  intro derived
  rcases isDerived_iff.mp derived with h | ⟨t, ht, h⟩
  · -- Of two ends of one name the shorter is the end of the longer.
    exact noArguments (List.prefix_of_prefix_length_le h ends (by simpa using short))
  · exact notReflected t ht (h ▸ ends)

/-- The spelling of an introspection type begins with an underscore under every convention. -/
theorem head?_apply_of_mem_metaTypes {naming : Convention} {t : TypeDef}
    (ht : t ∈ Introspection.metaTypes) : (naming.apply t.name).toList.head? = some '_' := by
  have underscore : ∀ t ∈ Introspection.metaTypes, t.name.toList.head? = some '_' := by
    decide +kernel
  obtain ⟨rest, hname⟩ := List.head?_eq_some_iff.mp (underscore t ht)
  rw [Convention.apply, String.toList_ofList, Convention.applyChars, hname]
  rfl

/-- A name that begins with a letter is not derived if it is not that of an argument record. -/
theorem not_isDerived_of_head {naming : Convention} {name : String}
    (letter : name.toList.head?.any fun c => c != '_' && !c.isDigit)
    (noArguments : ¬ "Args".toList.reverse <+: Registry.stem name) : ¬ isDerived naming name := by
  intro derived
  rcases isDerived_iff.mp derived with h | ⟨t, ht, h⟩
  · exact noArguments h
  · cases hhead : name.toList.head? with
    | none => rw [hhead] at letter; cases letter
    | some c =>
      rw [hhead, Option.any_some, Bool.and_eq_true, bne_iff_ne, Bool.not_eq_true'] at letter
      have ends := Registry.getLast?_stem hhead letter.2
      rw [h, Registry.getLast?_stem (head?_apply_of_mem_metaTypes ht) (by decide)] at ends
      exact letter.1 (Option.some.inj ends).symm

theorem stem_apply (naming : Convention) (name : String) :
    Registry.stem (naming.apply name) =
      (naming.applyChars name.toList).reverse.dropWhile Char.isDigit := by
  rw [Registry.stem, Convention.apply, String.toList_ofList]

/-! ### Identifiers of declarations -/

theorem TypeNames.mem_of_identifier? {names : TypeNames} {type identifier : String}
    (h : names.identifier? type = some identifier) : (type, identifier) ∈ names := by
  obtain ⟨before, after, rfl, -⟩ := List.lookup_eq_some_iff.mp h
  exact List.mem_append_right _ List.mem_cons_self

namespace DeclarationContext

variable {c : DeclarationContext}

/-- A type that gets an identifier is referred to by an identifier of the table. -/
theorem mem_names_refer {naming : Convention} {r : Registry} {t : TypeDef}
    (hnames : c.names = (TypeNames.assign naming c.schema.types r).1) (ht : t ∈ c.schema.types)
    (builtin : ¬ isBuiltinScalar t.name) : (t.name, c.refer t.name) ∈ c.names := by
  have assigned : (c.names.identifier? t.name).isSome := by
    rw [hnames]
    exact TypeNames.isSome_identifier?_assign ht builtin
  obtain ⟨identifier, hidentifier⟩ := Option.isSome_iff_exists.mp assigned
  rw [refer, TypeNames.refer, if_neg builtin, hidentifier]
  exact TypeNames.mem_of_identifier? hidentifier

theorem exists_of_mem_argumentRecords {t : TypeDef} {r : Registry} {d : Declaration}
    (h : d ∈ (c.argumentRecords t r).1) :
    d.kind = .arguments ∧ ∃ f ∈ t.fields, ∃ r' : Registry,
      d.identifier = r'.available (c.argumentsName t.name f) := by
  rw [argumentRecords] at h
  obtain ⟨⟨identifier, field⟩, hmem, rfl⟩ := List.mem_map.mp h
  obtain ⟨base, hbase, r', -, rfl⟩ := Registry.mem_claimAll (List.of_mem_zip hmem).1
  obtain ⟨f, hf, rfl⟩ := List.mem_map.mp hbase
  exact ⟨rfl, f, (List.mem_filter.mp hf).1, r', rfl⟩

/-- A declaration is one of a type, or an argument record under a claimed name. -/
theorem mem_declareAll {types : List TypeDef} {r : Registry} {d : Declaration}
    (h : d ∈ (c.declareAll types r).1) :
    (∃ t ∈ types, d = c.declare t) ∨
      d.kind = .arguments ∧ ∃ t ∈ types, ∃ f ∈ t.fields, ∃ r' : Registry,
        d.identifier = r'.available (c.argumentsName t.name f) := by
  induction types generalizing r with
  | nil => cases h
  | cons t rest ih =>
    rcases List.mem_cons.mp h with rfl | h
    · exact Or.inl ⟨t, List.mem_cons_self, rfl⟩
    · rcases List.mem_append.mp h with h | h
      · obtain ⟨hkind, found⟩ := exists_of_mem_argumentRecords h
        exact Or.inr ⟨hkind, t, List.mem_cons_self, found⟩
      · rcases ih h with ⟨t', ht', rfl⟩ | ⟨hkind, t', ht', found⟩
        · exact Or.inl ⟨t', List.mem_cons_of_mem _ ht', rfl⟩
        · exact Or.inr ⟨hkind, t', List.mem_cons_of_mem _ ht', found⟩

end DeclarationContext

/-- Whether a declaration is that of a type of the schema itself. -/
def Declaration.isOwnType (d : Declaration) : Bool := d.kind != .arguments && !isReflection d.name

theorem DeclarationContext.isDerived_of_argumentsName {c : DeclarationContext} {d : Declaration}
    (naming : Convention) {owner : String} {f : Field} {r : Registry} (hkind : d.kind = .arguments)
    (h : d.identifier = r.available (c.argumentsName owner f)) :
    d.isOwnType = false ∧ isDerived naming d.identifier := by
  constructor
  · rw [Declaration.isOwnType, hkind]
    rfl
  · rw [h, isDerived_available, isDerived_iff]
    exact Or.inl (Registry.prefix_stem_append _ (by decide))

theorem isReflection_of_mem_metaTypes : ∀ t ∈ Introspection.metaTypes, isReflection t.name := by
  decide +kernel

theorem not_isBuiltinScalar_of_mem_metaTypes :
    ∀ t ∈ Introspection.metaTypes, ¬ isBuiltinScalar t.name := by
  decide +kernel

/-- A type of the schema itself is declared under its identifier; whatever else is declared has a
derived name. -/
theorem mem_identifiers_or_isDerived {s : Schema} {documents : List Operation.Document}
    {settings : Settings} {ds : List Declaration}
    (h : declarations s documents settings = .ok ds) {d : Declaration} (hd : d ∈ ds) :
    d.isOwnType ∧ d.identifier ∈ (ownNames s settings).1.identifiers ∨
      d.isOwnType = false ∧ isDerived settings.typeNaming d.identifier := by
  obtain ⟨admits, -, rfl⟩ := declarations_eq_ok s settings h
  rcases List.mem_append.mp hd with hd | hd
  · rcases DeclarationContext.mem_declareAll hd with
      ⟨t, ht, rfl⟩ | ⟨hkind, t, -, f, -, r', hidentifier⟩
    · obtain ⟨hmem, builtin, own, -⟩ := (mem_declaredTypes s settings).mp ht
      have entry := (ownContext s settings).mem_names_refer rfl hmem builtin
      exact Or.inl ⟨own, List.mem_map_of_mem entry⟩
    · exact Or.inr (DeclarationContext.isDerived_of_argumentsName _ hkind hidentifier)
  · rcases DeclarationContext.mem_declareAll hd with
      ⟨t, ht, rfl⟩ | ⟨hkind, t, -, f, -, r', hidentifier⟩
    · obtain ⟨hmem, builtin, -⟩ := (mem_declaredTypes _ settings).mp ht
      have entry := (reflectContext s settings).mem_names_refer rfl hmem builtin
      obtain ⟨t', ht', hname, r', hidentifier⟩ := TypeNames.mem_assign entry
      refine Or.inr ⟨?_, ?_⟩
      · show (!isReflection t.name) = false
        rw [isReflection_of_mem_metaTypes t hmem]
        rfl
      · show isDerived _ ((reflectContext s settings).refer t.name)
        rw [hidentifier, isDerived_available, isDerived_iff]
        exact Or.inr ⟨t', ht', rfl⟩
    · exact Or.inr (DeclarationContext.isDerived_of_argumentsName _ hkind hidentifier)

end GraphTypes
