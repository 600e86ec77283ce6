import GraphTypes.Proofs.Declaration.Documents

/-!
# Looking up an identifier never misses

A type that the table of identifiers lacks would be written as its bare name. Whether that ever
happens cannot be told from a declaration, as the bare name may well be what an identifier looks
like. But it would show if the table knew further types: what is looked up in vain in the one table
may be found in the other. `ownDeclarations_extend` and `reflectDeclarations_extend` say that
further identifiers change no declaration of a faultless schema.
-/

namespace GraphTypes

open Config Name Sdl TypeScript

/-! ### References to types that have an identifier -/

theorem TypeNames.refer_append {names : TypeNames} {type : String} (covered : names.covers type)
    (settings : Settings) (more : TypeNames) :
    TypeNames.refer (names ++ more) settings type = names.refer settings type := by
  rw [refer, refer]
  split
  · rfl
  · next builtin =>
    rw [covers, Bool.or_eq_true] at covered
    obtain ⟨identifier, found⟩ := Option.isSome_iff_exists.mp (covered.resolve_left builtin)
    rw [identifier?] at found
    rw [identifier?, identifier?, List.lookup_append, found]
    rfl

namespace TypeScript.Ty

/-- The same type with another text for the named type at its heart. -/
def withLeaf (text : String) : Ty → Ty
  | leaf _ => leaf text
  | maybe inner => maybe (inner.withLeaf text)
  | array readonly item => array readonly (item.withLeaf text)

/-- What stands for named types decides about the heart of a type alone. -/
theorem ofTypeExpr_eq_withLeaf (readonly : Bool) (leafOf leafOf' : String → String)
    (type : TypeExpr) :
    ofTypeExpr readonly leafOf type =
      (ofTypeExpr readonly leafOf' type).withLeaf (leafOf type.innermost) := by
  have marked : ∀ nullable, ofTypeExprAs readonly leafOf nullable type =
      (ofTypeExprAs readonly leafOf' nullable type).withLeaf (leafOf type.innermost) := by
    induction type with
    | named name =>
      intro nullable
      cases nullable <;> rfl
    | list item ih =>
      intro nullable
      rw [ofTypeExprAs, ofTypeExprAs, ih true]
      cases nullable <;> rfl
    | nonNull inner ih =>
      intro nullable
      exact ih false
  exact marked true

theorem ofTypeExpr_congr (readonly : Bool) {leafOf leafOf' : String → String} {type : TypeExpr}
    (same : leafOf type.innermost = leafOf' type.innermost) :
    ofTypeExpr readonly leafOf type = ofTypeExpr readonly leafOf' type := by
  rw [ofTypeExpr_eq_withLeaf readonly leafOf leafOf, same,
    ← ofTypeExpr_eq_withLeaf readonly leafOf' leafOf]

end TypeScript.Ty

namespace DeclarationContext

variable (c : DeclarationContext) (more : TypeNames)

/-- The same context with identifiers for further types, which come last in the table. -/
def extend : DeclarationContext := { c with names := c.names ++ more }

@[simp] theorem schema_extend : (c.extend more).schema = c.schema := rfl

variable {c}

theorem refer_extend {type : String} (covered : c.names.covers type) :
    (c.extend more).refer type = c.refer type :=
  TypeNames.refer_append covered c.settings more

/-! ### Declarations whose references are found -/

theorem member_extend {type : TypeExpr} (covered : c.names.covers type.innermost)
    (kind : MemberKind) (description : Option String) (name : String) :
    (c.extend more).member kind description name type = c.member kind description name type := by
  rw [member, member, Ty.ofTypeExpr_congr _ (refer_extend more covered)]
  rfl

theorem inputMembers_extend {values : List InputValue}
    (covered : ∀ v ∈ values, c.names.covers v.type.innermost) (kind : MemberKind) :
    (c.extend more).inputMembers kind values = c.inputMembers kind values := by
  apply List.map_congr_left
  intro v hv
  exact member_extend more (covered v hv) kind v.description v.name

theorem fieldMembers_extend {fields : List Field}
    (covered : ∀ f ∈ fields, c.names.covers f.type.innermost) :
    (c.extend more).fieldMembers fields = c.fieldMembers fields := by
  apply List.map_congr_left
  intro f hf
  exact member_extend more (covered f hf) .field f.description f.name

theorem body_extend {d : TypeDef} (covered : ∀ type ∈ c.mentionedBy d, c.names.covers type) :
    (c.extend more).body d = c.body d := by
  rw [mentionedBy] at covered
  have mentioned := fun type h => covered type (List.mem_cons_of_mem d.name h)
  have members : ∀ {names : List String}, (∀ m ∈ names, c.names.covers m) →
      names.map (c.extend more).refer = names.map c.refer :=
    fun covered => List.map_congr_left fun m hm => refer_extend more (covered m hm)
  rw [body, body]
  -- In each shape the types that are mentioned are those that the body refers to.
  cases hshape : d.shape with
  | scalar => rfl
  | enum values => rfl
  | object interfaces fields =>
    simp only [hshape, List.forall_mem_map] at mentioned
    simp only [fieldMembers_extend more mentioned]
  | interface interfaces fields =>
    simp only [hshape] at mentioned
    simp only [schema_extend]
    cases himpl : c.schema.implementations d.name with
    | nil =>
      simp only [himpl, List.forall_mem_map] at mentioned
      simp only [fieldMembers_extend more mentioned]
    | cons first rest =>
      simp only [himpl] at mentioned
      simp only [members mentioned]
  | union names =>
    simp only [hshape] at mentioned
    simp only [members mentioned]
  | inputObject fields =>
    simp only [hshape, List.forall_mem_map] at mentioned
    simp only [inputMembers_extend more mentioned]

theorem declare_extend {d : TypeDef} (covered : ∀ type ∈ c.mentionedBy d, c.names.covers type) :
    (c.extend more).declare d = c.declare d := by
  have own : c.names.covers d.name := covered d.name List.mem_cons_self
  rw [declare, declare, refer_extend more own, body_extend more covered]

theorem argumentRecords_extend {d : TypeDef} (own : c.names.covers d.name)
    (covered : ∀ type ∈ mentionedByArguments d, c.names.covers type) (r : Registry) :
    (c.extend more).argumentRecords d r = c.argumentRecords d r := by
  have wanted : (c.extend more).argumentsName d.name = c.argumentsName d.name := by
    funext f
    rw [argumentsName, argumentsName, refer_extend more own]
    rfl
  have record : ∀ entry ∈ (r.claimAll ((fieldsWithArguments d).map (c.argumentsName d.name))).1.zip
      (fieldsWithArguments d), (c.extend more).declareArguments entry.1 entry.2 =
        c.declareArguments entry.1 entry.2 := by
    rintro ⟨identifier, f⟩ hentry
    have hf : f ∈ fieldsWithArguments d := (List.of_mem_zip hentry).2
    rw [declareArguments, declareArguments, inputMembers_extend]
    intro v hv
    exact covered _ (List.mem_flatMap.mpr ⟨f, hf, List.mem_map_of_mem hv⟩)
  rw [argumentRecords, argumentRecords, wanted]
  exact Prod.ext (List.map_congr_left record) rfl

theorem declareAll_extend {types : List TypeDef}
    (covered : ∀ type ∈ c.mentioned types, c.names.covers type) (r : Registry) :
    (c.extend more).declareAll types r = c.declareAll types r := by
  have alone : ∀ d ∈ types, ∀ type ∈ c.mentionedBy d, c.names.covers type := by
    intro d hd type htype
    exact covered type (List.mem_flatMap.mpr ⟨d, hd, List.mem_append_left _ htype⟩)
  have records : ∀ d ∈ types, ∀ type ∈ mentionedByArguments d, c.names.covers type := by
    intro d hd type htype
    exact covered type (List.mem_flatMap.mpr ⟨d, hd, List.mem_append_right _ htype⟩)
  apply declareAll_congr
  intro d hd
  exact ⟨declare_extend more (alone d hd),
    argumentRecords_extend more (alone d hd d.name List.mem_cons_self) (records d hd)⟩

end DeclarationContext

/-! ### The declarations of a schema -/

section Output

variable (s : Schema) (settings : Settings) (more : TypeNames)

theorem ownDeclarations_extend :
    ((ownContext s settings).extend more).declareAll (ownTypes s settings)
      (reflectNames s settings).2 = ownDeclarations s settings := by
  apply DeclarationContext.declareAll_extend
  exact covers_ownContext s settings

theorem reflectDeclarations_extend (admits : String → Bool) :
    (((reflectContext s settings).extend more).declareAll (reflectTypes settings admits)
      (ownDeclarations s settings).2).1 = reflectDeclarations s settings admits := by
  rw [reflectDeclarations, DeclarationContext.declareAll_extend]
  exact covers_reflectContext s settings admits

end Output

end GraphTypes
