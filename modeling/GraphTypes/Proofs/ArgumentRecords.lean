import GraphTypes.Proofs.Records

/-!
# Both kinds of code have the same argument records

The arguments of an object's field are declared twice: among the types, behind the declaration of
the object, and inside of the namespace that the resolvers of the object have. The two records go by
different names, are indented differently, and are made from different tables; where resolvers are
declared, mappers replace types. Yet their members are the same, and so are the lines that these are
written in (`unindented_indented`): arguments are never replaced.
-/

namespace GraphTypes

open Config Name Sdl TypeScript

/-! ### Lines without their indentation -/

/-- The lines of a text, each without the blanks in front of it. -/
def unindented (text : String) : List (List Char) :=
  (text.toList.splitOn '\n').map (·.dropWhile (· == ' '))

theorem unindented_newline (front back : String) :
    unindented (front ++ "\n" ++ back) = unindented front ++ unindented back := by
  have cut : (front ++ "\n" ++ back).toList = front.toList ++ '\n' :: back.toList := by simp
  rw [unindented, cut, List.splitOn, List.splitOnP_append_cons _ _ (by rfl), List.map_append]
  rfl

/-- Blanks in front of a text are blanks in front of its first line. -/
theorem unindented_blanks {indent : String} (blanks : ∀ c ∈ indent.toList, c = ' ')
    (text : String) : unindented (indent ++ text) = unindented text := by
  rw [unindented, unindented, String.toList_append]
  generalize indent.toList = front at blanks
  induction front with
  | nil => rfl
  | cons c rest ih =>
    obtain ⟨rfl, others⟩ := List.forall_mem_cons.mp blanks
    rw [← ih others, List.cons_append, List.splitOn, List.splitOnP_cons_eq_if_modifyHead]
    cases h : (rest ++ text.toList).splitOnP (· == '\n') <;> simp [List.splitOn, h]

/-- How far code is indented does not matter to its lines, even if what counts as one line of the
code is several lines of the text. -/
theorem unindented_indented {indent : String} (blanks : ∀ c ∈ indent.toList, c = ' ')
    (code : List String) :
    unindented (indented indent code) = code.flatMap unindented ++ [[]] := by
  induction code with
  | nil => rfl
  | cons line rest ih =>
    have first : indented indent (line :: rest) =
        indent ++ line ++ "\n" ++ indented indent rest := by
      rw [← List.singleton_append, indented_append, indented_singleton]
    rw [first, unindented_newline, unindented_blanks blanks, ih, List.flatMap_cons,
      List.append_assoc]

/-! ### Where the records stand -/

namespace DeclarationContext

variable {c : DeclarationContext} {types : List TypeDef} {d : TypeDef}

/-- The argument records of a type stand directly behind its declaration. -/
theorem exists_infix_declareAll (hd : d ∈ types) (r : Registry) :
    ∃ r', (c.declare d :: (c.argumentRecords d r').1) <:+: (c.declareAll types r).1 := by
  induction types generalizing r with
  | nil => cases hd
  | cons t rest ih =>
    have all : (c.declareAll (t :: rest) r).1 = (c.declare t :: (c.argumentRecords t r).1) ++
      (c.declareAll rest (c.argumentRecords t r).2).1 := rfl
    rw [all]
    rcases List.mem_cons.mp hd with rfl | later
    · exact ⟨r, List.infix_append [] _ _⟩
    · obtain ⟨r', inside⟩ := ih later (c.argumentRecords t r).2
      exact ⟨r', inside.trans (List.suffix_append _ _).isInfix⟩

theorem kind_ne_arguments_of_enums {r : Registry} {e : Declaration}
    (enums : ∀ t ∈ types, t.kind = .enum) (he : e ∈ (c.declareAll types r).1) :
    e.kind ≠ .arguments := by
  rcases mem_declareAll he with ⟨t, -, rfl⟩ | ⟨-, t, ht, f, hf, -⟩
  · simp [declare]
  · rw [TypeDef.fields_of_enum (enums t ht)] at hf
    cases hf

end DeclarationContext

namespace ResolverContext

variable {c : ResolverContext}

theorem eq_object_of_item? {d : TypeDef} {name : String} {r : Registry} {item : ResolverItem}
    (made : c.item? d name r = some item) (object : d.kind = .object) :
    item = .object (c.objectNamespace d name r) := by
  cases makes_of_item? made with
  | object kind => rfl
  | abstract kind => simp [object] at kind
  | scalar kind => simp [object] at kind

variable (c)

/-- The resolvers that take a record of arguments are those of the fields that have any. -/
theorem forall₂_takers (fields : List Field) (scope : Registry) :
    List.Forall₂
      (fun f (resolver : FieldResolver) => resolver.field = f.name ∧
        ∃ name, resolver.arguments = some (c.argumentRecord name f))
      (fields.filter (!·.arguments.isEmpty))
      ((c.fieldResolvers fields scope).filter (·.arguments.isSome)) := by
  induction fields generalizing scope with
  | nil => exact .nil
  | cons f rest ih =>
    let claimed := scope.claim (pascalCase f.name ++ "Resolver")
    have arguments : (c.fieldResolver f scope).1.arguments = (c.claimArguments f claimed.2).1 := rfl
    have others := ih (c.fieldResolver f scope).2
    rw [claimArguments] at arguments
    show List.Forall₂ _ _
      (((c.fieldResolver f scope).1 :: c.fieldResolvers rest (c.fieldResolver f scope).2).filter _)
    cases empty : f.arguments.isEmpty with
    | true =>
      rw [empty] at arguments
      rw [List.filter_cons_of_neg (by simp [empty]), List.filter_cons_of_neg (by simp [arguments])]
      exact others
    | false =>
      rw [empty] at arguments
      rw [List.filter_cons_of_pos (by simp [empty]), List.filter_cons_of_pos (by simp [arguments])]
      exact .cons ⟨rfl, _, arguments⟩ others

end ResolverContext

/-! ### Agreement -/

/-- The record of a field's arguments in the code for resolvers has the members of that among the
types. They are written in the same lines, which are indented differently, and with what the types
of the arguments are declared under. -/
structure ArgumentRecord.Agrees (c : DeclarationContext) (f : Field) (e : Declaration)
    (record : ArgumentRecord) : Prop where
  kind : e.kind = .arguments
  members : e.body = .record record.members
  names : record.members.map (·.name) = f.arguments.map (·.name)
  plain : record.members.map (·.type.leafText) =
    f.arguments.map fun a => c.refer a.type.innermost
  text : ∃ body body',
    e.source c.settings.exportMark =
      c.settings.exportMark ++ "interface " ++ e.identifier ++ " \x7b\n" ++ body ++ "\x7d" ∧
    record.source = "  export interface " ++ record.name ++ " \x7b\n" ++ body' ++ "  \x7d\n" ∧
    body = indented "  " (record.members.flatMap Member.lines) ∧
    body' = indented "    " (record.members.flatMap Member.lines) ∧
    unindented body = unindented body'

/-- For each field of an object that has arguments there is a declaration, behind that of the
object, and a resolver that takes a record. The two agree, and both are part of the code. -/
structure RecordsAgree (s : Schema) (settings : Settings) (ds : List Declaration)
    (types resolvers : String) (d : TypeDef) (ns : ObjectNamespace)
    (pairs : List (Declaration × FieldResolver)) : Prop where
  declared : ∃ e, e.kind = .type .object ∧ e.name = d.name ∧ (e :: pairs.map Prod.fst) <:+: ds
  taken : pairs.map Prod.snd = ns.fields.filter (·.arguments.isSome)
  agree : List.Forall₂
    (fun f (pair : Declaration × FieldResolver) => pair.2.field = f.name ∧
      ∃ record, pair.2.arguments = some record ∧
        record.Agrees (ownContext s settings) f pair.1 ∧
        Occurs (pair.1.source settings.exportMark) types ∧ Occurs record.source resolvers)
    (d.fields.filter (!·.arguments.isEmpty)) pairs

section Output

variable {s : Schema} {settings : Settings}

/-- Mappers, the default mapper and the context make no difference to what is declared for
arguments. -/
theorem agrees_argumentRecord (mappers : Dictionary Reference)
    (defaultMapper contextType : Option Reference) {f : Field} (given : f.arguments ≠ [])
    (identifier name : String) :
    let mapped := { settings with mappers, defaultMapper, contextType }
    ((resolverContext s mapped).argumentRecord name f).Agrees (ownContext s settings) f
      ((ownContext s settings).declareArguments identifier f) := by
  intro mapped
  have two : ∀ c ∈ "  ".toList, c = ' ' := by simp
  have four : ∀ c ∈ "    ".toList, c = ' ' := by simp
  let members := (ownContext s settings).inputMembers .argument f.arguments
  refine ⟨rfl, rfl, ?_, ?_, _, _, ?_, rfl, rfl, rfl, ?_⟩
  · show members.map (·.name) = _
    simp [members, DeclarationContext.inputMembers, DeclarationContext.member]
  · show members.map (·.type.leafText) = _
    simp [members, DeclarationContext.inputMembers, DeclarationContext.member]
  · have some? : members.isEmpty = false := by
      simpa [members, DeclarationContext.inputMembers] using given
    show "" ++ settings.exportMark ++ Declaration.bodyText identifier (.record members) = _
    rw [Declaration.bodyText, some?, String.empty_append]
    simp only [Bool.false_eq_true, ↓reduceIte, String.append_assoc]
    rfl
  · rw [unindented_indented two, unindented_indented four]

/-- What holds of elements at the same place of two lists, and of two others, holds of pairs. -/
theorem forall₂_zip {α β γ : Type} {R : α → β → Prop} {S : α → γ → Prop} {as : List α}
    {bs : List β} {cs : List γ} (h : List.Forall₂ R as bs) (h' : List.Forall₂ S as cs) :
    List.Forall₂ (fun a (pair : β × γ) => R a pair.1 ∧ S a pair.2) as (bs.zip cs) := by
  induction h generalizing cs with
  | nil => exact .nil
  | cons first _ ih =>
    cases h' with
    | cons first' rest' => exact .cons ⟨first, first'⟩ (ih rest')

/-- Behind the declaration of a type there is one for each field that has arguments. -/
theorem exists_declaredArguments {d : TypeDef} (hd : d ∈ ownTypes s settings)
    (admits : String → Bool) :
    ∃ records, ((ownContext s settings).declare d :: records) <:+:
        ((ownDeclarations s settings).1 ++ reflectDeclarations s settings admits) ∧
      List.Forall₂ (fun f e => ∃ identifier,
          e = (ownContext s settings).declareArguments identifier f)
        (d.fields.filter (!·.arguments.isEmpty)) records := by
  obtain ⟨r, inside⟩ := DeclarationContext.exists_infix_declareAll (c := ownContext s settings) hd
    (reflectNames s settings).2
  refine ⟨_, inside.trans (List.prefix_append _ _).isInfix, ?_⟩
  have declared := (ownContext s settings).forall₂_argumentRecords d r
  rw [List.forall₂_map_left_iff] at declared
  apply declared.imp
  rintro f e ⟨⟩
  exact ⟨_, rfl⟩

variable (mappers : Dictionary Reference) (defaultMapper contextType : Option Reference)

theorem exists_recordsAgree {d : TypeDef} (hd : d ∈ ownTypes s settings) (object : d.kind = .object)
    (admits : String → Bool) (name : String) (r : Registry) :
    let mapped := { settings with mappers, defaultMapper, contextType }
    let ns := (resolverContext s mapped).objectNamespace d name r
    let ds := (ownDeclarations s settings).1 ++ reflectDeclarations s settings admits
    .object ns ∈ (resolverOutput s mapped).items →
    ∃ pairs, RecordsAgree s settings ds
      (String.intercalate "\n\n" (ds.map (·.source settings.exportMark)))
      (String.intercalate "\n\n" ((resolverOutput s mapped).sources mapped.exportMark))
      d ns pairs := by
  intro mapped ns ds hitem
  obtain ⟨records, inside, declared⟩ := exists_declaredArguments hd admits
  let takers := ns.fields.filter (·.arguments.isSome)
  -- Both lists have one element for each field with arguments, so none is lost in the pairs.
  have taken := (resolverContext s mapped).forall₂_takers d.fields (r.claim "Resolvers").2
  have lengths : records.length = takers.length := declared.length_eq.symm.trans taken.length_eq
  refine ⟨records.zip takers, ⟨(ownContext s settings).declare d, ?_, rfl, ?_⟩,
    List.map_snd_zip lengths.ge, ?_⟩
  · show DeclarationKind.type d.kind = _
    rw [object]
  · rw [List.map_fst_zip lengths.le]
    exact inside
  · apply forall₂_imp_of_mem (forall₂_zip declared taken)
    rintro f hf ⟨e, resolver⟩ hpair ⟨⟨identifier, rfl⟩, hfield, recordName, arguments⟩
    obtain ⟨he, hresolver⟩ := List.of_mem_zip hpair
    have given : f.arguments ≠ [] := by simpa using (List.mem_filter.mp hf).2
    have mem : (ownContext s settings).declareArguments identifier f ∈ ds :=
      inside.subset (List.mem_cons_of_mem _ he)
    exact ⟨hfield, _, arguments,
      agrees_argumentRecord mappers defaultMapper contextType given identifier recordName,
      Occurs.intercalate "\n\n" (List.mem_map_of_mem mem),
      ResolverModule.occurs_record hitem (List.mem_filter.mp hresolver).1 arguments⟩

end Output

/-- Whatever replaces types where resolvers are declared, for each field of an object that has
arguments there is a record of them in both kinds of code, with the same members in the same lines
up to their indentation. If enums alone are asked for, there are no such records among the types. -/
theorem argumentRecords_agree (s : Schema) (documents : List Operation.Document)
    (settings : Settings) (mappers : Dictionary Reference)
    (defaultMapper contextType : Option Reference) :
    let mapped := { settings with mappers, defaultMapper, contextType }
    ∃ m, resolverModule s mapped = .ok m ∧
      ∀ ds, declarations s documents settings = .ok ds →
        (settings.enumsOnly → ∀ e ∈ ds, e.kind ≠ .arguments) ∧
        (settings.enumsOnly = false →
          List.Forall₂
            (fun d item => d.kind = .object → ∃ ns pairs, item = .object ns ∧
              RecordsAgree s settings ds
                (String.intercalate "\n\n" (ds.map (·.source settings.exportMark)))
                (String.intercalate "\n\n" (m.sources mapped.exportMark)) d ns pairs)
            ((resolverTypes s).filter ResolverContext.hasItem) m.items) := by
  intro mapped
  refine ⟨resolverOutput s mapped, resolverModule_eq s mapped, ?_⟩
  intro ds h
  obtain ⟨admits, -, rfl⟩ := declarations_eq_ok s settings h
  constructor
  · intro only e he
    have enums : ∀ {s' : Schema} {admits' : String → Bool},
        ∀ t ∈ declaredTypes settings admits' s', t.kind = .enum :=
      fun t ht => ((mem_declaredTypes _ settings).mp ht).2.2.2 only
    rcases List.mem_append.mp he with he | he
    · exact DeclarationContext.kind_ne_arguments_of_enums enums he
    · exact DeclarationContext.kind_ne_arguments_of_enums enums he
  · intro everything
    apply forall₂_resolverItems
    intro d hd item hitem r claimed found object
    obtain rfl := ResolverContext.eq_object_of_item? found object
    obtain ⟨hmem, hname⟩ := List.mem_filter.mp hd
    have declared : d ∈ ownTypes s settings := by
      rw [ownTypes, mem_declaredTypes]
      simpa [hmem, everything] using hname
    obtain ⟨pairs, agree⟩ := exists_recordsAgree mappers defaultMapper contextType declared object
      admits _ _ hitem
    exact ⟨_, pairs, rfl, agree⟩

/-- There are mappers for the types of arguments, beside a default mapper and a context. -/
theorem argumentRecords_agree_library :
    let mapped : Settings :=
      { plainSettings with
        mappers := (Dictionary.empty.insert "Genre" (.inline "symbol")).insert "Filter"
          (.external ⟨"./filters", "FilterModel", ""⟩)
        defaultMapper := some (.inline "Partial<\x7bT\x7d>")
        contextType := some (.external ⟨"./context", "Context", ""⟩) }
    ∃ ds m, declarations Schema.library [] plainSettings = .ok ds ∧
      resolverModule Schema.library mapped = .ok m ∧
      List.Forall₂
        (fun d item => d.kind = .object → ∃ ns pairs, item = .object ns ∧
          RecordsAgree Schema.library plainSettings ds
            (String.intercalate "\n\n" (ds.map (·.source plainSettings.exportMark)))
            (String.intercalate "\n\n" (m.sources mapped.exportMark)) d ns pairs)
        ((resolverTypes Schema.library).filter ResolverContext.hasItem) m.items := by
  intro mapped
  have used : Introspection.usedTypes Schema.library Introspection.metaSchema [] = .ok [] := rfl
  obtain ⟨ds, declared⟩ := exists_declarations Schema.library plainSettings used
  obtain ⟨m, made, agree⟩ := argumentRecords_agree Schema.library [] plainSettings mapped.mappers
    mapped.defaultMapper mapped.contextType
  exact ⟨ds, m, declared, made, (agree ds declared).2 rfl⟩

end GraphTypes
