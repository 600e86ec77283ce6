import GraphTypes.Proofs.Resolver.Signatures
import GraphTypes.Proofs.TypeScript.Comment

/-!
# The form of the resolvers' code

The grammar that the text of the resolvers' code follows, with the names that are repeated in it.
A name is claimed once and then written in several places: that of a resolver in the interface of
its namespace and in its signature, that of a record of arguments in a signature and in front of the
record, that of a namespace and of the interface in it once more in the gathering type. In the
grammar a repeated name is one variable. Since names at the same place in the code never coincide,
each mention is that of the type or field that it stands for.
-/

namespace GraphTypes

open Config Name Sdl TypeScript

/-! ### Fields -/

/-- What a namespace says about a field. -/
structure FieldText where
  /-- The name of the resolver. -/
  name : String
  /-- The name of the record of arguments, if the resolver takes any. -/
  arguments : Option String
  /-- The member in the interface of the namespace. -/
  member : String
  /-- The signature below the interface, and the record behind it. -/
  signature : String

/-- The names that are declared for a field. -/
def FieldText.names (t : FieldText) : List String := t.name :: t.arguments.toList

section Grammar

variable (s : Schema) (settings : Settings) (m : ResolverModule)

/-- The member of a record for an argument. -/
def argumentText (a : InputValue) : String :=
  docComment "    " a.description ++ "    " ++
    ((ownContext s settings).member .argument a.description a.name a.type).signature ++ "\n"

/-- What the resolver of a field yields. -/
def resultText (f : Field) : String :=
  (Ty.ofTypeExpr settings.immutableTypes (resolverContext s settings).mapped f.type).text

/-- A signature that begins with `head`, up to the types that its helper is applied to. If the field
takes arguments, the helper is applied to a record of them as well, and the record follows. -/
inductive IsSignature (f : Field) (head : String) : Option String → String → Prop
  | plain (empty : f.arguments = []) : IsSignature f head none (head ++ ">;\n")
  | withRecord (given : f.arguments ≠ []) (record : String) :
    IsSignature f head (some record) (head ++ ", " ++ record ++ ">;\n" ++
      ("  export interface " ++ record ++ " \x7b\n" ++
        String.join (f.arguments.map (argumentText s settings)) ++ "  \x7d\n"))

/-- The texts for a field have the name of the field and of its resolver in them. -/
structure FieldText.Shows (helper parent : String) (f : Field) (t : FieldText) : Prop where
  member : t.member = docComment "    " f.description ++ "    " ++ (f.name ++ "?: " ++ t.name ++
    "<" ++ resultText s settings f ++ ", " ++ m.names.typeParent ++ ", " ++ m.names.context ++
    ">;") ++ "\n"
  signature : IsSignature s settings f ("  export type " ++ t.name ++ "<" ++ m.names.result ++
    " = " ++ resultText s settings f ++ ", " ++ m.names.parent ++ " = " ++ parent ++ ", " ++
    m.names.context ++ " = " ++ m.contextDefault ++ "> = " ++ helper ++ "<" ++ m.names.result ++
    ", " ++ m.names.parent ++ ", " ++ m.names.context) t.arguments t.signature

/-! ### Blocks -/

/-- What is declared for a type. -/
structure Block where
  /-- The name at the top level. -/
  name : String
  /-- The interface inside a namespace that the gathering type refers to. -/
  resolvers : Option String
  /-- The names that are declared inside. -/
  inner : List String
  text : String

/-- The entry for a type in the gathering type. -/
def Block.entry (d : TypeDef) (b : Block) : String :=
  "  " ++ (d.name ++ "?: " ++
    (match b.resolvers with
      | some resolvers => b.name ++ "." ++ resolvers ++ "<" ++ m.names.context ++ ">"
      | none => scalarType) ++ ";") ++ "\n"

end Grammar

/-! ### The text of fields -/

section Text

variable (s : Schema) (settings : Settings)

/-- What the text says about a field that has the given resolver. -/
def FieldText.of (m : ResolverModule) (ns : ObjectNamespace) (resolver : FieldResolver) :
    FieldText where
  name := resolver.name
  arguments := resolver.arguments.map (·.name)
  member := indented "    " (resolver.memberLines m.names)
  signature := resolver.source m.names m.contextDefault ns

variable {s settings} (m : ResolverModule) {ns : ObjectNamespace}

/-- The interface inside of what is declared for a type. -/
def ResolverItem.resolvers? : ResolverItem → Option String
  | object ns => some ns.resolvers
  | abstract ns => some ns.resolvers
  | scalar _ => none

/-- The block of an item. -/
def Block.of (exportMark : String) (item : ResolverItem) : Block where
  name := item.name
  resolvers := item.resolvers?
  inner := item.innerNames
  text := item.source m.names m.contextDefault exportMark

variable {m} {d : TypeDef} {name : String} {r : Registry}

theorem type_of_item? {item : ResolverItem}
    (made : (resolverContext s settings).item? d name r = some item) : item.type = d.name := by
  cases ResolverContext.makes_of_item? made <;> rfl

end Text

/-! ### Helpers -/

theorem occurs_head {exportMark keyword name : String} {lines : List String} (rest : String)
    (line : exportMark ++ keyword ++ name ++ ("<" ++ rest) ∈ lines) :
    Occurs (exportMark ++ (keyword ++ name) ++ "<") (String.intercalate "\n" lines) := by
  rw [← String.append_assoc] at line ⊢
  exact ((Occurs.refl _).append_right rest).trans (.intercalate "\n" line)

/-- The helpers are declared under their names. -/
theorem occurs_helpers (n : SharedNames) (exportMark : String) :
    ∀ head ∈ ["type " ++ n.resolver, "interface " ++ n.subscriptionObject,
      "type " ++ n.subscriptionResolver, "type " ++ n.typeResolve],
      Occurs (exportMark ++ head ++ "<") (n.helpers exportMark) := by
  rw [SharedNames.helpers]
  simp only [List.forall_mem_cons, List.not_mem_nil, false_implies, implies_true, and_true]
  refine ⟨?_, ?_, ?_, ?_⟩
  · exact occurs_head "Result, Parent = \x7b\x7d, Context = \x7b\x7d, Args = \x7b\x7d> = ("
      (List.mem_of_getElem? (i := 0) rfl)
  · exact occurs_head "Result, Parent, Context, Args> \x7b" (List.mem_of_getElem? (i := 7) rfl)
  · exact occurs_head "Result, Parent = \x7b\x7d, Context = \x7b\x7d, Args = \x7b\x7d> ="
      (List.mem_of_getElem? (i := 22) rfl)
  · exact occurs_head "Types, Parent = \x7b\x7d, Context = \x7b\x7d> = ("
      (List.mem_of_getElem? (i := 26) rfl)

/-! ### The result -/

section Output

variable (s : Schema) (settings : Settings)

variable {s settings}

variable (s settings)

end Output

end GraphTypes
