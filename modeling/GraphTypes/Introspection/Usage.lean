import GraphTypes.Schema.Basic

/-!
# Which introspection types are used

An operation document may ask a service about its own schema, through the implicit fields `__schema`
and `__type` of the query type. The types that its selections name on the way are the introspection
types it uses. Selections are followed through fields and inline fragments; a fragment definition is
looked at on its own and not where it is spread.

Field types are looked up in two schemas: that of the service, and the introspection schema, which
is called `reflect` here.
-/

namespace GraphTypes.Introspection

open Operation

/-- The type of a field of `parent`, with lists and non-null marks taken off. -/
def fieldType? (s reflect : Schema) (parent field : String) : Option String :=
  if field = "__typename" then some "String"
  else if field = "__schema" ∧ s.roots.query = some parent then some "__Schema"
  else if field = "__type" ∧ s.roots.query = some parent then some "__Type"
  else if reflect.contains parent then (reflect.field? parent field).map (·.type.innermost)
  else (s.field? parent field).map (·.type.innermost)

/-- A type that counts as used where a field of this type is selected. -/
def asUsed (reflect : Schema) (type : String) : List String :=
  if isReflection type && reflect.contains type then [type] else []

/-- A type condition must name a type of one of the two schemas. -/
def checkCondition (s reflect : Schema) (name : String) : Except SchemaError Unit :=
  if s.contains name || reflect.contains name then .ok ()
  else .error (.unknownType name "type condition")

mutual

/-- The introspection types that a selection on `parent` names, in order. What is selected from a
field that does not exist is not looked at. -/
def usedBy (s reflect : Schema) (parent : String) : Selection → Except SchemaError (List String)
  | .field name selections =>
    match fieldType? s reflect parent name with
    | none => .ok []
    | some type => return asUsed reflect type ++ (← usedByAll s reflect type selections)
  | .inlineFragment none selections => usedByAll s reflect parent selections
  | .inlineFragment (some condition) selections => do
    checkCondition s reflect condition
    usedByAll s reflect condition selections
  | .spread _ => .ok []

/-- The introspection types that the selections on `parent` name, in order. -/
def usedByAll (s reflect : Schema) (parent : String) :
    List Selection → Except SchemaError (List String)
  | [] => .ok []
  | selection :: rest =>
    return (← usedBy s reflect parent selection) ++ (← usedByAll s reflect parent rest)

end

/-- The introspection types that a definition names, in order. -/
def usedIn (s reflect : Schema) : Definition → Except SchemaError (List String)
  | .operation kind selections =>
    match s.root? kind with
    | some root => usedByAll s reflect root selections
    | none => .error (.missingRoot kind)
  | .fragment _ condition selections => do
    checkCondition s reflect condition
    usedByAll s reflect condition selections

/-- The introspection types that documents use, each once, in order of first use. -/
def usedTypes (s reflect : Schema) (documents : List Document) : Except SchemaError (List String) :=
  return (← documents.flatten.mapM (usedIn s reflect)).flatten.eraseDups

end GraphTypes.Introspection
