import DocSchema.Validation.Context
import DocSchema.Validation.Literal
import DocSchema.Validation.Nearest
import DocSchema.Schema.SchemaSet

/-!
# Validation

The validator compares a tree with a shape and records every difference; it changes
nothing in the tree. It goes down the tree, and at one value through unions, whose types
may be entered one inside the other up to the limit of the schema set. The outcome of
every alternative of a union is remembered, since unions nested in each other would
otherwise be tried again and again at the same value.
-/

namespace DocSchema.Validation

/-- The error of a record that lacks a property, if it must have it. -/
def missingErrors (type : TypeSchema) (name : String) (path : Path) : List ValidationError :=
  if type.isRequired name then [.missingRequired name path] else []

/-- The errors of keys a record type does not declare. -/
def undeclaredErrors (type : TypeSchema) (fields : Keyed Node) (path : Path) :
    List ValidationError :=
  ((Keyed.keys fields).filter fun key => !Keyed.contains type.properties key).map
    fun key => .unknownProperty key path

/-- What the outcomes of all alternatives say of a union: nothing if exactly one matched. -/
def unionErrors (path : Path) (outcomes : List (String × List ValidationError)) :
    List ValidationError :=
  match (outcomes.filter fun outcome => outcome.2.isEmpty).map Prod.fst with
  | [] => [.noVariantMatched path (selectNearest outcomes path.length)]
  | [_] => []
  | matched => [.ambiguousUnion path matched]

mutual

/-- Compares a value with a shape and records the differences. -/
def check (set : SchemaSet) (shape : Shape) (node : Node) (context : Context) : Context :=
  match shape with
  | .any => context
  | .scalar kind =>
    if scalarMatches kind node then context
    else context.record (.typeMismatch kind.text (actualKind node) context.path)
  | .object =>
    match node with
    | .record _ => context
    | _ => context.record (.typeMismatch shape.text (actualKind node) context.path)
  | .enum values =>
    if isMember values node then context
    else
      context.record (.literalMismatch (expectedLiterals values) node.literal context.path)
  | .array items =>
    match node with
    | .array values => checkItems set items 0 values context
    | _ => context.record (.typeMismatch shape.text (actualKind node) context.path)
  | .ref name =>
    match set.find? name with
    | none => context.record (.undefinedReference name context.path)
    | some type =>
      match type.schema.body with
      | .record properties _ _ =>
        match node with
        | .record fields =>
          (checkProperties set type.schema fields properties context).recordAll
            (undeclaredErrors type.schema fields context.path)
        | _ => context.record (.typeMismatch type.schema.name (actualKind node) context.path)
      | .union alternatives =>
        -- A union type is entered at the same value, so it may come back to itself.
        if context.hops < set.limit then
          (checkUnion set alternatives node context.enter).leave
        else (context.enter.record (.referenceCycle name context.path)).leave
  | .oneOf alternatives => checkUnion set alternatives node context
  -- Text that has not been decoded is left for later.
  | .decode _ inner => if node.isString then context else check set inner node context
termination_by (node.weight, set.limit + 1 - context.hops, sizeOf shape, 0)
decreasing_by
  · exact Prod.Lex.left _ _ (by simp only [Node.weight]; omega)
  · exact Prod.Lex.left _ _ (by simp only [Node.weight]; omega)
  · exact Prod.Lex.right _ (Prod.Lex.left _ _ (by simp only [Context.enter]; omega))
  · exact Prod.Lex.right _ (Prod.Lex.right _ (Prod.Lex.left _ _
      (by simp only [Shape.oneOf.sizeOf_spec]; omega)))
  · exact Prod.Lex.right _ (Prod.Lex.right _ (Prod.Lex.left _ _
      (by simp only [Shape.decode.sizeOf_spec]; omega)))

/-- Compares all items of an array, the first of them at `position`. -/
def checkItems (set : SchemaSet) (items : Shape) (position : Nat) (values : List Node)
    (context : Context) : Context :=
  match values with
  | [] => context
  | value :: rest =>
    let inside := check set items value (context.push (.index position))
    checkItems set items (position + 1) rest (inside.pop context.hops)
termination_by (Node.itemsWeight values, 0, 0, 0)
decreasing_by
  all_goals exact Prod.Lex.left _ _ (by simp only [Node.itemsWeight]; omega)

/-- Compares the properties of a record in the order of their declarations. -/
def checkProperties (set : SchemaSet) (type : TypeSchema) (fields : Keyed Node)
    (properties : Keyed Property) (context : Context) : Context :=
  match properties with
  | [] => context
  | (name, property) :: rest =>
    match _found : Keyed.get? fields name with
    | some value =>
      let inside := check set property.shape value (context.push (.property name))
      checkProperties set type fields rest (inside.pop context.hops)
    | none =>
      checkProperties set type fields rest
        (context.recordAll (missingErrors type name context.path))
termination_by (Node.fieldsWeight fields, 0, 0, properties.length)
decreasing_by
  · have := Node.weight_lt_of_mem_fields (Keyed.mem_of_get? _found)
    exact Prod.Lex.left _ _ (by omega)
  all_goals
    exact Prod.Lex.right _ (Prod.Lex.right _ (Prod.Lex.right _
      (by simp only [List.length_cons]; omega)))

/-- Compares a value with alternatives: with the one its discriminator names, if there is
one, else with all of them. -/
def checkUnion (set : SchemaSet) (alternatives : List Shape) (node : Node) (context : Context) :
    Context :=
  match _named : Shape.named? alternatives node with
  | some alternative => check set alternative node context
  | none =>
    let (outcomes, trials) := tryAll set alternatives node context context.trials
    { context with trials }.recordAll (unionErrors context.path outcomes)
termination_by (node.weight, set.limit + 1 - context.hops, sizeOf alternatives, 1)
decreasing_by
  · exact Prod.Lex.right _ (Prod.Lex.right _ (Prod.Lex.left _ _
      (List.sizeOf_lt_of_mem (Shape.mem_of_named? _named))))
  · exact Prod.Lex.right _ (Prod.Lex.right _ (Prod.Lex.right _ Nat.zero_lt_one))

/-- The errors of every alternative at a value, under the alternative's text. Outcomes
known before are taken as they are, new ones are remembered. -/
def tryAll (set : SchemaSet) (alternatives : List Shape) (node : Node) (context : Context)
    (trials : Trials) : List (String × List ValidationError) × Trials :=
  match alternatives with
  | [] => ([], trials)
  | alternative :: rest =>
    let key := context.trialKey alternative
    match trials.find? key with
    | some errors =>
      let (outcomes, trials) := tryAll set rest node context trials
      ((alternative.text, errors) :: outcomes, trials)
    | none =>
      let tried := check set alternative node { context.fork with trials }
      let (outcomes, trials) :=
        tryAll set rest node context (tried.trials.add key tried.errors)
      ((alternative.text, tried.errors) :: outcomes, trials)
termination_by (node.weight, set.limit + 1 - context.hops, sizeOf alternatives, 0)
decreasing_by
  all_goals
    exact Prod.Lex.right _ (Prod.Lex.right _ (Prod.Lex.left _ _
      (by simp only [List.cons.sizeOf_spec]; omega)))

end

/-- The errors of a value found at `path` where a shape is expected. -/
def validateShape (set : SchemaSet) (node : Node) (shape : Shape) (path : Path) :
    List ValidationError :=
  (check set shape node (Context.start path)).errors

/-- The errors of a tree as a value of a named type. -/
def validateType (set : SchemaSet) (node : Node) (name : String) : List ValidationError :=
  validateShape set node (.ref name) []

/-- The errors of a tree as a value of the root type. -/
def validate (set : SchemaSet) (node : Node) : List ValidationError :=
  validateType set node set.root

/-- Whether a value matches a shape. -/
def isValid (set : SchemaSet) (node : Node) (shape : Shape) : Bool :=
  (validateShape set node shape []).isEmpty

end DocSchema.Validation
