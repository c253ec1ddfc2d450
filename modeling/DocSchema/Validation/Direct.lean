import DocSchema.Validation.Check

/-!
# Direct validation

The errors of a value as a function of the shape, the value, its path and the number of
union types entered at it. Nothing is carried from one value to the next and every
alternative is tried afresh, so this is the plain meaning of validation; a run of the
validator records these errors.
-/

namespace DocSchema.Validation

mutual

/-- The errors of a value found at `path` after `hops` union types have been entered. -/
def errorsOf (set : SchemaSet) (shape : Shape) (node : Node) (path : Path) (hops : Nat) :
    List ValidationError :=
  match shape with
  | .any => []
  | .scalar kind =>
    if scalarMatches kind node then [] else [.typeMismatch kind.text (actualKind node) path]
  | .object =>
    match node with
    | .record _ => []
    | _ => [.typeMismatch shape.text (actualKind node) path]
  | .enum values =>
    if isMember values node then []
    else [.literalMismatch (expectedLiterals values) node.literal path]
  | .array items =>
    match node with
    | .array values => errorsOfItems set items 0 values path
    | _ => [.typeMismatch shape.text (actualKind node) path]
  | .ref name =>
    match set.find? name with
    | none => [.undefinedReference name path]
    | some type =>
      match type.schema.body with
      | .record properties _ _ =>
        match node with
        | .record fields =>
          errorsOfProperties set type.schema fields properties path
            ++ undeclaredErrors type.schema fields path
        | _ => [.typeMismatch type.schema.name (actualKind node) path]
      | .union alternatives =>
        if hops < set.limit then errorsOfUnion set alternatives node path (hops + 1)
        else [.referenceCycle name path]
  | .oneOf alternatives => errorsOfUnion set alternatives node path hops
  | .decode _ inner => if node.isString then [] else errorsOf set inner node path hops
termination_by (node.weight, set.limit + 1 - hops, sizeOf shape, 0)
decreasing_by
  · exact Prod.Lex.left _ _ (by simp only [Node.weight]; omega)
  · exact Prod.Lex.left _ _ (by simp only [Node.weight]; omega)
  · exact Prod.Lex.right _ (Prod.Lex.left _ _ (by omega))
  · exact Prod.Lex.right _ (Prod.Lex.right _ (Prod.Lex.left _ _
      (by simp only [Shape.oneOf.sizeOf_spec]; omega)))
  · exact Prod.Lex.right _ (Prod.Lex.right _ (Prod.Lex.left _ _
      (by simp only [Shape.decode.sizeOf_spec]; omega)))

/-- The errors of all items of an array, the first of them at `position`. -/
def errorsOfItems (set : SchemaSet) (items : Shape) (position : Nat) (values : List Node)
    (path : Path) : List ValidationError :=
  match values with
  | [] => []
  | value :: rest =>
    errorsOf set items value (path.index position) 0
      ++ errorsOfItems set items (position + 1) rest path
termination_by (Node.itemsWeight values, 0, 0, 0)
decreasing_by
  all_goals exact Prod.Lex.left _ _ (by simp only [Node.itemsWeight]; omega)

/-- The errors of the properties of a record in the order of their declarations. -/
def errorsOfProperties (set : SchemaSet) (type : TypeSchema) (fields : Keyed Node)
    (properties : Keyed Property) (path : Path) : List ValidationError :=
  match properties with
  | [] => []
  | (name, property) :: rest =>
    match _found : Keyed.get? fields name with
    | some value =>
      errorsOf set property.shape value (path.property name) 0
        ++ errorsOfProperties set type fields rest path
    | none => missingErrors type name path ++ errorsOfProperties set type fields rest path
termination_by (Node.fieldsWeight fields, 0, 0, properties.length)
decreasing_by
  · have := Node.weight_lt_of_mem_fields (Keyed.mem_of_get? _found)
    exact Prod.Lex.left _ _ (by omega)
  all_goals
    exact Prod.Lex.right _ (Prod.Lex.right _ (Prod.Lex.right _
      (by simp only [List.length_cons]; omega)))

/-- The errors of a value under the alternative its discriminator names, or what the outcomes
of all of them say. -/
def errorsOfUnion (set : SchemaSet) (alternatives : List Shape) (node : Node) (path : Path)
    (hops : Nat) : List ValidationError :=
  match _named : Shape.named? alternatives node with
  | some alternative => errorsOf set alternative node path hops
  | none => unionErrors path (outcomesOf set alternatives node path hops)
termination_by (node.weight, set.limit + 1 - hops, sizeOf alternatives, 1)
decreasing_by
  · exact Prod.Lex.right _ (Prod.Lex.right _ (Prod.Lex.left _ _
      (List.sizeOf_lt_of_mem (Shape.mem_of_named? _named))))
  · exact Prod.Lex.right _ (Prod.Lex.right _ (Prod.Lex.right _ Nat.zero_lt_one))

/-- The errors of every alternative at a value, under the alternative's text. -/
def outcomesOf (set : SchemaSet) (alternatives : List Shape) (node : Node) (path : Path)
    (hops : Nat) : List (String × List ValidationError) :=
  match alternatives with
  | [] => []
  | alternative :: rest =>
    (alternative.text, errorsOf set alternative node path hops)
      :: outcomesOf set rest node path hops
termination_by (node.weight, set.limit + 1 - hops, sizeOf alternatives, 0)
decreasing_by
  all_goals
    exact Prod.Lex.right _ (Prod.Lex.right _ (Prod.Lex.left _ _
      (by simp only [List.cons.sizeOf_spec]; omega)))

end

/-! ### One step of each function -/

theorem errorsOfProperties_present {set : SchemaSet} {type : TypeSchema} {fields : Keyed Node}
    {name : String} {property : Property} {rest : Keyed Property} {path : Path} {value : Node}
    (found : Keyed.get? fields name = some value) :
    errorsOfProperties set type fields ((name, property) :: rest) path =
      errorsOf set property.shape value (path.property name) 0
        ++ errorsOfProperties set type fields rest path := by
  rw [errorsOfProperties]
  split
  · rename_i other same
    rw [found] at same
    cases same
    rfl
  · rename_i absent
    simp [found] at absent

theorem errorsOfProperties_absent {set : SchemaSet} {type : TypeSchema} {fields : Keyed Node}
    {name : String} {property : Property} {rest : Keyed Property} {path : Path}
    (absent : Keyed.get? fields name = none) :
    errorsOfProperties set type fields ((name, property) :: rest) path =
      missingErrors type name path ++ errorsOfProperties set type fields rest path := by
  rw [errorsOfProperties]
  split
  · rename_i found
    simp [absent] at found
  · rfl

theorem errorsOfUnion_named {set : SchemaSet} {alternatives : List Shape} {node : Node}
    {path : Path} {hops : Nat} {alternative : Shape}
    (named : Shape.named? alternatives node = some alternative) :
    errorsOfUnion set alternatives node path hops = errorsOf set alternative node path hops := by
  rw [errorsOfUnion]
  split
  · rename_i other same
    rw [named] at same
    cases same
    rfl
  · rename_i unnamed
    simp [named] at unnamed

theorem errorsOfUnion_unnamed {set : SchemaSet} {alternatives : List Shape} {node : Node}
    {path : Path} {hops : Nat} (unnamed : Shape.named? alternatives node = none) :
    errorsOfUnion set alternatives node path hops =
      unionErrors path (outcomesOf set alternatives node path hops) := by
  rw [errorsOfUnion]
  split
  · rename_i named
    simp [unnamed] at named
  · rfl

section References

variable {set : SchemaSet} {name : String} {path : Path} {hops : Nat} {node : Node}

theorem errorsOf_missing (missing : set.find? name = none) :
    errorsOf set (.ref name) node path hops = [.undefinedReference name path] := by
  rw [errorsOf.eq_def]
  simp only [missing]

variable {type : CompiledType} (known : set.find? name = some type)
include known

theorem errorsOf_union {alternatives : List Shape}
    (body : type.schema.body = .union alternatives) :
    errorsOf set (.ref name) node path hops =
      if hops < set.limit then errorsOfUnion set alternatives node path (hops + 1)
      else [.referenceCycle name path] := by
  rw [errorsOf.eq_def]
  simp only [known, body]

variable {properties : Keyed Property} {required : List String} {aliases : Keyed String}
  (body : type.schema.body = .record properties required aliases)
include body

theorem errorsOf_record (fields : Keyed Node) :
    errorsOf set (.ref name) (.record fields) path hops =
      errorsOfProperties set type.schema fields properties path
        ++ undeclaredErrors type.schema fields path := by
  rw [errorsOf.eq_def]
  simp only [known, body]

theorem errorsOf_unrecorded (other : ∀ fields, node ≠ .record fields) :
    errorsOf set (.ref name) node path hops =
      [.typeMismatch type.schema.name (actualKind node) path] := by
  rw [errorsOf.eq_def]
  simp only [known, body]

end References

end DocSchema.Validation
