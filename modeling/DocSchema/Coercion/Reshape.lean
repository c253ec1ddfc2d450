import DocSchema.Coercion.Cardinality
import DocSchema.Coercion.Warning

/-!
# Reshaping records

The first pass of coercion looks at records only. It brings the names of properties to
those of the record's type, gives every property as many values as its shape holds, goes
on inside them, and then fills in what is required and still absent. Values without
parts are not looked at.
-/

namespace DocSchema.Coercion

/-- A value with the warnings of what was done to it. -/
structure Reshaped (α : Type) where
  value : α
  warnings : List Warning

/-! ### The type of a record -/

/-- The record type that a record is shaped as where a type is expected: the one its
discriminator names if that is one, else the expected one if that is one. -/
def recordTarget? (set : SchemaSet) (fields : Keyed Node) (name : String) :
    Option CompiledType :=
  match (Node.discriminator? fields).bind set.recordType? with
  | some type => some type
  | none => set.recordType? name

/-! ### Names -/

/-- Brings the keys of a record to the names of its type's properties. A key that stands
for none, or for one given before, is dropped with a warning. -/
def canonicalize (names : PropertyNames) (path : Path) (seen : List String) :
    List (String × Node) → Reshaped (List (String × Node))
  | [] => ⟨[], []⟩
  | (key, value) :: rest =>
    match names.resolve? key with
    | none =>
      let later := canonicalize names path seen rest
      ⟨later.value, .unknownProperty key path :: later.warnings⟩
    | some name =>
      if seen.contains name then
        let later := canonicalize names path seen rest
        ⟨later.value, .duplicateProperty key name path :: later.warnings⟩
      else
        let later := canonicalize names path (seen ++ [name]) rest
        ⟨(name, value) :: later.value, later.warnings⟩

theorem fieldsWeight_canonicalize (names : PropertyNames) (path : Path) (seen : List String)
    (fields : List (String × Node)) :
    Node.fieldsWeight (canonicalize names path seen fields).value ≤ Node.fieldsWeight fields := by
  induction fields generalizing seen with
  | nil => simp [canonicalize]
  | cons field rest ih =>
    obtain ⟨key, value⟩ := field
    simp only [canonicalize]
    split
    · have := ih seen
      simp only [Node.fieldsWeight]
      omega
    · split
      · have := ih seen
        simp only [Node.fieldsWeight]
        omega
      · rename_i name _ _
        have := ih (seen ++ [name])
        simp only [Node.fieldsWeight]
        omega

/-! ### Cardinality -/

/-- What becomes of a property's value so that it is as many as its shape holds: a record
is put into an array, an array gives its first item, and an empty one nothing. Text
under a decode directive is not touched. -/
def fixCardinality (set : SchemaSet) (name : String) (value : Node) (shape : Shape)
    (path : Path) : Reshaped (Option Node) :=
  match shape, value with
  | .decode _ _, .string _ => ⟨some value, []⟩
  | _, _ =>
    match Cardinality.ofShape set 0 shape, value with
    | .many, .record fields => ⟨some (.array [.record fields]), []⟩
    | .one, .array [] => ⟨none, []⟩
    | .one, .array [item] => ⟨some item, []⟩
    | .one, .array (item :: others) =>
      ⟨some item, [.cardinalityReduced name others.length (path.property name)]⟩
    | _, _ => ⟨some value, []⟩

theorem weight_fixCardinality {set : SchemaSet} {name : String} {value fixed : Node}
    {shape : Shape} {path : Path}
    (kept : (fixCardinality set name value shape path).value = some fixed) :
    fixed.weight ≤ value.weight + 2 := by
  unfold fixCardinality at kept
  split at kept
  · simp_all
  · split at kept <;> simp_all <;> subst kept <;>
      simp only [Node.weight, Node.itemsWeight] <;> omega

/-! ### Defaults -/

/-- The number of types of a set whose names are not among some. -/
def remaining (set : SchemaSet) (names : List String) : Nat :=
  set.types.countP fun type => !names.contains type.1

theorem countP_lt {α : Type} {narrow wide : α → Bool} {items : List α} {item : α}
    (included : ∀ other, narrow other = true → wide other = true) (member : item ∈ items)
    (outside : narrow item = false) (inside : wide item = true) :
    items.countP narrow < items.countP wide := by
  induction items with
  | nil => simp at member
  | cons first rest ih =>
    have rest_le : rest.countP narrow ≤ rest.countP wide :=
      List.countP_mono_left fun other _ => included other
    simp only [List.countP_cons]
    rcases List.mem_cons.mp member with rfl | later
    · simp only [outside, inside]
      simp
      omega
    · have := ih later
      have step := included first
      cases kept : narrow first
      · simp
        omega
      · simp [step kept]
        omega

theorem remaining_lt {set : SchemaSet} {names : List String} {name : String}
    {type : CompiledType} (known : set.recordType? name = some type)
    (fresh : names.contains name = false) :
    remaining set (name :: names) < remaining set names := by
  have found : Keyed.get? set.types name = some type := by
    simp only [SchemaSet.recordType?, Option.filter_eq_some_iff] at known
    exact known.1
  refine countP_lt ?_ (Keyed.mem_of_get? found) ?_ ?_
  · intro other
    simp only [List.contains_cons, Bool.not_or, Bool.and_eq_true]
    exact And.right
  · simp
  · simp only [fresh, Bool.not_false]

/-- Adds a property that is filled in: the discriminator in first place, others last. -/
def addFilled (fields : Keyed Node) (name : String) (value : Node) : Keyed Node :=
  if name = Node.typeKey then Keyed.insertFirst fields name value
  else Keyed.insert fields name value

mutual

/-- The least value of a shape. Where a record type is being filled in already, an empty
text ends the circle. -/
def emptyValue (set : SchemaSet) (filling : List String) (shape : Shape) : Node :=
  match shape with
  | .scalar .null => .null
  | .scalar .boolean => .boolean false
  | .scalar .integer => .integer 0
  | .scalar .number => .integer 0
  | .scalar .string => .string ""
  | .array _ => .array []
  | .object => .record []
  | .enum values => values.head?.getD (.string "")
  | .ref name =>
    match _known : set.recordType? name with
    | none => .string ""
    | some type =>
      if _fresh : filling.contains name = false then
        .record (fillRequired set (name :: filling) type.schema type.schema.required [])
      else .string ""
  -- An empty text is the value that is most easily converted later.
  | .any => .string ""
  | .oneOf _ => .string ""
  | .decode _ _ => .string ""
termination_by (remaining set filling, 0)
decreasing_by
  exact Prod.Lex.left _ _ (remaining_lt _known _fresh)

/-- Fills in the required properties that are absent. -/
def fillRequired (set : SchemaSet) (filling : List String) (type : TypeSchema)
    (required : List String) (fields : Keyed Node) : Keyed Node :=
  match required with
  | [] => fields
  | name :: rest =>
    if Keyed.contains fields name then fillRequired set filling type rest fields
    else
      match type.property? name with
      | none => fillRequired set filling type rest fields
      | some property =>
        let value := match property.default with
          | some value => value
          | none => emptyValue set filling property.shape
        fillRequired set filling type rest (addFilled fields name value)
termination_by (remaining set filling, required.length + 1)
decreasing_by
  · exact Prod.Lex.right _ (Nat.lt_succ_self _)
  · exact Prod.Lex.right _ (Nat.lt_succ_self _)
  · exact Prod.Lex.right _ (Nat.succ_pos _)
  · exact Prod.Lex.right _ (Nat.lt_succ_self _)

end

/-! ### Trees -/

mutual

/-- Reshapes a value found at `path` where a shape is expected. -/
def reshape (set : SchemaSet) (shape : Shape) (path : Path) (node : Node) : Reshaped Node :=
  match shape, node with
  | .ref name, .record fields =>
    match recordTarget? set fields name with
    | none => ⟨.record fields, []⟩
    | some type =>
      let record := reshapeRecord set type path fields
      ⟨.record record.value, record.warnings⟩
  | .oneOf alternatives, .record fields =>
    match _named : Shape.named? alternatives (.record fields) with
    | none => ⟨.record fields, []⟩
    | some alternative => reshape set alternative path (.record fields)
  | .array items, .array values =>
    let inside := reshapeItems set items path 0 values
    ⟨.array inside.value, inside.warnings⟩
  -- A record alone stands for an array of one record.
  | .array items, .record fields =>
    let inside := reshape set items (path.index 0) (.record fields)
    ⟨.array [inside.value], inside.warnings⟩
  | .decode _ inner, node => if node.isString then ⟨node, []⟩ else reshape set inner path node
  | _, node => ⟨node, []⟩
termination_by (node.weight, sizeOf shape)
decreasing_by
  · exact Prod.Lex.right _ (by simp only [Shape.ref.sizeOf_spec]; omega)
  · have := List.sizeOf_lt_of_mem (Shape.mem_of_named? _named)
    exact Prod.Lex.right _ (by simp only [Shape.oneOf.sizeOf_spec]; omega)
  · exact Prod.Lex.left _ _ (by simp only [Node.weight]; omega)
  · exact Prod.Lex.right _ (by simp only [Shape.array.sizeOf_spec]; omega)
  · exact Prod.Lex.right _ (by simp only [Shape.decode.sizeOf_spec]; omega)

/-- Reshapes the items of an array, the first of them at `position`. -/
def reshapeItems (set : SchemaSet) (items : Shape) (path : Path) (position : Nat)
    (values : List Node) : Reshaped (List Node) :=
  match values with
  | [] => ⟨[], []⟩
  | value :: rest =>
    let first := reshape set items (path.index position) value
    let later := reshapeItems set items path (position + 1) rest
    ⟨first.value :: later.value, first.warnings ++ later.warnings⟩
termination_by (Node.itemsWeight values, 0)
decreasing_by
  all_goals exact Prod.Lex.left _ _ (by simp only [Node.itemsWeight]; omega)

/-- Reshapes the fields of a record as one of a record type. -/
def reshapeRecord (set : SchemaSet) (type : CompiledType) (path : Path)
    (fields : List (String × Node)) : Reshaped (Keyed Node) :=
  let canonical := canonicalize type.names path [] fields
  let shaped := reshapeFields set type.schema path canonical.value
  ⟨fillRequired set [] type.schema type.schema.required shaped.value,
    canonical.warnings ++ shaped.warnings⟩
termination_by (Node.weight (.record fields), 0)
decreasing_by
  have := fieldsWeight_canonicalize type.names path [] fields
  exact Prod.Lex.left _ _ (by simp only [Node.weight]; omega)

/-- Reshapes the values of fields that have canonical names. -/
def reshapeFields (set : SchemaSet) (type : TypeSchema) (path : Path)
    (fields : List (String × Node)) : Reshaped (Keyed Node) :=
  match fields with
  | [] => ⟨[], []⟩
  | (name, value) :: rest =>
    match type.property? name with
    | none => reshapeFields set type path rest
    | some property =>
      let fixed := fixCardinality set name value property.shape path
      match _kept : fixed.value with
      | none =>
        let later := reshapeFields set type path rest
        ⟨later.value, fixed.warnings ++ later.warnings⟩
      | some value =>
        let inside := reshape set property.shape (path.property name) value
        let later := reshapeFields set type path rest
        ⟨(name, inside.value) :: later.value,
          fixed.warnings ++ inside.warnings ++ later.warnings⟩
termination_by (Node.fieldsWeight fields, 0)
decreasing_by
  · exact Prod.Lex.left _ _ (by simp only [Node.fieldsWeight]; omega)
  · exact Prod.Lex.left _ _ (by simp only [Node.fieldsWeight]; omega)
  · have := weight_fixCardinality _kept
    exact Prod.Lex.left _ _ (by simp only [Node.fieldsWeight]; omega)
  · exact Prod.Lex.left _ _ (by simp only [Node.fieldsWeight]; omega)

end

end DocSchema.Coercion
