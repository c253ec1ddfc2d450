import DocSchema.Proofs.Coercion.Conversion
import DocSchema.Proofs.Coercion.Distinct
import DocSchema.Proofs.Coercion.Parts
import DocSchema.Proofs.Coercion.Steady

/-!
# What coercion ends in

Over a discriminated set nothing is left to convert in the outcome of a coercion, if it fits. The
memory is part of the argument: an outcome that is taken from it was settled at the same place
for the same union, so it is steady there as well. Main statement: `coerce_steady`.
-/

namespace DocSchema.Coercion

open Validation (Fits MatchesUnion)

variable {set : SchemaSet} {given : Shape}

/-! ### Sound memories and steps -/

/-- Whether an outcome has distinct keys and is steady if it fits. -/
def SteadyIfFits (set : SchemaSet) (shape : Shape) (hops : Nat) (node : Node) : Prop :=
  node.distinctKeys = true ∧ (Fits set hops shape node → Steady set shape node)

/-- Whether what is remembered for a union is steady where the union is written. -/
def Sound (set : SchemaSet) (given : Shape) (memory : UnionMemory) : Prop :=
  ∀ key node outcome, memory.known? key node = some outcome →
    outcome.node.distinctKeys = true ∧ ∀ place shape, key.union = some place →
      place.shape? set given = some shape → SteadyIfFits set shape 0 outcome.node

/-- Whether a step ends in what is steady if it fits, and remembers nothing else. -/
def StepSound (set : SchemaSet) (given : Shape) (step : Step) : Prop :=
  ∀ place shape path hops node memory coerced after, place.shape? set given = some shape →
    node.distinctKeys = true → Sound set given memory →
    step place shape path hops node memory = some (coerced, after) →
    SteadyIfFits set shape hops coerced.node ∧ Sound set given after

theorem sound_empty : Sound set given .empty := by
  intro key node outcome known
  rw [UnionMemory.known?_empty] at known
  cases known

theorem Sound.remember {memory : UnionMemory} (sound : Sound set given memory) {key : UnionKey}
    {outcome : Coerced} (distinct : outcome.node.distinctKeys = true)
    (fine : ∀ place shape, key.union = some place → place.shape? set given = some shape →
      SteadyIfFits set shape 0 outcome.node) (node : Node) :
    Sound set given (memory.remember key node outcome) := by
  intro other input found known
  rcases UnionMemory.known?_remember known with before | ⟨rfl, _, rfl⟩
  · exact sound other input found before
  · exact ⟨distinct, fine⟩

/-! ### The alternative that a value ends in -/

/-- Whether a value is settled among alternatives, and steady where a single one matches. -/
def SteadyUnion (set : SchemaSet) (alternatives : List Shape) (node : Node) : Prop :=
  matching set alternatives node ≠ [] ∧ ∀ alternative position,
    matching set alternatives node = [(alternative, position)] → Steady set alternative node

theorem steadyUnion_of_unique {alternatives : List Shape} {alternative : Shape} {node : Node}
    (matched : MatchesUnion (fun alternative => Fits set 0 alternative node) alternatives node)
    (unique : ∀ other ∈ alternatives, Fits set 0 other node → other = alternative)
    (steady : Fits set 0 alternative node → Steady set alternative node) :
    SteadyUnion set alternatives node := by
  obtain ⟨some, member, fits⟩ := matched.exists_fits
  obtain ⟨place, listed⟩ := exists_mem_matching member fits
  refine ⟨List.ne_nil_of_mem listed, fun other position only => ?_⟩
  obtain ⟨also, fitting⟩ := mem_of_matching_eq only
  have same := unique other also fitting
  subst same
  exact steady fitting

/-- A value without parts stays within the alternative it is coerced in. -/
theorem coerce_plain {alternative : Shape} (built : set.Built)
    (variant : alternative.IsVariant set) {fuel hops : Nat} {place : Place} {path : Path}
    {node : Node} {memory after : UnionMemory} {coerced : Coerced} (plain : node.IsPlain)
    (fits : Fits set 0 alternative node)
    (ran : coerce set fuel place alternative path hops node memory = some (coerced, after)) :
    coerced.node.IsPlain ∧ Fits set 0 alternative coerced.node := by
  cases fuel with
  | zero => cases ran
  | succ fuel =>
    cases alternative with
    | scalar kind =>
      cases ran
      -- A number may have become an integer, but no other kind of value.
      have fine := Validation.fits_scalar.mp fits
      have still : Validation.scalarMatches kind (coerceScalar node kind) = true := by
        rcases coerceScalar_of_matches fine with same | ⟨number, value, rfl, rfl, _, converted⟩
        · rw [same]
          exact fine
        · rw [converted]
          rfl
      exact ⟨Validation.isPlain_of_scalarMatches still, Validation.fits_scalar.mpr still⟩
    | enum values =>
      cases ran
      have same := coerceEnum_of_isMember (fun items => variant (.array items))
        (Validation.fits_enum.mp fits)
      rw [unchanged, same]
      exact ⟨plain, fits⟩
    | ref name =>
      obtain ⟨type, known⟩ := variant
      obtain ⟨fields, rfl, _⟩ := Validation.fits_typed built known fits
      exact plain.elim
    | _ => exact variant.elim

/-! ### Records -/

/-- What is known of the field that a property was coerced to; a discriminator stays. -/
def GoodField (set : SchemaSet) (_key : String) (property : Property) (value result : Node) :
    Prop :=
  SteadyIfFits set property.shape 0 result ∧
    ∀ name, property.shape = TypeSchema.discriminatorShape name → value = .string name →
      result = .string name

theorem coerce_discriminator {fuel hops : Nat} {place : Place} {path : Path} {name : String}
    {memory after : UnionMemory} {coerced : Coerced}
    (ran : coerce set fuel place (TypeSchema.discriminatorShape name) path hops (.string name)
      memory = some (coerced, after)) : coerced.node = .string name := by
  cases fuel with
  | zero => cases ran
  | succ fuel =>
    cases ran
    apply coerceEnum_of_isMember
    · simp
    · simp [Validation.isMember, Validation.literalMatches, Node.equals]

/-- The fields of a record are coerced soundly as those of the type that it is shaped as. -/
theorem coerceFields_sound {fuel : Nat} {path : Path} {name : String} {target : CompiledType}
    {fields : Keyed Node} {memory after : UnionMemory} {inside : Gathered (String × Node)}
    (built : set.Built) (aimed : recordTarget? set fields name = some target)
    (fine : ∀ key value, (key, value) ∈ fields → value.distinctKeys = true)
    (stepSound : StepSound set given (coerce set fuel)) (sound : Sound set given memory)
    (parts : coerceFields target.schema path (fun key property value =>
        coerce set fuel (.property target.schema.name key) property.shape (path.property key) 0
          value) fields memory = some (inside, after)) :
    FieldsCoerced target.schema (GoodField set) fields inside.values ∧ Sound set given after := by
  obtain ⟨other, targeted⟩ := recordTarget?_known aimed
  have targetFound := (SchemaSet.recordType?_eq_some_iff.mp targeted).1
  have named := (built.wellFormed targetFound).named
  refine coerceFields_returned (GoodField set) ?_ sound parts
  intro key property value memory coerced after member declares sound ran
  have written : (Place.property target.schema.name key).shape? set given =
      some property.shape := by
    simp [Place.shape?, named, targetFound, declares]
  obtain ⟨steady, held⟩ := stepSound _ _ _ _ _ _ _ _ written (fine key value member) sound ran
  refine ⟨⟨steady, fun name shaped given => ?_⟩, held⟩
  rw [shaped, given] at ran
  exact coerce_discriminator ran

section Fields

variable {target : CompiledType} {fields results : Keyed Node}

theorem FieldsCoerced.distinct (made : FieldsCoerced target.schema (GoodField set) fields results)
    (distinct : Keyed.Distinct fields) : Keyed.Distinct results :=
  distinct.sublist made.order

/-- A record that was coerced as the type it names still bears the name. -/
theorem FieldsCoerced.typed (built : set.Built)
    (made : FieldsCoerced target.schema (GoodField set) fields results)
    (distinct : Keyed.Distinct fields) {name : String} (known : set.recordType? name = some target)
    (typed : Node.discriminator? fields = some name) :
    Node.discriminator? results = some name := by
  obtain ⟨found, properties, required, aliases, body⟩ := SchemaSet.recordType?_eq_some_iff.mp known
  have isRecord : target.schema.isUnion = false := by
    simp [TypeSchema.isUnion, TypeSchema.alternatives?, body]
  obtain ⟨property, declares, shaped⟩ := (built.wellFormed found).discriminator isRecord
  have present : Keyed.get? fields Node.typeKey = some (.string name) := by
    unfold Node.discriminator? at typed
    split at typed
    next found =>
      cases typed
      exact found
    next => cases typed
  obtain ⟨result, listed, good⟩ :=
    made.outcome _ _ property (Keyed.mem_of_get? present) declares
  rw [good.2 name shaped rfl] at listed
  have kept := (Keyed.get?_eq_some_iff (made.distinct distinct)).mpr listed
  rw [Node.discriminator?, kept]

/-- A record that fits the expected type was coerced as that type. -/
theorem FieldsCoerced.steadyIfFits (built : set.Built)
    (made : FieldsCoerced target.schema (GoodField set) fields results)
    (distinct : Keyed.Distinct fields) {name : String} {type : CompiledType} {hops : Nat}
    (known : set.recordType? name = some type)
    (aimed : recordTarget? set fields name = some target) :
    SteadyIfFits set (.ref name) hops (.record results) := by
  have stillDistinct := made.distinct distinct
  constructor
  · refine Node.distinctKeys_record_iff.mpr ⟨stillDistinct, fun key result member => ?_⟩
    obtain ⟨value, property, _, _, good⟩ := made.source key result member
    exact good.1.1
  · intro fits
    obtain ⟨_, same, typed⟩ := Validation.fits_typed built known fits
    cases same
    -- A record that bears the name of another type would have kept it, and would not fit this one.
    have same : target = type := by
      unfold recordTarget? at aimed
      split at aimed
      next other named =>
        cases aimed
        obtain ⟨given, bears, targeted⟩ := Option.bind_eq_some_iff.mp named
        have still := made.typed built distinct targeted bears
        rw [typed] at still
        cases still
        rw [known] at targeted
        cases targeted
        rfl
      next =>
        rw [known] at aimed
        cases aimed
        rfl
    subst same
    obtain ⟨found, properties, required, aliases, body⟩ :=
      SchemaSet.recordType?_eq_some_iff.mp known
    obtain ⟨_, same, _, _, each⟩ :=
      (Validation.fits_record found body (built.wellFormed found)).mp fits
    cases same
    refine .record known (recordTarget?_of_typed typed known name) ?_ ?_
    · intro key result member
      obtain ⟨value, property, _, declares, _⟩ := made.source key result member
      exact ⟨property, declares⟩
    · intro key result property member declares
      obtain ⟨value, other, _, also, good⟩ := made.source key result member
      rw [declares] at also
      cases also
      exact good.1.2 (each key property result declares
        ((Keyed.get?_eq_some_iff stillDistinct).mpr member))

end Fields

/-! ### Unions -/

section Settling

variable {alternatives : List Shape} {fuel hops : Nat} {place : Place} {path : Path} {node : Node}
  {memory after : UnionMemory} {coerced : Coerced}

/-- Whether it is plain from a value that it belongs to an alternative. -/
def Belongs (set : SchemaSet) (alternative : Shape) (node : Node) : Prop :=
  (node.IsPlain ∧ Fits set 0 alternative node) ∨
    ∃ fields name, node = .record fields ∧ alternative = .ref name ∧
      Node.discriminator? fields = some name

theorem belongs_of_fits (built : set.Built) {alternative : Shape}
    (variant : alternative.IsVariant set) (fits : Fits set 0 alternative node) :
    Belongs set alternative node := by
  cases node with
  | array items => exact absurd fits (Validation.not_fits_variant_array built variant items)
  | record fields =>
    obtain ⟨name, _, rfl, _, typed⟩ := Validation.fits_variant_record built variant fits
    exact .inr ⟨fields, name, rfl, rfl, typed⟩
  | _ => exact .inl ⟨trivial, fits⟩

theorem belongs_of_named {alternative : Shape} {position : Nat}
    (named : namedWithPosition? alternatives node = some (alternative, position)) :
    Belongs set alternative node := by
  obtain ⟨name, typed, chosen⟩ := Option.bind_eq_some_iff.mp named
  have names := List.find?_some chosen
  cases node with
  | record fields =>
    cases alternative with
    | ref other =>
      have same : other = name := by simpa [Shape.namesType] using names
      exact .inr ⟨fields, name, rfl, by rw [same], typed⟩
    | _ => cases names
  | _ => cases typed

/-- What a value becomes within the alternative it belongs to fits no other one. -/
theorem unique_of_belongs (built : set.Built)
    (variants : ∀ alternative ∈ alternatives, alternative.IsVariant set)
    (stepSound : StepSound set given (coerce set fuel)) (sound : Sound set given memory)
    (distinct : node.distinctKeys = true) {alternative : Shape}
    (member : alternative ∈ alternatives)
    (belongs : Belongs set alternative node)
    (ran : coerce set (fuel + 1) place alternative path hops node memory = some (coerced, after))
    (matched : MatchesUnion (fun alternative => Fits set 0 alternative coerced.node) alternatives
      coerced.node) :
    ∀ other ∈ alternatives, Fits set 0 other coerced.node → other = alternative := by
  intro other listed fits
  have variant := variants alternative member
  rcases belongs with ⟨plain, fitting⟩ | ⟨fields, name, rfl, rfl, typed⟩
  -- Without parts: it fits exactly one alternative, before and after.
  · obtain ⟨stillPlain, stillFits⟩ := coerce_plain built variant plain fitting ran
    have one := (Validation.matchesUnion_plain_iff stillPlain).mp matched
    exact one.unique listed fits member stillFits
  -- A record keeps its discriminator, and that names at most one alternative.
  · obtain ⟨type, known⟩ := variant
    rw [Node.distinctKeys_record_iff] at distinct
    obtain ⟨target, inside, aimed, parts, rfl⟩ := coerce_record known rfl ran
    obtain ⟨made, -⟩ := coerceFields_sound built aimed distinct.2 stepSound sound parts
    rw [recordTarget?_of_typed typed known name] at aimed
    cases aimed
    have still := made.typed built distinct.1 known typed
    obtain ⟨named, _, rfl, _, bears⟩ :=
      Validation.fits_variant_record built (variants other listed) fits
    rw [still] at bears
    cases bears
    rfl

/-- Whether an outcome has distinct keys and is settled if it matches the union. -/
def SettledIfMatched (set : SchemaSet) (alternatives : List Shape) (node : Node) : Prop :=
  node.distinctKeys = true ∧
    (MatchesUnion (fun alternative => Fits set 0 alternative node) alternatives node →
      SteadyUnion set alternatives node)

/-- Whether a candidate is steady in the only alternative it matches. -/
def Candidate (set : SchemaSet) (alternatives : List Shape) (node : Node) : Prop :=
  node.distinctKeys = true ∧ ∃ alternative ∈ alternatives,
    isUnique set alternatives alternative node = true ∧ Steady set alternative node

theorem Candidate.settledIfMatched {alternatives : List Shape} {node : Node}
    (candidate : Candidate set alternatives node) : SettledIfMatched set alternatives node := by
  obtain ⟨distinct, alternative, member, isOnly, steady⟩ := candidate
  rw [isUnique, Bool.and_eq_true, beq_iff_eq, Validation.isValid_iff] at isOnly
  obtain ⟨fits, single⟩ := isOnly
  refine ⟨distinct, fun matched => steadyUnion_of_unique matched (fun other listed also => ?_)
    fun _ => steady⟩
  exact (length_matching_eq_one_iff.mp single).unique listed also member fits

variable {shape : Shape} (built : set.Built)
  (variants : ∀ alternative ∈ alternatives, alternative.IsVariant set)
  (below : ∀ less ≤ fuel, StepSound set given (coerce set less))
  (written : place.shape? set given = some shape)
  (stands : shape.alternativesIn? set = some alternatives)

include built variants below written stands

theorem settle_within (distinct : node.distinctKeys = true) (sound : Sound set given memory)
    {alternative : Shape} {position : Nat} (found : alternatives[position]? = some alternative)
    (belongs : Belongs set alternative node)
    (ran : coerce set fuel (place.alternative position) alternative path hops node memory =
      some (coerced, after)) :
    SettledIfMatched set alternatives coerced.node ∧ Sound set given after := by
  have member := List.mem_of_getElem? found
  have there := shape?_alternative written stands found
  obtain ⟨steady, still⟩ := below fuel (Nat.le_refl fuel) _ _ _ _ _ _ _ _ there distinct sound ran
  refine ⟨⟨steady.1, fun matched => ?_⟩, still⟩
  cases fuel with
  | zero => cases ran
  | succ fuel =>
    have unique := unique_of_belongs built variants (below fuel (Nat.le_succ fuel)) sound distinct
      member belongs ran matched
    apply steadyUnion_of_unique matched unique
    intro fits
    exact steady.2 ((Validation.fits_variant_iff (variants alternative member)).mpr fits)

theorem trial_steady (distinct : node.distinctKeys = true) (sound : Sound set given memory)
    {alternative : Shape} {position : Nat}
    (found : alternatives[position]? = some alternative)
    (ran : trial set (coerce set fuel) (place.alternative position) path hops alternative node
      memory = some (coerced, after)) :
    (isUnique set alternatives alternative coerced.node = true →
      Candidate set alternatives coerced.node) ∧ Sound set given after := by
  have member := List.mem_of_getElem? found
  have there := shape?_alternative written stands found
  obtain ⟨outcome, stepped, rfl⟩ := trial_iff.mp ran
  have shaped := distinctKeys_reshape built.distinctLiterals alternative path distinct
  obtain ⟨steady, still⟩ :=
    below fuel (Nat.le_refl fuel) _ _ _ _ _ _ _ _ there shaped sound stepped
  refine ⟨fun unique => ⟨steady.1, alternative, member, unique, ?_⟩, still⟩
  rw [isUnique, Bool.and_eq_true, Validation.isValid_iff] at unique
  exact steady.2 ((Validation.fits_variant_iff (variants alternative member)).mpr unique.1)

/-- A value that matches the union after it has been settled is steady in it. -/
theorem settle_steady (distinct : node.distinctKeys = true) (sound : Sound set given memory)
    (ran : settle set (coerce set fuel) place alternatives path hops node memory =
      some (coerced, after)) :
    SettledIfMatched set alternatives coerced.node ∧ Sound set given after := by
  have within {alternative : Shape} {position : Nat} :=
    @settle_within set given alternatives fuel hops place path node memory after coerced shape
      built variants below written stands distinct sound alternative position
  cases settle_iff.mp ran with
  | @only alternative position _ _ only ran =>
    have listed : (alternative, position) ∈ matching set alternatives node := by
      rw [only]
      exact List.mem_singleton_self _
    obtain ⟨found, fits⟩ := mem_matching_iff.mp listed
    have variant := variants alternative (List.mem_of_getElem? found)
    exact within found (belongs_of_fits built variant fits) ran
  | named unmatched named ran =>
    have found := List.mem_zipIdx_iff_getElem?.mp (mem_zipIdx_of_named named)
    exact within found (belongs_of_named named) ran
  | @searched best _ unmatched unnamed tried =>
    obtain ⟨candidates, still⟩ := tryAlternatives_returned
      (fun alternative position memory coerced after member sound ran =>
        trial_steady built variants below written stands distinct sound
          (List.mem_zipIdx_iff_getElem?.mp member) ran) (by simp) sound tried
    refine ⟨?_, still⟩
    cases best with
    | some candidate => exact (candidates candidate rfl).settledIfMatched
    | none =>
      -- Nothing was done to the value, and it still matches nothing.
      refine ⟨distinct, fun matched => ?_⟩
      obtain ⟨alternative, member, fits⟩ := matched.exists_fits
      obtain ⟨position, listed⟩ := exists_mem_matching member fits
      rw [Option.getD_none, unchanged, unmatched] at listed
      cases listed
  | several several =>
    refine ⟨⟨distinct, fun _ => ⟨?_, ?_⟩⟩, sound⟩
    · intro (empty : matching set alternatives node = [])
      simp [empty] at several
    · intro alternative position (only : matching set alternatives node = [(alternative, position)])
      simp [only] at several

/-- Remembered or settled anew, the outcome of a union is steady if it fits. -/
theorem coerceUnion_steady (distinct : node.distinctKeys = true) (sound : Sound set given memory)
    (asks : ∀ node, Fits set 0 shape node →
      MatchesUnion (fun alternative => Fits set 0 alternative node) alternatives node)
    (rests : ∀ node, SteadyUnion set alternatives node → Steady set shape node)
    (ran : coerceUnion set (coerce set fuel) place alternatives path hops node memory =
      some (coerced, after)) :
    SteadyIfFits set shape 0 coerced.node ∧ Sound set given after := by
  rcases coerceUnion_iff.mp ran with ⟨known, rfl⟩ | ⟨-, between, settled, rfl⟩
  · -- A hit: a union without alternatives is fitted by nothing, and the key of any other names its
    -- place.
    obtain ⟨stillDistinct, fine⟩ := sound _ node coerced known
    cases alternatives with
    | nil =>
      refine ⟨⟨stillDistinct, fun fits => ?_⟩, sound⟩
      obtain ⟨alternative, member, _⟩ := (asks coerced.node fits).exists_fits
      cases member
    | cons first rest => exact ⟨fine place shape rfl written, sound⟩
  · obtain ⟨steady, still⟩ := settle_steady built variants below written stands
      distinct sound settled
    have here : SteadyIfFits set shape 0 coerced.node :=
      ⟨steady.1, fun fits => rests coerced.node (steady.2 (asks coerced.node fits))⟩
    refine ⟨here, still.remember steady.1 ?_ node⟩
    -- What is remembered is found again only by the union written at this place.
    intro other found same also
    cases alternatives with
    | nil => cases same
    | cons first rest =>
      cases same
      rw [written] at also
      cases also
      exact here

end Settling

/-! ### Whole values -/

section Shapes

variable {fuel hops : Nat} {place : Place} {path : Path} {node : Node}
  {memory after : UnionMemory} (stepSound : StepSound set given (coerce set fuel))
  (distinct : node.distinctKeys = true) (sound : Sound set given memory)
include stepSound distinct sound

/-- The items of an array share the memory, which stays sound from one to the next. -/
theorem array_steady {items : Shape} {inside : Gathered Node}
    (written : place.shape? set given = some (.array items))
    (parts : coerceItems (fun position value =>
        coerce set fuel place.items items (path.index position) 0 value) 0 (itemsOf node) memory =
      some (inside, after)) :
    SteadyIfFits set (.array items) hops (.array inside.values) ∧ Sound set given after := by
  have itemsWritten : (Place.items place).shape? set given = some items := by
    simp [Place.shape?, written]
  obtain ⟨each, still⟩ := coerceItems_returned
    (fun position value memory coerced after member sound ran =>
      stepSound _ _ _ _ _ _ _ _ itemsWritten (distinctKeys_itemsOf distinct member) sound ran)
    sound parts
  refine ⟨⟨?_, fun fits => ?_⟩, still⟩
  · exact Node.distinctKeys_array_iff.mpr fun result member => (each result member).1
  · obtain ⟨results, same, fitting⟩ := Validation.fits_array.mp fits
    cases same
    exact .array fun result member => (each result member).2 (fitting result member)

theorem decode_steady {format : String} {inner : Shape} {coerced : Coerced}
    (written : place.shape? set given = some (.decode format inner))
    (ran : coerce set fuel place.inner inner path hops node memory = some (coerced, after)) :
    SteadyIfFits set (.decode format inner) hops coerced.node ∧ Sound set given after := by
  have innerWritten : (Place.inner place).shape? set given = some inner := by
    simp [Place.shape?, written]
  obtain ⟨⟨stillDistinct, steady⟩, still⟩ :=
    stepSound _ _ _ _ _ _ _ _ innerWritten distinct sound ran
  refine ⟨⟨stillDistinct, fun fits => ?_⟩, still⟩
  -- Coercion may have made a text of the value, which is then one to be decoded.
  cases coded : coerced.node.isString with
  | true =>
    obtain ⟨content, same⟩ := Validation.isString_iff.mp coded
    rw [same]
    exact .text content
  | false =>
    apply Steady.decode coded
    exact steady ((Validation.fits_decode.mp fits).resolve_left (by simp [coded]))

end Shapes

/-- What coercion ends in is steady if it fits. -/
theorem coerce_steady (built : set.Built) (discriminated : set.Discriminated)
    (obeys : given.Discriminated set) (fuel : Nat) : StepSound set given (coerce set fuel) := by
  -- The alternative that a union was settled by has been coerced with less fuel than the union, and
  -- its fields with less still.
  induction fuel using Nat.strongRecOn with
  | ind fuel ih =>
    intro place shape path hops node memory coerced after written distinct sound ran
    have rule := shape?_discriminated discriminated obeys written
    cases fuel with
    | zero => cases ran
    | succ fuel =>
      have below : ∀ less ≤ fuel, StepSound set given (coerce set less) :=
        fun less bound => ih less (by omega)
      have step := below fuel (Nat.le_refl fuel)
      cases coerce_succ_iff.mp ran with
      | any => exact ⟨⟨distinct, fun _ => .any _⟩, sound⟩
      | scalar kind =>
        refine ⟨⟨distinctKeys_coerceScalar distinct kind, fun fits => .scalar ?_⟩, sound⟩
        exact coerceScalar_twice (Validation.fits_scalar.mp fits)
      | object =>
        refine ⟨⟨distinctKeys_unwrapSingleton distinct, fun fits => ?_⟩, sound⟩
        obtain ⟨fields, same⟩ := Validation.fits_object.mp fits
        rw [same]
        exact .object fields
      | enum values =>
        refine ⟨⟨distinctKeys_coerceEnum values distinct, fun fits => .enum ?_⟩, sound⟩
        exact coerceEnum_of_isMember (fun items => rule (.array items))
          (Validation.fits_enum.mp fits)
      | array parts => exact array_steady step distinct sound written parts
      | missing missing =>
        exact ⟨⟨distinct, fun fits => absurd fits (Validation.not_fits_missing missing)⟩, sound⟩
      | record known unwrapped aimed parts =>
        have unwrappedDistinct := distinctKeys_unwrapSingleton distinct
        rw [unwrapped, Node.distinctKeys_record_iff] at unwrappedDistinct
        obtain ⟨made, still⟩ := coerceFields_sound built aimed unwrappedDistinct.2 step sound parts
        exact ⟨made.steadyIfFits built unwrappedDistinct.1 known aimed, still⟩
      | other known other =>
        -- What is no record fits no record type.
        refine ⟨⟨distinctKeys_unwrapSingleton distinct, fun fits => ?_⟩, sound⟩
        obtain ⟨fields, same, _⟩ := Validation.fits_typed built known fits
        exact absurd same (other fields)
      | @union name _ alternatives _ _ found body within ran =>
        have variants : ∀ alternative ∈ alternatives, alternative.IsVariant set :=
          fun alternative member => discriminated.alternative found body member
        have room : 0 < set.limit := by omega
        have stands : (Shape.ref name).alternativesIn? set = some alternatives := by
          simp [Shape.alternativesIn?, found, TypeSchema.alternatives?, body]
        have fits_iff {hops : Nat} {node : Node} : Fits set hops (.ref name) node ↔ _ :=
          Validation.fits_union_variants variants found body
        obtain ⟨⟨stillDistinct, steady⟩, still⟩ := coerceUnion_steady built variants below
          rfl stands distinct sound (fun node fits => (fits_iff.mp fits).2)
          (fun node settled => .union found body room settled.1 settled.2) ran
        exact ⟨⟨stillDistinct, fun fits =>
          steady (fits_iff.mpr ⟨room, (fits_iff.mp fits).2⟩)⟩, still⟩
      | beyond found body beyond =>
        exact ⟨⟨distinct, fun fits =>
          absurd ((Validation.fits_union found body).mp fits).1 beyond⟩, sound⟩
      | @oneOf alternatives _ _ ran =>
        have fits_iff {hops : Nat} {node : Node} : Fits set hops (.oneOf alternatives) node ↔ _ :=
          Validation.fits_oneOf_variants rule
        obtain ⟨⟨stillDistinct, steady⟩, still⟩ := coerceUnion_steady built rule below
          written rfl distinct sound (fun node => fits_iff.mp)
          (fun node settled => .oneOf settled.1 settled.2) ran
        exact ⟨⟨stillDistinct, fun fits => steady (fits_iff.mpr (fits_iff.mp fits))⟩, still⟩
      | text text =>
        obtain ⟨content, rfl⟩ := Validation.isString_iff.mp text
        exact ⟨⟨rfl, fun _ => .text content⟩, sound⟩
      | decode _ ran => exact decode_steady step distinct sound written ran

end DocSchema.Coercion
