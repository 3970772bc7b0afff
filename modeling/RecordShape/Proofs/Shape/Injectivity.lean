import RecordShape.Proofs.Json.Equality
import RecordShape.Proofs.Shape.Export
import RecordShape.Proofs.Shape.Reports

/-!
# Exported schemas tell shapes apart

Every form of shape has a keyword or a type of its own, and everything a shape asks for stands in
its schema. So shapes that are exported as the same schema are the same, and shapes that are the
same have the same schema: a bound that is zero is written without its sign.
-/

namespace RecordShape

namespace Double

theorem truncate_eq_zero {x : Double} (h : x.units = 0) : x.truncate = 0 := by
  simp [truncate, h]

theorem toBound_zero {x : Double} (h : x.units = 0) : x.toBound = .num (.int 0) := by
  have hwhole : x.isWhole = true := by simp [isWhole, h]
  rw [toBound, truncate_eq_zero h, if_pos ⟨hwhole, by decide⟩]

theorem units_eq_zero_of_same {x y : Double} (h : x.same y = true) (hx : x.units = 0) :
    y.units = 0 := by
  have hscaled : x.scaled = y.scaled := beq_iff_eq.mp h
  unfold scaled at hscaled
  cases hy : y.negative <;> simp [hx, hy] at hscaled <;> omega

theorem toBound_eq_iff {x y : Double} : x.toBound = y.toBound ↔ x.same y = true := by
  constructor
  · intro h
    obtain ⟨n, hn, hscaled⟩ := x.toBound_eq
    obtain ⟨n', hn', hscaled'⟩ := y.toBound_eq
    rw [hn, hn', Json.num.injEq] at h
    subst h
    rw [same, beq_iff_eq, ← hscaled, hscaled']
  · intro h
    by_cases hzero : x.units = 0
    · rw [toBound_zero hzero, toBound_zero (units_eq_zero_of_same h hzero)]
    · rw [eq_of_same h hzero]

theorem zeroFree_toBound (x : Double) : x.toBound.ZeroFree := by
  by_cases hzero : x.units = 0
  · rw [toBound_zero hzero]
    exact .int 0
  · unfold toBound
    split
    · exact .int _
    · exact .double x hzero

end Double

theorem Json.str_injective : Function.Injective Json.str := fun _ _ => Json.str.inj

theorem Json.strings_injective : Function.Injective Json.strings := fun _ _ h =>
  List.map_injective_iff.mpr Json.str_injective (Json.arr.inj h)

theorem Json.ofNat_injective : Function.Injective Json.ofNat := fun _ _ h =>
  Int.ofNat.inj (Number.int.inj (Json.num.inj h))

theorem StringFormat.name_injective : Function.Injective StringFormat.name := by
  intro a b h
  rw [← Option.some.injEq, ← a.ofName?_name, h, b.ofName?_name]

theorem Pattern.source_injective : Function.Injective Pattern.source := fun _ _ => eq_of_source_eq

namespace NumberRules

theorem same_iff {a b : NumberRules} : a.same b = true ↔
    a.integer = b.integer ∧ a.minimum.map Double.toBound = b.minimum.map Double.toBound ∧
      a.maximum.map Double.toBound = b.maximum.map Double.toBound := by
  obtain ⟨integer, minimum, maximum⟩ := a
  obtain ⟨integer', minimum', maximum'⟩ := b
  cases minimum <;> cases minimum' <;> cases maximum <;> cases maximum' <;>
    simp [same, Double.toBound_eq_iff, and_assoc]

theorem toSchema_eq_iff {a b : NumberRules} : a.toSchema = b.toSchema ↔ a.same b = true := by
  rw [same_iff]
  constructor
  · intro h
    have hfind (key : String) := congrArg (KeyMap.find? key) (Json.obj.inj h)
    refine ⟨?_, ?_, ?_⟩
    · have htype := hfind "type"
      cases ha : a.integer <;> cases hb : b.integer <;>
        simp [Json.find?_ofMembers, KeyMap.find?, ha, hb] at htype ⊢
    · simpa [Json.find?_ofMembers, KeyMap.find?] using hfind "minimum"
    · simpa [Json.find?_ofMembers, KeyMap.find?] using hfind "maximum"
  · intro h
    obtain ⟨hinteger, hminimum, hmaximum⟩ := h
    rw [toSchema, toSchema, hinteger, hminimum, hmaximum]

end NumberRules

theorem StringRules.toSchema_injective : Function.Injective StringRules.toSchema := by
  intro a b h
  have hfind (key : String) := congrArg (KeyMap.find? key) (Json.obj.inj h)
  have hformat : a.format = b.format := by
    refine Option.map_injective (Json.str_injective.comp StringFormat.name_injective) ?_
    simpa [Json.find?_ofMembers, KeyMap.find?, Function.comp_def] using hfind "format"
  have hminLength : a.minLength = b.minLength := by
    refine Option.map_injective Json.ofNat_injective ?_
    simpa [Json.find?_ofMembers, KeyMap.find?] using hfind "minLength"
  have hmaxLength : a.maxLength = b.maxLength := by
    refine Option.map_injective Json.ofNat_injective ?_
    simpa [Json.find?_ofMembers, KeyMap.find?] using hfind "maxLength"
  have hpattern : a.pattern = b.pattern := by
    refine Option.map_injective (Json.str_injective.comp Pattern.source_injective) ?_
    simpa [Json.find?_ofMembers, KeyMap.find?, Function.comp_def] using hfind "pattern"
  cases a
  cases b
  cases hformat
  cases hminLength
  cases hmaxLength
  cases hpattern
  rfl

namespace Shape

/-- The forms of shapes by name. -/
def form : Shape → String
  | anyObject => "any object"
  | null => "null"
  | boolean => "boolean"
  | number _ => "number"
  | string _ => "string"
  | literal _ => "literal"
  | oneOf _ => "one of"
  | array _ => "array"
  | object _ => "object"
  | nullable _ => "nullable"

end Shape

/-- The form of the shapes that are exported with these keywords. -/
def KeyMap.exportedForm (keywords : KeyMap Json) : String :=
  if keywords.contains "anyOf" then "nullable"
  else if keywords.contains "properties" then "object"
  else if keywords.contains "additionalProperties" then "any object"
  else if keywords.contains "items" then "array"
  else if keywords.contains "const" then "literal"
  else if keywords.contains "enum" then "one of"
  else
    match keywords.find? "type" with
    | some (.str "integer") => "number"
    | some (.str name) => name
    | _ => ""

namespace Shape

theorem exists_form (shape : Shape) :
    ∃ keywords, shape.toSchema = .obj keywords ∧ KeyMap.exportedForm keywords = shape.form := by
  cases shape with
  | number rules =>
    refine ⟨_, rfl, ?_⟩
    cases rules.integer <;>
      simp [KeyMap.exportedForm, KeyMap.contains, Json.find?_ofMembers, KeyMap.find?, form]
  | string rules =>
    refine ⟨_, rfl, ?_⟩
    simp [KeyMap.exportedForm, KeyMap.contains, Json.find?_ofMembers, KeyMap.find?, form]
  | object o =>
    obtain ⟨fields, unknownKeys⟩ := o
    exact ⟨_, by rw [toSchema], rfl⟩
  | _ => exact ⟨_, by rw [toSchema], rfl⟩

theorem form_eq_of_toSchema_eq {a b : Shape} (h : a.toSchema = b.toSchema) : a.form = b.form := by
  obtain ⟨keywords, ha, hform⟩ := a.exists_form
  obtain ⟨keywords', hb, hform'⟩ := b.exists_form
  rw [ha, hb, Json.obj.injEq] at h
  rw [← hform, h, hform']

theorem keys_propertySchemas (fields : List (String × ShapeField)) :
    KeyMap.keys (propertySchemas fields) = KeyMap.keys fields := by
  rw [propertySchemas_eq, KeyMap.keys, List.map_map]
  rfl

theorem mem_keys_of_mem_requiredKeys {fields : List (String × ShapeField)} {key : String}
    (h : key ∈ requiredKeys fields) : key ∈ KeyMap.keys fields := by
  obtain ⟨field, hfield, -⟩ := (mem_requiredKeys fields key).mp h
  exact List.mem_map.mpr ⟨_, hfield, rfl⟩

theorem keys_eq_of_propertySchemas_eq {fields fields' : List (String × ShapeField)}
    (h : propertySchemas fields = propertySchemas fields') :
    KeyMap.keys fields = KeyMap.keys fields' := by
  rw [← keys_propertySchemas, h, keys_propertySchemas]

theorem requiredKeys_cons_eq_iff {key : String} (field field' : ShapeField)
    {rest rest' : List (String × ShapeField)} (hkey : key ∉ KeyMap.keys rest)
    (hkey' : key ∉ KeyMap.keys rest') :
    requiredKeys ((key, field) :: rest) = requiredKeys ((key, field') :: rest') ↔
      field.isOptional = field'.isOptional ∧ requiredKeys rest = requiredKeys rest' := by
  have hnot : requiredKeys rest ≠ key :: requiredKeys rest' := fun h =>
    hkey (mem_keys_of_mem_requiredKeys (h ▸ List.mem_cons_self))
  have hnot' : key :: requiredKeys rest ≠ requiredKeys rest' := fun h =>
    hkey' (mem_keys_of_mem_requiredKeys (h ▸ List.mem_cons_self))
  obtain ⟨shape, isOptional⟩ := field
  obtain ⟨shape', isOptional'⟩ := field'
  cases isOptional <;> cases isOptional' <;> simp [requiredKeys, hnot, hnot']

/-- Fields are the same if their schemas and their required keys are. -/
theorem sameFields_iff {fields : List (String × ShapeField)}
    (fields' : List (String × ShapeField)) (hkeys : (KeyMap.keys fields).Nodup)
    (hshapes : ∀ key field, (key, field) ∈ fields → ∀ b,
      field.shape.toSchema = b.toSchema ↔ field.shape.same b = true) :
    sameFields fields fields' = true ↔
      propertySchemas fields = propertySchemas fields' ∧
        requiredKeys fields = requiredKeys fields' := by
  induction fields generalizing fields' with
  | nil =>
    cases fields' with
    | nil => simp [sameFields]
    | cons first' rest' => simp [sameFields, propertySchemas_eq]
  | cons first rest ih =>
    cases fields' with
    | nil => simp [sameFields, propertySchemas_eq]
    | cons first' rest' =>
      obtain ⟨key, shape, isOptional⟩ := first
      obtain ⟨key', shape', isOptional'⟩ := first'
      obtain ⟨(hkey : key ∉ KeyMap.keys rest), hrest⟩ := List.nodup_cons.mp hkeys
      have hothers := ih rest' hrest fun key field hfield =>
        hshapes key field (List.mem_cons_of_mem _ hfield)
      have hrequired (hrest : propertySchemas rest = propertySchemas rest') :=
        requiredKeys_cons_eq_iff ⟨shape, isOptional⟩ ⟨shape', isOptional'⟩ hkey
          (keys_eq_of_propertySchemas_eq hrest ▸ hkey)
      simp only [sameFields, Bool.and_eq_true, decide_eq_true_eq, hothers,
        ← hshapes key _ List.mem_cons_self shape', propertySchemas, List.cons.injEq, Prod.mk.injEq]
      constructor
      · rintro ⟨⟨⟨rfl, hshape⟩, hoptional⟩, hproperties, hlisted⟩
        exact ⟨⟨⟨rfl, hshape⟩, hproperties⟩, (hrequired hproperties).mpr ⟨hoptional, hlisted⟩⟩
      · rintro ⟨⟨⟨rfl, hshape⟩, hproperties⟩, hlisted⟩
        obtain ⟨hoptional, hlisted⟩ := (hrequired hproperties).mp hlisted
        exact ⟨⟨⟨rfl, hshape⟩, hoptional⟩, hproperties, hlisted⟩

theorem form_eq_of_same {a b : Shape} (h : a.same b = true) : a.form = b.form := by
  cases a <;> cases b <;> simp [same, form] at h ⊢

theorem iff_of_form_ne {a b : Shape} (h : a.form ≠ b.form) :
    a.toSchema = b.toSchema ↔ a.same b = true :=
  iff_of_false (fun heq => h (form_eq_of_toSchema_eq heq)) fun hsame => h (form_eq_of_same hsame)

theorem toSchema_object_eq_iff {fields fields' : List (String × ShapeField)}
    {unknownKeys unknownKeys' : UnknownKeys} :
    (object ⟨fields, unknownKeys⟩).toSchema = (object ⟨fields', unknownKeys'⟩).toSchema ↔
      (propertySchemas fields = propertySchemas fields' ∧
        requiredKeys fields = requiredKeys fields') ∧ unknownKeys = unknownKeys' := by
  have hkeys : decide (unknownKeys = .allow) = decide (unknownKeys' = .allow) ↔
      unknownKeys = unknownKeys' := by
    cases unknownKeys <;> cases unknownKeys' <;> decide
  simp only [toSchema, Json.obj.injEq, List.cons.injEq, Prod.mk.injEq, true_and, and_true,
    Json.bool.injEq, hkeys, Json.strings_injective.eq_iff]
  rw [and_comm]

/-- Shapes are exported as equal schemas exactly if they are the same. -/
theorem toSchema_eq_iff {a : Shape} (ha : a.HasDistinctKeys) (b : Shape) :
    a.toSchema = b.toSchema ↔ a.same b = true := by
  induction a using Shape.induction generalizing b with
  | anyObject =>
    cases b with
    | anyObject => simp [same]
    | _ => exact iff_of_form_ne (by simp [form])
  | null =>
    cases b with
    | null => simp [same]
    | _ => exact iff_of_form_ne (by simp [form])
  | boolean =>
    cases b with
    | boolean => simp [same]
    | _ => exact iff_of_form_ne (by simp [form])
  | number rules =>
    cases b with
    | number rules' => exact NumberRules.toSchema_eq_iff
    | _ => exact iff_of_form_ne (by simp [form])
  | string rules =>
    cases b with
    | string rules' =>
      rw [same, decide_eq_true_eq, ← StringRules.toSchema_injective.eq_iff]
      rfl
    | _ => exact iff_of_form_ne (by simp [form])
  | literal text =>
    cases b with
    | literal text' => simp [toSchema, same]
    | _ => exact iff_of_form_ne (by simp [form])
  | oneOf options =>
    cases b with
    | oneOf options' => simp [toSchema, same, Json.strings_injective.eq_iff]
    | _ => exact iff_of_form_ne (by simp [form])
  | array items ih =>
    cases b with
    | array items' =>
      have hitems := ih (fun path fields keys h => ha (.index 0 :: path) fields keys (.element 0 h))
        items'
      simp [toSchema, same, hitems]
    | _ => exact iff_of_form_ne (by simp [form])
  | object fields unknownKeys ih =>
    cases b with
    | object o' =>
      obtain ⟨fields', unknownKeys'⟩ := o'
      have hfields := sameFields_iff fields' (ha [] fields unknownKeys (.self _))
        fun key field hfield => ih key field hfield fun path fields' keys h =>
          ha (.key key :: path) fields' keys (.field hfield h)
      rw [toSchema_object_eq_iff, same, Bool.and_eq_true, hfields, decide_eq_true_eq]
    | _ => exact iff_of_form_ne (by simp [form])
  | nullable inner ih =>
    cases b with
    | nullable inner' =>
      have hinner := ih (fun path fields keys h => ha path fields keys (.inner h)) inner'
      simp [toSchema, same, hinner]
    | _ => exact iff_of_form_ne (by simp [form])

theorem zeroFree_toSchema (shape : Shape) : shape.toSchema.ZeroFree := by
  induction shape using Shape.induction with
  | number rules =>
    refine Json.zeroFree_ofMembers ?_
    simp [Double.zeroFree_toBound, Json.ZeroFree.str]
  | string rules =>
    refine Json.zeroFree_ofMembers ?_
    simp [Json.zeroFree_ofNat, Json.ZeroFree.str]
  | array items ih =>
    rw [toSchema]
    refine .obj _ ?_
    simp [ih, Json.ZeroFree.str]
  | object fields unknownKeys ih =>
    rw [toSchema, propertySchemas_eq]
    refine .obj _ ?_
    have hproperties : (Json.obj (fields.map fun f => (f.1, toSchema f.2.shape))).ZeroFree := by
      refine .obj _ fun member hmember => ?_
      obtain ⟨⟨key, field⟩, hfield, rfl⟩ := List.mem_map.mp hmember
      exact ih key field hfield
    simp [hproperties, Json.zeroFree_strings, Json.ZeroFree.str, Json.ZeroFree.bool]
  | nullable inner ih =>
    rw [toSchema]
    refine .obj _ ?_
    have hnull : (Json.obj [("type", .str "null")]).ZeroFree := .obj _ (by simp [Json.ZeroFree.str])
    have hchoices : (Json.arr [toSchema inner, .obj [("type", .str "null")]]).ZeroFree :=
      .arr _ (by simp [ih, hnull])
    simpa using hchoices
  | _ =>
    rw [toSchema]
    refine .obj _ ?_
    simp [Json.zeroFree_strings, Json.ZeroFree.str, Json.ZeroFree.bool]

/-- Nothing is lost by exporting. Two shapes, one of which declares no key twice, have the same
schema if they are the same, and only then; and the schemas are equal as soon as they agree up to
the sign of zeros. -/
theorem export_loses_nothing {a : Shape} (ha : a.HasDistinctKeys) (b : Shape) :
    (a.toSchema.same b.toSchema = true ↔ a.same b = true) ∧
      (a.toSchema = b.toSchema ↔ a.same b = true) := by
  rw [(zeroFree_toSchema a).same_iff]
  exact ⟨toSchema_eq_iff ha b, toSchema_eq_iff ha b⟩

/-- Accounts have a balance and may have a comment. -/
def accountShape (least : Double) (commentOptional : Bool) : Shape :=
  .object ⟨[("balance", ⟨.number { minimum := some least }, false⟩),
    ("comment", ⟨.nullable (.literal "none"), commentOptional⟩)], .reject⟩

private theorem accountShape_hasDistinctKeys (least : Double) (commentOptional : Bool) :
    (accountShape least commentOptional).HasDistinctKeys := by
  intro path fields unknownKeys h
  cases h with
  | self => simp [KeyMap.keys]
  | field hfield h =>
    rw [List.mem_cons, List.mem_singleton] at hfield
    rcases hfield with hfield | hfield <;> cases hfield
    · cases h
    · cases h with
      | inner h => cases h

/-- The sign of a zero bound does not show in the schema, and whether the comment is optional
does. -/
theorem export_loses_nothing_account : (accountShape .zero true).HasDistinctKeys ∧
    (accountShape .zero true).same (accountShape Double.zero.neg true) = true ∧
    (accountShape .zero true).toSchema = (accountShape Double.zero.neg true).toSchema ∧
    (accountShape .zero true).toSchema ≠ (accountShape .zero false).toSchema ∧
    (accountShape .zero true).toSchema.same (accountShape .zero false).toSchema = false := by
  have hkeys := accountShape_hasDistinctKeys .zero true
  have hsame : (accountShape .zero true).same (accountShape Double.zero.neg true) = true := by
    decide +kernel
  have hother : ¬(accountShape .zero true).same (accountShape .zero false) = true := by
    decide +kernel
  obtain ⟨hvalue, heq⟩ := export_loses_nothing hkeys (accountShape .zero false)
  exact ⟨hkeys, hsame, (export_loses_nothing hkeys _).2.mpr hsame, fun h => hother (heq.mp h),
    Bool.eq_false_iff.mpr fun h => hother (hvalue.mp h)⟩

end Shape
end RecordShape
