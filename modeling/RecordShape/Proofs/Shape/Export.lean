import RecordShape.Shape.Export
import RecordShape.Proofs.Shape.Acceptance
import RecordShape.Proofs.Shape.Satisfaction

/-!
# Exported schemas mean what shapes check

A value satisfies the schema that a shape is exported as exactly if the shape accepts the value.
Bounds keep their value also where they are written as integers.
-/

namespace RecordShape

theorem Double.toBound_eq (x : Double) :
    ∃ n, x.toBound = .num n ∧ n.toDouble.scaled = x.scaled := by
  unfold toBound
  split
  · rename_i h
    exact ⟨_, rfl, scaled_ofInt_truncate h.1⟩
  · exact ⟨_, rfl, rfl⟩

theorem StringFormat.ofName?_name (format : StringFormat) : ofName? format.name = some format := by
  cases format <;> decide

theorem Json.find?_ofMembers (key name : String) (value : Option Json)
    (rest : List (String × Option Json)) :
    KeyMap.find? key (((name, value) :: rest).filterMap fun m => m.2.map (m.1, ·)) =
      if name = key then
        value.or (KeyMap.find? key (rest.filterMap fun m => m.2.map (m.1, ·)))
      else KeyMap.find? key (rest.filterMap fun m => m.2.map (m.1, ·)) := by
  cases value with
  | none => simp
  | some j => by_cases h : name = key <;> simp [KeyMap.find?, h]

namespace Shape
open JsonSchema

/-- The keywords that are about more than types, numbers and strings. -/
private def structuralKeywords : List String :=
  ["const", "enum", "items", "required", "properties", "additionalProperties", "anyOf"]

private theorem satisfies_scalar {keywords : KeyMap Json} (x : Json)
    (hnone : ∀ keyword ∈ structuralKeywords, keywords.find? keyword = none) :
    Satisfies (.obj keywords) x ↔
      (∀ name, keywords.find? "type" = some (.str name) → HasType name x) ∧
      (∀ n, x = .num n → NumberKeywords keywords n) ∧
      ∀ text, x = .str text → StringKeywords keywords text := by
  simp only [structuralKeywords, List.forall_mem_cons] at hnone
  obtain ⟨hconst, henum, hitems, hrequired, hproperties, hothers, hanyOf, -⟩ := hnone
  rw [Satisfies.eq_def]
  simp only [hconst, henum, hitems, hrequired, hproperties, hothers, hanyOf]
  simp

private theorem bound_iff (bound : Option Double) (P : Double → Prop)
    (hP : ∀ a b : Double, a.scaled = b.scaled → (P a ↔ P b)) :
    (∀ n, bound.map Double.toBound = some (.num n) → P n.toDouble) ↔
      ∀ b, bound = some b → P b := by
  cases bound with
  | none => simp
  | some b =>
    obtain ⟨n, hn, hscaled⟩ := b.toBound_eq
    rw [Option.map_some, hn]
    simp [hP n.toDouble b hscaled]

private theorem numberKeywords_iff (keywords : KeyMap Json) (rules : NumberRules)
    (hminimum : keywords.find? "minimum" = rules.minimum.map Double.toBound)
    (hmaximum : keywords.find? "maximum" = rules.maximum.map Double.toBound) (n : Number) :
    NumberKeywords keywords n ↔
      (∀ low, rules.minimum = some low → low ≤ n.toDouble) ∧
      ∀ high, rules.maximum = some high → n.toDouble ≤ high := by
  have hlow := bound_iff rules.minimum (· ≤ n.toDouble)
    fun a b h => by rw [Double.le_iff, Double.le_iff, h]
  have hhigh := bound_iff rules.maximum (n.toDouble ≤ ·)
    fun a b h => by rw [Double.le_iff, Double.le_iff, h]
  rw [← hlow, ← hhigh, ← hminimum, ← hmaximum]
  exact ⟨fun h => ⟨h.minimum, h.maximum⟩, fun h => ⟨h.1, h.2⟩⟩

private theorem satisfies_number (rules : NumberRules) (x : Json) :
    Satisfies (toSchema (number rules)) x ↔ (number rules).accepts x = true := by
  rw [toSchema, NumberRules.toSchema, Json.ofMembers, accepts_number]
  generalize hkeywords : List.filterMap _ _ = keywords
  have hnone : ∀ keyword ∈ structuralKeywords, KeyMap.find? keyword keywords = none := by
    simp [structuralKeywords, ← hkeywords, Json.find?_ofMembers, KeyMap.find?]
  have htype : KeyMap.find? "type" keywords =
      some (.str (if rules.integer then "integer" else "number")) := by
    simp [← hkeywords, Json.find?_ofMembers, KeyMap.find?]
  have hnumbers (n : Number) := numberKeywords_iff keywords rules
    (by simp [← hkeywords, Json.find?_ofMembers, KeyMap.find?])
    (by simp [← hkeywords, Json.find?_ofMembers, KeyMap.find?]) n
  rw [satisfies_scalar x hnone, htype]
  cases x with
  | num n => cases rules.integer <;> simp [hnumbers, HasType, Double.not_lt]
  | _ => cases rules.integer <;> simp [HasType]

private theorem stringKeywords_iff (keywords : KeyMap Json) (rules : StringRules)
    (hformat : keywords.find? "format" = rules.format.map fun format => .str format.name)
    (hminLength : keywords.find? "minLength" = rules.minLength.map Json.ofNat)
    (hmaxLength : keywords.find? "maxLength" = rules.maxLength.map Json.ofNat)
    (hpattern : keywords.find? "pattern" = rules.pattern.map fun pattern => .str pattern.source)
    (text : String) :
    StringKeywords keywords text ↔
      (∀ format, rules.format = some format → format.accepts text = true) ∧
      (∀ low, rules.minLength = some low → low ≤ text.length) ∧
      (∀ high, rules.maxLength = some high → text.length ≤ high) ∧
      ∀ pattern, rules.pattern = some pattern → pattern.occursIn text = true := by
  have hformats (name : String) : keywords.find? "format" = some (.str name) ↔
      ∃ format, rules.format = some format ∧ format.name = name := by
    simp [hformat]
  have hlow (n : Int) : keywords.find? "minLength" = some (.num (.int n)) ↔
      ∃ low : Nat, rules.minLength = some low ∧ (low : Int) = n := by
    simp [hminLength, Json.ofNat]
  have hhigh (n : Int) : keywords.find? "maxLength" = some (.num (.int n)) ↔
      ∃ high : Nat, rules.maxLength = some high ∧ (high : Int) = n := by
    simp [hmaxLength, Json.ofNat]
  have hpatterns (source : String) : keywords.find? "pattern" = some (.str source) ↔
      ∃ pattern, rules.pattern = some pattern ∧ pattern.source = source := by
    simp [hpattern]
  constructor
  · intro h
    refine ⟨fun format hf => ?_, fun low hl => ?_, fun high hh => ?_, fun pattern hp => ?_⟩
    · exact h.format _ format ((hformats _).mpr ⟨format, hf, rfl⟩) format.ofName?_name
    · exact Int.ofNat_le.mp (h.minLength low ((hlow low).mpr ⟨low, hl, rfl⟩))
    · exact Int.ofNat_le.mp (h.maxLength high ((hhigh high).mpr ⟨high, hh, rfl⟩))
    · exact h.pattern _ pattern ((hpatterns _).mpr ⟨pattern, hp, rfl⟩) pattern.ofSource_source
  · intro h
    obtain ⟨haccepts, hminimum, hmaximum, hoccurs⟩ := h
    refine ⟨fun name format hname hf => ?_, fun n hn => ?_, fun n hn => ?_,
      fun source pattern hsource hp => ?_⟩
    · obtain ⟨other, hother, rfl⟩ := (hformats name).mp hname
      rw [other.ofName?_name, Option.some.injEq] at hf
      exact hf ▸ haccepts other hother
    · obtain ⟨low, hl, rfl⟩ := (hlow n).mp hn
      exact Int.ofNat_le.mpr (hminimum low hl)
    · obtain ⟨high, hh, rfl⟩ := (hhigh n).mp hn
      exact Int.ofNat_le.mpr (hmaximum high hh)
    · obtain ⟨other, hother, rfl⟩ := (hpatterns source).mp hsource
      rw [other.ofSource_source, Except.ok.injEq] at hp
      exact hp ▸ hoccurs other hother

private theorem satisfies_string (rules : StringRules) (x : Json) :
    Satisfies (toSchema (string rules)) x ↔ (string rules).accepts x = true := by
  rw [toSchema, StringRules.toSchema, Json.ofMembers, accepts_string]
  generalize hkeywords : List.filterMap _ _ = keywords
  have hnone : ∀ keyword ∈ structuralKeywords, KeyMap.find? keyword keywords = none := by
    simp [structuralKeywords, ← hkeywords, Json.find?_ofMembers, KeyMap.find?]
  have htype : KeyMap.find? "type" keywords = some (.str "string") := by
    simp [← hkeywords, Json.find?_ofMembers, KeyMap.find?]
  have htexts (text : String) := stringKeywords_iff keywords rules
    (by simp [← hkeywords, Json.find?_ofMembers, KeyMap.find?])
    (by simp [← hkeywords, Json.find?_ofMembers, KeyMap.find?])
    (by simp [← hkeywords, Json.find?_ofMembers, KeyMap.find?])
    (by simp [← hkeywords, Json.find?_ofMembers, KeyMap.find?]) text
  rw [satisfies_scalar x hnone, htype]
  cases x with
  | str text => simp [htexts, HasType]
  | _ => simp [HasType]

theorem propertySchemas_eq (fields : List (String × ShapeField)) :
    propertySchemas fields = fields.map fun f => (f.1, toSchema f.2.shape) := by
  induction fields with
  | nil => rfl
  | cons f rest ih =>
    obtain ⟨key, shape, isOptional⟩ := f
    rw [propertySchemas, ih]
    rfl

theorem mem_requiredKeys (fields : List (String × ShapeField)) (key : String) :
    key ∈ requiredKeys fields ↔ ∃ field, (key, field) ∈ fields ∧ field.isOptional = false := by
  induction fields with
  | nil => simp [requiredKeys]
  | cons f rest ih =>
    obtain ⟨name, shape, isOptional⟩ := f
    cases isOptional <;> simp [requiredKeys, ih, or_and_right, exists_or, and_assoc]

private theorem fields_accepted_iff {fields : List (String × ShapeField)}
    (hfields : ∀ key field, (key, field) ∈ fields →
      ∀ x, Satisfies (toSchema field.shape) x ↔ field.shape.accepts x = true)
    (members : List (String × Json)) :
    (∀ key field, (key, field) ∈ fields → KeyAccepted members key field) ↔
      (∀ key ∈ requiredKeys fields, ∃ w, KeyMap.find? key members = some w) ∧
      ∀ key field, (key, field) ∈ fields → ∀ w, KeyMap.find? key members = some w →
        Satisfies (toSchema field.shape) w := by
  simp only [keyAccepted_iff, mem_requiredKeys]
  constructor
  · intro h
    refine ⟨fun key ⟨field, hmem, hrequired⟩ => (h key field hmem).1 hrequired, ?_⟩
    exact fun key field hmem w hw => (hfields key field hmem w).mpr ((h key field hmem).2 w hw)
  · rintro ⟨hrequired, hvalues⟩ key field hmem
    refine ⟨fun hfield => hrequired key ⟨field, hmem, hfield⟩, fun w hw => ?_⟩
    exact (hfields key field hmem w).mp (hvalues key field hmem w hw)

private theorem declares_iff {keywords : KeyMap Json} {fields : List (String × ShapeField)}
    (hproperties : keywords.find? "properties" =
      some (.obj (fields.map fun f => (f.1, toSchema f.2.shape)))) (key : String) :
    Declares keywords key ↔ KeyMap.contains fields key = true := by
  rw [KeyMap.contains_iff]
  constructor
  · intro h
    obtain ⟨properties, sub, heq, hmem⟩ := h
    rw [hproperties] at heq
    cases heq
    obtain ⟨⟨name, field⟩, hf, heq⟩ := List.mem_map.mp hmem
    cases heq
    exact ⟨field, hf⟩
  · intro h
    obtain ⟨field, hf⟩ := h
    exact ⟨_, _, hproperties, List.mem_map.mpr ⟨(key, field), hf, rfl⟩⟩

private theorem satisfies_objectKeywords {keywords : KeyMap Json}
    {fields : List (String × ShapeField)} {unknownKeys : UnknownKeys}
    (hfields : ∀ key field, (key, field) ∈ fields →
      ∀ x, Satisfies (toSchema field.shape) x ↔ field.shape.accepts x = true)
    (htype : keywords.find? "type" = some (.str "object"))
    (hrequired : keywords.find? "required" = some (.arr ((requiredKeys fields).map .str)))
    (hproperties : keywords.find? "properties" =
      some (.obj (fields.map fun f => (f.1, toSchema f.2.shape))))
    (hothers : keywords.find? "additionalProperties" = some (.bool (unknownKeys = .allow)))
    (hconst : keywords.find? "const" = none) (henum : keywords.find? "enum" = none)
    (hanyOf : keywords.find? "anyOf" = none) (x : Json) :
    Satisfies (.obj keywords) x ↔ (object ⟨fields, unknownKeys⟩).accepts x = true := by
  rw [Satisfies.eq_def]
  simp only [htype, hconst, henum, hanyOf]
  cases x with
  | obj members =>
    rw [accepts_object]
    simp only [Json.obj.injEq, exists_eq_left', fields_accepted_iff hfields]
    constructor
    · intro h
      obtain ⟨-, -, -, -, -, -, hobject, -⟩ := h
      obtain ⟨hkeys, hvalues, hrest⟩ := hobject members rfl
      refine ⟨⟨fun key hkey => ?_, fun key field hf w hw => ?_⟩, ?_⟩
      · exact hkeys _ key hrequired (List.mem_map.mpr ⟨key, hkey, rfl⟩)
      · exact hvalues _ hproperties key _ (List.mem_map.mpr ⟨(key, field), hf, rfl⟩) w hw
      · rintro rfl key w hw
        cases hcontains : KeyMap.contains fields key with
        | true => rfl
        | false =>
          have hnot : ¬Declares keywords key := by simp [declares_iff hproperties, hcontains]
          have hfalse := hrest _ hothers key w hw hnot
          rw [satisfies_bool] at hfalse
          cases hfalse
    · intro h
      obtain ⟨⟨hkeys, hvalues⟩, hclosed⟩ := h
      refine ⟨?_, by simp, by simp, by simp, by simp, by simp, ?_, by simp⟩
      · rintro name heq
        cases heq
        rfl
      · rintro _ rfl
        refine ⟨?_, ?_, ?_⟩
        · intro keys key heq hkey
          rw [hrequired] at heq
          cases heq
          obtain ⟨name, hname, heq⟩ := List.mem_map.mp hkey
          cases heq
          exact hkeys key hname
        · intro properties heq key sub hsub w hw
          rw [hproperties] at heq
          cases heq
          obtain ⟨⟨name, field⟩, hf, heq⟩ := List.mem_map.mp hsub
          cases heq
          exact hvalues name field hf w hw
        · intro others heq key w hw hnot
          have hreject : unknownKeys ≠ .reject := fun h =>
            hnot ((declares_iff hproperties key).mpr (hclosed h key w hw))
          rw [hothers] at heq
          cases heq
          rw [satisfies_bool, decide_eq_true_eq]
          cases unknownKeys with
          | allow => rfl
          | reject => exact absurd rfl hreject
  | _ => simp [HasType]

private theorem satisfies_null (x : Json) :
    Satisfies (.obj [("type", .str "null")]) x ↔ x = .null := by
  rw [satisfies_scalar x (by simp [structuralKeywords, KeyMap.find?])]
  cases x <;> simp [KeyMap.find?, HasType]

/-- A value satisfies the exported schema exactly if the shape accepts it. -/
theorem satisfies_toSchema (shape : Shape) (x : Json) :
    Satisfies shape.toSchema x ↔ shape.accepts x = true := by
  induction shape using Shape.induction generalizing x with
  | anyObject =>
    rw [toSchema, Satisfies.eq_def]
    cases x <;> simp [KeyMap.find?, HasType, satisfies_bool]
  | null =>
    rw [toSchema, satisfies_null, accepts_null]
  | boolean =>
    rw [toSchema, satisfies_scalar x (by simp [structuralKeywords, KeyMap.find?])]
    cases x <;> simp [KeyMap.find?, HasType]
  | number rules => exact satisfies_number rules x
  | string rules => exact satisfies_string rules x
  | literal text =>
    have htext (s : String) := (stringKeywords_iff [("const", .str text), ("type", .str "string")]
      {} rfl rfl rfl rfl s).mpr (by simp)
    rw [toSchema, Satisfies.eq_def]
    cases x <;> simp [KeyMap.find?, HasType, htext]
  | oneOf options =>
    have htext (s : String) := (stringKeywords_iff
      [("enum", .arr (options.map .str)), ("type", .str "string")] {} rfl rfl rfl rfl s).mpr
      (by simp)
    rw [toSchema, Json.strings, Satisfies.eq_def]
    cases x <;> simp [KeyMap.find?, HasType, htext]
  | array items ih =>
    rw [toSchema, Satisfies.eq_def]
    cases x <;> simp [KeyMap.find?, HasType, ih]
  | object fields unknownKeys ih =>
    rw [toSchema, propertySchemas_eq, Json.strings]
    exact satisfies_objectKeywords ih rfl rfl rfl rfl rfl rfl rfl x
  | nullable inner ih =>
    have htext (s : String) := (stringKeywords_iff
      [("anyOf", .arr [toSchema inner, .obj [("type", .str "null")]])] {} rfl rfl rfl rfl s).mpr
      (by simp)
    have hnumber (n : Number) := (numberKeywords_iff
      [("anyOf", .arr [toSchema inner, .obj [("type", .str "null")]])] {} rfl rfl n).mpr (by simp)
    rw [toSchema, Satisfies.eq_def]
    simp [KeyMap.find?, ih, htext, hnumber, satisfies_null, or_comm]

end Shape

/-- The schema that a shape or object is exported as is satisfied by the values that the check
accepts, and by no others. -/
theorem export_agrees_with_check :
    (∀ (shape : Shape) (x : Json), JsonSchema.Satisfies shape.toSchema x ↔ shape.accepts x = true) ∧
    ∀ (o : ObjectShape) (x : Json), JsonSchema.Satisfies o.toSchema x ↔ o.accepts x = true :=
  ⟨Shape.satisfies_toSchema, fun o x => Shape.satisfies_toSchema (.object o) x⟩

end RecordShape
