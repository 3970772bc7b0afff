import Mathlib.Data.List.Nodup
import RecordShape.Proofs.Json.Normal
import RecordShape.Proofs.Shape.Violations

/-!
# Reports are complete, in order and without repetition

The issues of an array or an object are those of its parts, one part after another. Where no key is
declared twice and no object has a key twice, the parts lie at different places, so that a report
says the same thing about the same place only once.
-/

namespace RecordShape

/-- No object in the shape declares a key twice. -/
def Shape.HasDistinctKeys (shape : Shape) : Prop :=
  ∀ path fields unknownKeys, shape.Holds path (.object ⟨fields, unknownKeys⟩) →
    (KeyMap.keys fields).Nodup

/-- No object in the value has a key twice. -/
def Json.HasDistinctKeys (j : Json) : Prop :=
  ∀ path members, j.at? path = some (.obj members) → (KeyMap.keys members).Nodup

theorem Json.IsNormal.hasDistinctKeys {j : Json} (h : j.IsNormal) : j.HasDistinctKeys := by
  intro path members hpart
  induction path generalizing j with
  | nil =>
    cases hpart
    exact KeyMap.nodup_keys (ordered_of_isNormal_obj h)
  | cons step path ih =>
    cases step with
    | key key =>
      cases j with
      | obj members' =>
        obtain ⟨e, he, hpart⟩ := Option.bind_eq_some_iff.mp hpart
        exact ih (isNormal_of_mem_obj h (KeyMap.mem_of_find?_eq_some he)) hpart
      | _ => cases hpart
    | index i =>
      cases j with
      | arr elements =>
        obtain ⟨e, he, hpart⟩ := Option.bind_eq_some_iff.mp hpart
        exact ih (isNormal_of_mem_arr h (List.mem_of_getElem? he)) hpart
      | _ => cases hpart

/-- The place an issue is about and what is wrong there. -/
def Issue.mark (issue : Issue) : Path × IssueCode := (issue.path, issue.code)

section
variable {issues issues' : List Issue}

theorem nodup_mark_of_length (h : issues.length ≤ 1) : (issues.map Issue.mark).Nodup := by
  cases issues with
  | nil => exact List.nodup_nil
  | cons issue rest =>
    have hrest : rest = [] := by
      rw [List.length_cons] at h
      exact List.length_eq_zero_iff.mp (by omega)
    rw [hrest]
    exact List.nodup_singleton _

theorem nodup_mark_of_code (h : (issues.map Issue.code).Nodup) : (issues.map Issue.mark).Nodup := by
  refine List.Nodup.of_map Prod.snd ?_
  rw [List.map_map]
  exact h

theorem nodup_mark_under (path : Path) (h : (issues.map Issue.mark).Nodup) :
    ((issues.map (Issue.under path)).map Issue.mark).Nodup := by
  have hmarks : (issues.map (Issue.under path)).map Issue.mark =
      (issues.map Issue.mark).map fun mark => (path ++ mark.1, mark.2) := by
    simp only [List.map_map]
    rfl
  rw [hmarks]
  refine h.map fun a b hab => ?_
  obtain ⟨hpath, hcode⟩ := Prod.mk.inj hab
  exact Prod.ext (List.append_cancel_left hpath) hcode

theorem nodup_mark_flatMap {ι : Type} {parts : List ι} (step : ι → PathSegment)
    {f : ι → List Issue} (hsteps : (parts.map step).Nodup)
    (hunder : ∀ i ∈ parts, ∀ issue ∈ f i, ∃ rest, issue.path = step i :: rest)
    (hparts : ∀ i ∈ parts, ((f i).map Issue.mark).Nodup) :
    ((parts.flatMap f).map Issue.mark).Nodup := by
  rw [List.map_flatMap, List.nodup_flatMap]
  refine ⟨hparts, ?_⟩
  have hdistinct : parts.Pairwise fun i i' => step i ≠ step i' := List.pairwise_map.mp hsteps
  refine hdistinct.imp_of_mem fun {i i'} hi hi' hne => ?_
  intro mark hmark hmark'
  obtain ⟨issue, hissue, rfl⟩ := List.mem_map.mp hmark
  obtain ⟨issue', hissue', heq⟩ := List.mem_map.mp hmark'
  obtain ⟨rest, hpath⟩ := hunder i hi issue hissue
  obtain ⟨rest', hpath'⟩ := hunder i' hi' issue' hissue'
  have hsame : issue'.path = issue.path := (Prod.mk.inj heq).1
  rw [hpath, hpath'] at hsame
  exact hne (List.cons.inj hsame).1.symm

end

theorem length_issueIf_le (condition : Bool) (path : Path) (code : IssueCode) (message : String) :
    (issueIf condition path code message).length ≤ 1 := by
  cases condition <;> simp [issueIf]

theorem codes_issueIf_sublist (condition : Bool) (path : Path) (code : IssueCode)
    (message : String) : ((issueIf condition path code message).map Issue.code).Sublist [code] := by
  cases condition with
  | false => exact List.nil_sublist _
  | true => exact List.Sublist.refl _

theorem NumberRules.nodup_mark_issues (rules : NumberRules) (path : Path) (j : Json) :
    ((rules.issues path j).map Issue.mark).Nodup := by
  refine nodup_mark_of_code ?_
  cases j with
  | num n =>
    have hcodes : ((rules.issues path (.num n)).map Issue.code).Sublist
        ([.notInteger] ++ [.tooSmall] ++ [.tooLarge]) := by
      simp only [issues, List.map_append]
      refine .append (.append (codes_issueIf_sublist ..) ?_) ?_
      all_goals
        split
        · exact List.nil_sublist _
        · exact codes_issueIf_sublist ..
    exact hcodes.nodup (by decide)
  | _ => exact List.nodup_singleton _

theorem StringRules.nodup_mark_issues (rules : StringRules) (path : Path) (j : Json) :
    ((rules.issues path j).map Issue.mark).Nodup := by
  refine nodup_mark_of_code ?_
  cases j with
  | str s =>
    have hcodes : ((rules.issues path (.str s)).map Issue.code).Sublist
        ([.invalidFormat] ++ [.tooShort] ++ [.tooLong] ++ [.patternMismatch]) := by
      simp only [issues, List.map_append]
      refine .append (.append (.append ?_ ?_) ?_) ?_
      all_goals
        split
        · exact List.nil_sublist _
        · exact codes_issueIf_sublist ..
    exact hcodes.nodup (by decide)
  | _ => exact List.nodup_singleton _

namespace Shape

theorem elementIssues_eq (check : Path → Json → List Issue) (path : Path) (i : Nat)
    (elements : List Json) :
    elementIssues check path i elements =
      (elements.zipIdx i).flatMap fun part => check (path ++ [.index part.2]) part.1 := by
  induction elements generalizing i with
  | nil => rfl
  | cons first rest ih => rw [elementIssues, ih, List.zipIdx_cons, List.flatMap_cons]

theorem issues_array (items : Shape) (elements : List Json) :
    issues [] (.array items) (.arr elements) = elements.zipIdx.flatMap fun part =>
      (issues [] items part.1).map (Issue.under [.index part.2]) := by
  rw [issues, elementIssues_eq]
  exact List.flatMap_congr fun part _ => issues_eq_map_under items [.index part.2] part.1

theorem keyIssues_eq (members : List (String × Json)) (key : String) (field : ShapeField) :
    keyIssues [] members key field =
      match KeyMap.find? key members with
      | some e => (issues [] field.shape e).map (Issue.under [.key key])
      | none => issueIf (!field.isOptional) [.key key] .missingKey "required key is missing" := by
  unfold keyIssues
  cases KeyMap.find? key members with
  | some e => exact issues_eq_map_under field.shape [.key key] e
  | none => rfl

theorem path_of_mem_keyIssues {members : List (String × Json)} {key : String} {field : ShapeField}
    {issue : Issue} (h : issue ∈ keyIssues [] members key field) :
    ∃ rest, issue.path = .key key :: rest := by
  have hreported : Reported (keyIssues [] members key field) issue.path issue.code :=
    ⟨issue, h, rfl, rfl⟩
  rcases reported_keyIssues.mp hreported with ⟨e, rest, -, hpath, -⟩ | ⟨-, -, hpath, -⟩
  · exact ⟨rest, hpath⟩
  · exact ⟨[], hpath⟩

theorem path_of_mem_unknownKeyIssues {fields : List (String × ShapeField)}
    {members : List (String × Json)} {issue : Issue}
    (h : issue ∈ unknownKeyIssues fields [] members) :
    ∃ key, issue.path = [.key key] ∧ KeyMap.contains fields key = false := by
  have hreported : Reported (unknownKeyIssues fields [] members) issue.path issue.code :=
    ⟨issue, h, rfl, rfl⟩
  obtain ⟨key, hpath, -, hundeclared, -⟩ := reported_unknownKeyIssues.mp hreported
  exact ⟨key, hpath, hundeclared⟩

theorem nodup_mark_unknownKeyIssues {fields : List (String × ShapeField)}
    {members : List (String × Json)} (hkeys : (KeyMap.keys members).Nodup) :
    ((unknownKeyIssues fields [] members).map Issue.mark).Nodup := by
  refine nodup_mark_flatMap (fun member => .key member.1) ?_ ?_ ?_
  · have hsteps := hkeys.map fun _ _ => PathSegment.key.inj
    rwa [KeyMap.keys, List.map_map] at hsteps
  · intro member _ issue hissue
    obtain ⟨-, rfl⟩ := mem_issueIf.mp hissue
    exact ⟨[], rfl⟩
  · intro member _
    exact nodup_mark_of_length (length_issueIf_le ..)

theorem nodup_mark_keyIssues {members : List (String × Json)} {key : String} {field : ShapeField}
    (h : ∀ e, KeyMap.find? key members = some e →
      ((issues [] field.shape e).map Issue.mark).Nodup) :
    ((keyIssues [] members key field).map Issue.mark).Nodup := by
  rw [keyIssues_eq]
  cases hfound : KeyMap.find? key members with
  | some e => exact nodup_mark_under _ (h e hfound)
  | none => exact nodup_mark_of_length (length_issueIf_le ..)

theorem nodup_mark_listedIssues (options : List String) (path : Path) (message : String → String)
    (j : Json) : ((listedIssues options path message j).map Issue.mark).Nodup := by
  cases j with
  | str s => exact nodup_mark_of_length (length_issueIf_le ..)
  | _ => exact List.nodup_singleton _

/-- Nothing is reported twice. -/
theorem nodup_mark_issues (shape : Shape) (j : Json) (hshape : shape.HasDistinctKeys)
    (hj : j.HasDistinctKeys) : ((issues [] shape j).map Issue.mark).Nodup := by
  induction shape using Shape.induction generalizing j with
  | anyObject => exact nodup_mark_of_length (by cases j <;> simp [issues])
  | null => exact nodup_mark_of_length (by cases j <;> simp [issues, Json.isNull])
  | boolean => exact nodup_mark_of_length (by cases j <;> simp [issues])
  | number rules => exact rules.nodup_mark_issues [] j
  | string rules => exact rules.nodup_mark_issues [] j
  | literal text => exact nodup_mark_listedIssues [text] [] _ j
  | oneOf options => exact nodup_mark_listedIssues options [] _ j
  | array items ih =>
    cases j with
    | arr elements =>
      rw [issues_array]
      refine nodup_mark_flatMap (fun part => .index part.2) ?_ ?_ ?_
      · have hindices : (elements.zipIdx.map Prod.snd).Nodup := by
          rw [List.zipIdx_map_snd]
          exact List.nodup_range'
        have hsteps := hindices.map fun _ _ => PathSegment.index.inj
        rwa [List.map_map] at hsteps
      · intro part _ issue hissue
        obtain ⟨inside, -, rfl⟩ := List.mem_map.mp hissue
        exact ⟨inside.path, rfl⟩
      · intro part hpart
        have he : elements[part.2]? = some part.1 := List.mem_zipIdx_iff_getElem?.mp hpart
        refine nodup_mark_under _
          (ih part.1 (fun path fields keys h => ?_) fun path members h => ?_)
        · exact hshape (.index 0 :: path) fields keys (.element 0 h)
        · refine hj (.index part.2 :: path) members ?_
          rw [Json.at?, he, Option.bind_some, h]
    | _ => exact List.nodup_singleton _
  | object fields unknownKeys ih =>
    cases j with
    | obj members =>
      have hfields : (KeyMap.keys fields).Nodup := hshape [] fields unknownKeys (.self _)
      have hmembers : (KeyMap.keys members).Nodup := hj [] members rfl
      rw [issues, fieldIssues_eq, List.map_append, List.nodup_append]
      refine ⟨?declared, ?unknown, ?apart⟩
      case declared =>
        refine nodup_mark_flatMap (fun field => .key field.1) ?_ ?_ ?_
        · have hsteps := hfields.map fun _ _ => PathSegment.key.inj
          rwa [KeyMap.keys, List.map_map] at hsteps
        · intro field _ issue hissue
          exact path_of_mem_keyIssues hissue
        · rintro ⟨key, field⟩ hfield
          refine nodup_mark_keyIssues fun e he => ?_
          refine ih key field hfield e (fun path fields' keys h => ?_) fun path members' h => ?_
          · exact hshape (.key key :: path) fields' keys (.field hfield h)
          · refine hj (.key key :: path) members' ?_
            rw [Json.at?, he, Option.bind_some, h]
      case unknown =>
        split
        · exact nodup_mark_unknownKeyIssues hmembers
        · exact List.nodup_nil
      case apart =>
        -- A key cannot be declared and not declared.
        intro mark hmark mark' hmark' heq
        obtain ⟨issue, hissue, rfl⟩ := List.mem_map.mp hmark
        obtain ⟨issue', hissue', rfl⟩ := List.mem_map.mp hmark'
        obtain ⟨⟨key, field⟩, hfield, hissue⟩ := List.mem_flatMap.mp hissue
        obtain ⟨rest, hpath⟩ := path_of_mem_keyIssues hissue
        split at hissue'
        · obtain ⟨key', hpath', hundeclared⟩ := path_of_mem_unknownKeyIssues hissue'
          have hsame : issue.path = issue'.path := (Prod.mk.inj heq).1
          rw [hpath, hpath'] at hsame
          cases hsame
          rw [KeyMap.contains_iff.mpr ⟨field, hfield⟩] at hundeclared
          cases hundeclared
        · cases hissue'
    | _ => exact List.nodup_singleton _
  | nullable inner ih =>
    rw [issues]
    split
    · exact List.nodup_nil
    · exact ih j (fun path fields keys h => hshape path fields keys (.inner h)) hj

/-- A report holds one issue for everything that is amiss with a value and no other. Each is about
a part of the value, unless it says that the part is missing. The issues of the parts of an array
or an object come one part after another. -/
theorem reports_all_amiss (shape : Shape) (j : Json) :
    (∀ path code, Reported (shape.check j).issues path code ↔ shape.IsAmiss j path code) ∧
    (shape.HasDistinctKeys → j.HasDistinctKeys →
      ((shape.check j).issues.map Issue.mark).Nodup) ∧
    (∀ issue ∈ (shape.check j).issues, issue.code ≠ .missingKey →
      ∃ w, j.at? issue.path = some w) ∧
    (∀ items elements, shape = .array items → j = .arr elements →
      (shape.check j).issues = elements.zipIdx.flatMap fun part =>
        (items.check part.1).issues.map (Issue.under [.index part.2])) ∧
    ∀ fields unknownKeys members, shape = .object ⟨fields, unknownKeys⟩ → j = .obj members →
      (shape.check j).issues =
        (fields.flatMap fun field =>
          match KeyMap.find? field.1 members with
          | some e => (field.2.shape.check e).issues.map (Issue.under [.key field.1])
          | none => issueIf (!field.2.isOptional) [.key field.1] .missingKey
              "required key is missing") ++
        if unknownKeys = .reject then
          members.flatMap fun member => issueIf (!KeyMap.contains fields member.1)
            [.key member.1] .unknownKey "key is not declared"
        else [] := by
  refine ⟨fun path code => reported_iff_isAmiss shape j, nodup_mark_issues shape j, ?_, ?_, ?_⟩
  · intro issue hissue hcode
    have hamiss := (reported_iff_isAmiss shape j).mp ⟨issue, hissue, rfl, rfl⟩
    exact hamiss.exists_at? hcode
  · rintro items elements rfl rfl
    exact issues_array items elements
  · rintro fields unknownKeys members rfl rfl
    have hfields : fieldIssues [] members fields = fields.flatMap fun field =>
        match KeyMap.find? field.1 members with
        | some e => (issues [] field.2.shape e).map (Issue.under [.key field.1])
        | none => issueIf (!field.2.isOptional) [.key field.1] .missingKey
            "required key is missing" := by
      rw [fieldIssues_eq]
      exact List.flatMap_congr fun field _ => keyIssues_eq members field.1 field.2
    exact congrArg (· ++ _) hfields

/-- Parcels make stops, of which some may not be known yet. -/
def stopShape : Shape := .object ⟨[("city", ⟨.string {}, false⟩)], .reject⟩

def parcelShape : Shape :=
  .object ⟨[("sender", ⟨.string { format := some .email, minLength := some 5 }, false⟩),
    ("stops", ⟨.array (.nullable stopShape), true⟩)], .reject⟩

def parcel : Json :=
  .obj [("sender", .str "Ann"), ("stops", .arr [.null, .obj [("town", .str "Oslo")]]),
    ("weight", .ofNat 3)]

private theorem parcelShape_hasDistinctKeys : parcelShape.HasDistinctKeys := by
  intro path fields unknownKeys h
  cases h with
  | self => decide
  | field hfield h =>
    rw [List.mem_cons, List.mem_singleton] at hfield
    rcases hfield with hfield | hfield <;> cases hfield
    · cases h
    · cases h with
      | element i h =>
        cases h with
        | inner h =>
          cases h with
          | self => decide
          | field hfield h =>
            cases List.mem_singleton.mp hfield
            cases h

/-- Two things are wrong with the sender, the second stop lacks one key and has another, and the
weight was not asked for. -/
theorem reports_all_amiss_parcel : parcelShape.HasDistinctKeys ∧ parcel.HasDistinctKeys ∧
    (parcelShape.check parcel).issues.map Issue.mark =
      [([.key "sender"], .invalidFormat), ([.key "sender"], .tooShort),
        ([.key "stops", .index 1, .key "city"], .missingKey),
        ([.key "stops", .index 1, .key "town"], .unknownKey), ([.key "weight"], .unknownKey)] ∧
    ((parcelShape.check parcel).issues.map Issue.mark).Nodup ∧
    parcelShape.IsAmiss parcel [.key "stops", .index 1, .key "city"] .missingKey ∧
    ¬parcelShape.IsAmiss parcel [.key "stops", .index 0] .invalidType := by
  have hnormal : parcel.IsNormal := rfl
  have hmarks : (parcelShape.check parcel).issues.map Issue.mark =
      [([.key "sender"], .invalidFormat), ([.key "sender"], .tooShort),
        ([.key "stops", .index 1, .key "city"], .missingKey),
        ([.key "stops", .index 1, .key "town"], .unknownKey), ([.key "weight"], .unknownKey)] := by
    decide +kernel
  obtain ⟨hamiss, hnodup, -⟩ := reports_all_amiss parcelShape parcel
  have hreported (path : Path) (code : IssueCode) :
      parcelShape.IsAmiss parcel path code ↔
        (path, code) ∈ (parcelShape.check parcel).issues.map Issue.mark := by
    rw [← hamiss, List.mem_map]
    exact exists_congr fun issue => and_congr_right fun _ => Prod.mk.injEq .. ▸ Iff.rfl
  refine ⟨parcelShape_hasDistinctKeys, hnormal.hasDistinctKeys, hmarks,
    hnodup parcelShape_hasDistinctKeys hnormal.hasDistinctKeys, ?_, ?_⟩
  · rw [hreported, hmarks]
    decide
  · rw [hreported, hmarks]
    decide

end Shape
end RecordShape
