/-
# From values to documents and back

A value reaches JSON in two ways: a document is built from it, or it is handed to a format
part by part.  Both come to the same document and to the same text.  Read back, the document
is the value with its dates written out and null for the numbers that are not finite, every
map with its fields in the order they had (`Value.json_roundTrip`).
-/
import ViewKit.Json.Serializer
import ViewKit.Proofs.Number.Safe
import ViewKit.Proofs.Value.Equality

namespace ViewKit

namespace Value

/-! ## What a document can hold -/

mutual

/-- The value with its dates written out, and null for the numbers that are not finite. -/
def plain : Value → Value
  | number x => if x.isFinite then number x else null
  | date t => text t.text
  | list items => list (plainItems items)
  | map fields => map (plainFields fields)
  | v => v

/-- The items of a list, plain. -/
def plainItems : List Value → List Value
  | [] => []
  | v :: vs => plain v :: plainItems vs

/-- The fields of a map, their contents plain. -/
def plainFields : List (String × Value) → List (String × Value)
  | [] => []
  | (name, v) :: fields => (name, plain v) :: plainFields fields

end

mutual

/-- The value has no date and no number that is not finite, at any depth. -/
def IsPlain : Value → Prop
  | number x => x.isFinite = true
  | date _ => False
  | list items => ArePlainItems items
  | map fields => ArePlainFields fields
  | _ => True

/-- All items of a list are plain. -/
def ArePlainItems : List Value → Prop
  | [] => True
  | v :: vs => IsPlain v ∧ ArePlainItems vs

/-- The contents of all fields are plain. -/
def ArePlainFields : List (String × Value) → Prop
  | [] => True
  | (_, v) :: fields => IsPlain v ∧ ArePlainFields fields

end

mutual

/-- The names of each map in the value in their order, those of an outer map first. -/
def keyOrders : Value → List (List String)
  | list items => keyOrdersOfItems items
  | map fields => Fields.names fields :: keyOrdersOfFields fields
  | _ => []

/-- The names of the maps in the items of a list. -/
def keyOrdersOfItems : List Value → List (List String)
  | [] => []
  | v :: vs => keyOrders v ++ keyOrdersOfItems vs

/-- The names of the maps in the contents of fields. -/
def keyOrdersOfFields : List (String × Value) → List (List String)
  | [] => []
  | (_, v) :: fields => keyOrders v ++ keyOrdersOfFields fields

end

/-! ## Recursions on the parts as maps over them -/

lemma plainItems_eq (vs : List Value) : plainItems vs = vs.map plain := by
  induction vs with
  | nil => rfl
  | cons v vs ih => rw [plainItems, ih, List.map_cons]

lemma plainFields_eq (fields : List (String × Value)) :
    plainFields fields = Fields.mapContents plain fields := by
  induction fields with
  | nil => rfl
  | cons p fields ih =>
    rw [plainFields, ih]
    rfl

lemma arePlainItems_iff {vs : List Value} : ArePlainItems vs ↔ ∀ v ∈ vs, IsPlain v := by
  induction vs with
  | nil => simp [ArePlainItems]
  | cons v vs ih => simp [ArePlainItems, ih]

lemma arePlainFields_iff {fields : List (String × Value)} :
    ArePlainFields fields ↔ ∀ name v, (name, v) ∈ fields → IsPlain v := by
  induction fields with
  | nil => simp [ArePlainFields]
  | cons p fields ih =>
    obtain ⟨n, w⟩ := p
    simp only [ArePlainFields, ih, List.mem_cons, Prod.mk.injEq]
    constructor
    · rintro ⟨hw, hrest⟩ name v (⟨-, rfl⟩ | h)
      · exact hw
      · exact hrest name v h
    · intro h
      exact ⟨h n w (Or.inl ⟨rfl, rfl⟩), fun name v hv => h name v (Or.inr hv)⟩

lemma keyOrdersOfItems_eq (vs : List Value) : keyOrdersOfItems vs = vs.flatMap keyOrders := by
  induction vs with
  | nil => rfl
  | cons v vs ih => rw [keyOrdersOfItems, ih, List.flatMap_cons]

lemma keyOrdersOfFields_eq (fields : List (String × Value)) :
    keyOrdersOfFields fields = fields.flatMap fun p => keyOrders p.2 := by
  induction fields with
  | nil => rfl
  | cons p fields ih =>
    rw [keyOrdersOfFields, ih]
    rfl

section Serializing

variable {Output : Type} (format : Serializer Output)

lemma serializeItemsTo_eq (vs : List Value) :
    serializeItemsTo format vs = vs.map (serializeTo format) := by
  induction vs with
  | nil => rfl
  | cons v vs ih => rw [serializeItemsTo, ih, List.map_cons]

lemma serializeFieldsTo_eq (fields : List (String × Value)) :
    serializeFieldsTo format fields = Fields.mapContents (serializeTo format) fields := by
  induction fields with
  | nil => rfl
  | cons p fields ih =>
    rw [serializeFieldsTo, ih]
    rfl

end Serializing

lemma serializeItems_eq : ∀ vs : List Value,
    serializeItems vs = Text.join "," (vs.map serialize)
  | [] => rfl
  | [_] => rfl
  | v :: w :: vs => by
    rw [serializeItems, serializeItems_eq (w :: vs)]
    · rfl
    · nofun

lemma serializeFields_eq : ∀ fields : List (String × Value),
    serializeFields fields =
      Text.join "," (fields.map fun p => Json.quote p.1 ++ ":" ++ serialize p.2)
  | [] => rfl
  | [_] => rfl
  | (name, v) :: p :: fields => by
    rw [serializeFields, serializeFields_eq (p :: fields)]
    · rfl
    · nofun

end Value

namespace Json

lemma ofValues_eq (vs : List Value) : ofValues vs = vs.map ofValue := by
  induction vs with
  | nil => rfl
  | cons v vs ih => rw [ofValues, ih, List.map_cons]

lemma ofFields_eq (fields : List (String × Value)) :
    ofFields fields = Fields.mapContents ofValue fields := by
  induction fields with
  | nil => rfl
  | cons p fields ih =>
    rw [ofFields, ih]
    rfl

lemma toValues_eq (js : List Json) : toValues js = js.map toValue := by
  induction js with
  | nil => rfl
  | cons j js ih => rw [toValues, ih, List.map_cons]

lemma toFields_eq (fields : List (String × Json)) :
    toFields fields = Fields.mapContents toValue fields := by
  induction fields with
  | nil => rfl
  | cons p fields ih =>
    rw [toFields, ih]
    rfl

lemma renderItems_eq : ∀ js : List Json, renderItems js = Text.join "," (js.map render)
  | [] => rfl
  | [_] => rfl
  | j :: k :: js => by
    rw [renderItems, renderItems_eq (k :: js)]
    · rfl
    · nofun

lemma renderFields_eq : ∀ fields : List (String × Json),
    renderFields fields = Text.join "," (fields.map fun p => quote p.1 ++ ":" ++ render p.2)
  | [] => rfl
  | [_] => rfl
  | (name, j) :: p :: fields => by
    rw [renderFields, renderFields_eq (p :: fields)]
    · rfl
    · nofun

/-! ## Numbers -/

lemma serializeNumber_eq (x : Float) : Value.serializeNumber x = (ofNumber x).render := by
  rw [Value.serializeNumber, ofNumber]
  split
  · rfl
  · split
    · rfl
    · next h => rw [(Number.jsonFraction_eq_none_iff x).2 h]; rfl

/-- A number that is not finite is read back as null, and any other as itself but for the sign
of zero. -/
lemma same_toValue_ofNumber (x : Float) :
    Value.same (ofNumber x).toValue (Value.number x).plain = true := by
  rw [ofNumber, Value.plain]
  by_cases hsafe : Number.isSafeInteger x = true
  · rw [if_pos hsafe, if_pos (Number.isFinite_of_isSafeInteger hsafe)]
    exact Number.same_ofInt_toInt hsafe
  · rw [if_neg hsafe]
    split
    · exact Number.same_self x
    · rfl

lemma keyOrders_toValue_ofNumber (x : Float) : (ofNumber x).toValue.keyOrders = [] := by
  rw [ofNumber]
  split
  · rfl
  · split <;> rfl

end Json

namespace Value

/-! ## The two ways into JSON -/

/-- Building a document part by part gives the document of the value. -/
lemma serializeTo_builder {v : Value} (hv : v.WellFormed) :
    v.serializeTo Json.builder = Json.ofValue v := by
  induction v using inductionOnParts with
  | leaf v h =>
    cases v with
    | list _ => cases h
    | map _ => cases h
    | _ => rfl
  | list items ih =>
    rw [serializeTo, serializeItemsTo_eq, Json.ofValue, Json.ofValues_eq]
    refine congrArg Json.array (List.map_congr_left fun w hw => ?_)
    exact ih w hw (wellFormed_list_iff.1 hv w hw)
  | map fields ih =>
    obtain ⟨hd, hparts⟩ := wellFormed_map_iff.1 hv
    have hfields : Fields.mapContents (serializeTo Json.builder) fields =
        Fields.mapContents Json.ofValue fields := by
      refine List.map_congr_left fun p hp => ?_
      rw [ih p.1 p.2 hp (hparts p.1 p.2 hp)]
    rw [serializeTo, serializeFieldsTo_eq, hfields, Json.ofValue, Json.ofFields_eq]
    exact congrArg Json.object (hd.mapContents Json.ofValue).ofList_eq

/-- The text that is written part by part is the one of the document. -/
lemma serializeTo_printer (v : Value) : v.serializeTo Json.printer = (Json.ofValue v).render := by
  induction v using inductionOnParts with
  | leaf v h =>
    cases v with
    | list _ => cases h
    | map _ => cases h
    | number x => exact Json.serializeNumber_eq x
    | _ => rfl
  | list items ih =>
    rw [serializeTo, serializeItemsTo_eq, Json.ofValue, Json.ofValues_eq, Json.render,
      Json.renderItems_eq, List.map_map]
    rw [List.map_congr_left ih]
    rfl
  | map fields ih =>
    have hfields :
        (Fields.mapContents (serializeTo Json.printer) fields).map
            (fun p => Json.quote p.1 ++ ":" ++ p.2) =
          (Fields.mapContents Json.ofValue fields).map
            (fun p => Json.quote p.1 ++ ":" ++ p.2.render) := by
      rw [Fields.mapContents, Fields.mapContents, List.map_map, List.map_map]
      exact List.map_congr_left fun p hp => congrArg _ (ih p.1 p.2 hp)
    rw [serializeTo, serializeFieldsTo_eq, Json.ofValue, Json.ofFields_eq, Json.render,
      Json.renderFields_eq, ← hfields]
    rfl

/-- Writing the text directly is handing the value to the format that prints. -/
lemma serialize_eq (v : Value) : v.serialize = v.serializeTo Json.printer := by
  induction v using inductionOnParts with
  | leaf v h =>
    cases v with
    | list _ => cases h
    | map _ => cases h
    | _ => rfl
  | list items ih =>
    rw [serializeTo, serializeItemsTo_eq, serialize, serializeItems_eq, List.map_congr_left ih]
    rfl
  | map fields ih =>
    have hfields :
        fields.map (fun p => Json.quote p.1 ++ ":" ++ p.2.serialize) =
          (Fields.mapContents (serializeTo Json.printer) fields).map
            (fun p => Json.quote p.1 ++ ":" ++ p.2) := by
      rw [Fields.mapContents, List.map_map]
      exact List.map_congr_left fun p hp => congrArg _ (ih p.1 p.2 hp)
    rw [serializeTo, serializeFieldsTo_eq, serialize, serializeFields_eq, hfields]
    rfl

/-! ## Back from JSON -/

/-- The document of a map is read back field by field. -/
lemma toValue_ofValue_map {fields : List (String × Value)} (hd : Fields.Distinct fields) :
    (Json.ofValue (.map fields)).toValue =
      .map (Fields.mapContents (fun v => (Json.ofValue v).toValue) fields) := by
  rw [Json.ofValue, Json.toValue, Json.toFields_eq, Json.ofFields_eq,
    Fields.mapContents_mapContents, (hd.mapContents _).ofList_eq]

/-- Maps are equal if the same names stand for equal contents. -/
lemma same_map_mapContents {f g : Value → Value} {fields : List (String × Value)}
    (hd : Fields.Distinct fields)
    (h : ∀ name v, (name, v) ∈ fields → same (f v) (g v) = true) :
    same (.map (Fields.mapContents f fields)) (.map (Fields.mapContents g fields)) = true := by
  rw [same, Bool.and_eq_true, beq_iff_eq, sameFields_iff]
  refine ⟨by simp [Fields.mapContents], ?_⟩
  intro name w hw
  obtain ⟨v, hv, rfl⟩ := (Fields.mem_mapContents f).1 hw
  have hmem : (name, g v) ∈ Fields.mapContents g fields :=
    (Fields.mem_mapContents g).2 ⟨v, hv, rfl⟩
  exact ⟨g v, (hd.mapContents g).get?_of_mem hmem, h name v hv⟩

/-- A value is read back from its document as the plain value. -/
lemma same_toValue_ofValue {v : Value} (hv : v.WellFormed) :
    same (Json.ofValue v).toValue v.plain = true := by
  induction v using inductionOnParts with
  | leaf v h =>
    cases v with
    | list _ => cases h
    | map _ => cases h
    | number x => exact Json.same_toValue_ofNumber x
    | _ => exact same_self_of_leaf rfl
  | list items ih =>
    rw [Json.ofValue, Json.toValue, Json.toValues_eq, Json.ofValues_eq, plain, plainItems_eq,
      same, sameItems_iff, List.map_map, List.forall₂_map_left_iff, List.forall₂_map_right_iff,
      List.forall₂_same]
    exact fun w hw => ih w hw (wellFormed_list_iff.1 hv w hw)
  | map fields ih =>
    obtain ⟨hd, hparts⟩ := wellFormed_map_iff.1 hv
    rw [toValue_ofValue_map hd, plain, plainFields_eq]
    exact same_map_mapContents hd fun name w hw => ih name w hw (hparts name w hw)

/-- Every map is read back with its names in the order they had. -/
lemma keyOrders_toValue_ofValue {v : Value} (hv : v.WellFormed) :
    (Json.ofValue v).toValue.keyOrders = v.keyOrders := by
  induction v using inductionOnParts with
  | leaf v h =>
    cases v with
    | list _ => cases h
    | map _ => cases h
    | number x => exact Json.keyOrders_toValue_ofNumber x
    | _ => rfl
  | list items ih =>
    rw [Json.ofValue, Json.toValue, Json.toValues_eq, Json.ofValues_eq, keyOrders,
      keyOrdersOfItems_eq, keyOrders, keyOrdersOfItems_eq, List.map_map, List.flatMap_map]
    exact List.flatMap_congr fun w hw => ih w hw (wellFormed_list_iff.1 hv w hw)
  | map fields ih =>
    obtain ⟨hd, hparts⟩ := wellFormed_map_iff.1 hv
    rw [toValue_ofValue_map hd, keyOrders, keyOrdersOfFields_eq, keyOrders, keyOrdersOfFields_eq,
      Fields.names_mapContents, Fields.mapContents, List.flatMap_map]
    exact congrArg _ (List.flatMap_congr fun p hp => ih p.1 p.2 hp (hparts p.1 p.2 hp))

/-- A value without dates and numbers that are not finite is plain already. -/
lemma IsPlain.plain_eq {v : Value} (h : v.IsPlain) : v.plain = v := by
  induction v using inductionOnParts with
  | leaf v hleaf =>
    cases v with
    | list _ => cases hleaf
    | map _ => cases hleaf
    | number x => exact if_pos h
    | date t => exact False.elim h
    | _ => rfl
  | list items ih =>
    have hitems := arePlainItems_iff.1 h
    rw [plain, plainItems_eq, List.map_congr_left fun w hw => ih w hw (hitems w hw), List.map_id']
  | map fields ih =>
    have hfields := arePlainFields_iff.1 h
    have hsame : Fields.mapContents plain fields = fields := by
      rw [Fields.mapContents]
      refine (List.map_congr_left fun p hp => ?_).trans (List.map_id fields)
      rw [ih p.1 p.2 hp (hfields p.1 p.2 hp)]
      rfl
    rw [plain, plainFields_eq, hsame]

/-- The document of a value is the one that a format builds of its parts, and its text is the
one that is written of them.  Read back, it equals the value with dates written out and null
for numbers that are not finite, with the names of all maps in their order; it equals the value
itself if that has neither. -/
theorem json_roundTrip (v : Value) (hv : v.WellFormed) :
    v.serializeTo Json.builder = Json.ofValue v ∧
      v.serialize = (Json.ofValue v).render ∧
      v.serializeTo Json.printer = (Json.ofValue v).render ∧
      (Json.ofValue v).toValue == v.plain ∧
      (Json.ofValue v).toValue.keyOrders = v.keyOrders ∧
      (v.IsPlain → (Json.ofValue v).toValue == v) := by
  have hback := same_toValue_ofValue hv
  have htext := serializeTo_printer v
  refine ⟨serializeTo_builder hv, (serialize_eq v).trans htext, htext, hback,
    keyOrders_toValue_ofValue hv, fun hplain => ?_⟩
  rw [hplain.plain_eq] at hback
  exact hback

/-- A map with a date, an infinity, a zero with a sign, and another map inside of a list. -/
def mixture : Value :=
  .map [("z", .list [.map [("b", .bool true), ("a", .text "x")]]),
    ("a", .number (Number.ofInt 0).neg), ("t", .date ⟨0⟩),
    ("n", .number (Binary64.infinite true).toFloat)]

/-- The date is read back as its written form and the infinity as null; nothing changes its
place. -/
theorem json_roundTrip_mixture :
    mixture.WellFormed ∧ mixture.serializeTo Json.builder = Json.ofValue mixture ∧
      (Json.ofValue mixture).toValue.keyOrders = [["z", "a", "t", "n"], ["b", "a"]] ∧
      (Json.ofValue mixture).toValue == .map
        [("z", .list [.map [("b", .bool true), ("a", .text "x")]]),
          ("a", .number (Number.ofInt 0).neg), ("t", .text "1970-01-01T00:00:00.000Z"),
          ("n", .null)] := by
  have hv : mixture.WellFormed := by
    simp [mixture, WellFormed, WellFormedFields, WellFormedItems, Fields.Distinct, Fields.names]
  have hzero : (Number.ofInt 0).neg.isFinite = true := by decide +kernel
  have hinfinite : (Binary64.infinite true).toFloat.isFinite = false := by decide +kernel
  have htext : Instant.text ⟨0⟩ = "1970-01-01T00:00:00.000Z" := by decide +kernel
  obtain ⟨hbuilder, -, -, hplain, horders, -⟩ := json_roundTrip mixture hv
  refine ⟨hv, hbuilder, horders, ?_⟩
  simpa [mixture, plain, plainFields, plainItems, hzero, hinfinite, htext] using hplain

end Value
end ViewKit
