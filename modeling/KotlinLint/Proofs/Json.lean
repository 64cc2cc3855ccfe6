import KotlinLint.Json
import KotlinLint.Proofs.Keys

/-!
# Objects that restate others

An object says what another one says when it has the fields of the other in any order, among fields
that its reader does not know (`Json.Restates`). A field may hold a record itself, whose object may
be restated in turn. A reader that looks its fields up by name finds in the one what it finds in the
other (`Json.Restates.exists_record?`).
-/

namespace KotlinLint.Json

/-- Whether the second value is an object that restates the first one for a reader of some known
fields: it has the fields of the first in any order, each with a value that restates the value
there, and otherwise only fields of unknown names. -/
inductive Restates (known : List String) (restatesAt : String → Json → Json → Prop) :
    Json → Json → Prop where
  /-- The fields with restated values, in an order with the unknown ones. -/
  | object {fields changed unknown restated : List (String × Json)} :
      Paired restatesAt fields changed → (∀ other ∈ unknown, other.1 ∉ known) →
      restated.Perm (changed ++ unknown) →
      Restates known restatesAt (.object fields) (.object restated)

variable {known : List String} {restatesAt : String → Json → Json → Prop}

/-- An object restates another one when its fields restate the fields there one by one. -/
theorem Restates.of_paired {fields changed : List (String × Json)}
    (paired : Paired restatesAt fields changed) :
    Restates known restatesAt (.object fields) (.object changed) := by
  have nothing : ∀ other ∈ ([] : List (String × Json)), other.1 ∉ known := nofun
  exact .object paired nothing (by rw [List.append_nil])

/-- An object restates itself when this is so of the values of its fields. -/
theorem Restates.refl {fields : List (String × Json)}
    (each : ∀ field ∈ fields, restatesAt field.1 field.2 field.2) :
    Restates known restatesAt (.object fields) (.object fields) :=
  .of_paired (.refl each)

/-- A field of an unknown name changes nothing. -/
theorem Restates.insert {json : Json} {fields : List (String × Json)} {name : String}
    (restates : Restates known restatesAt json (.object fields)) (isUnknown : name ∉ known)
    (value : Json) : Restates known restatesAt json (.object ((name, value) :: fields)) := by
  obtain @⟨_, changed, unknown, _, paired, areUnknown, perm⟩ := restates
  have allUnknown : ∀ other ∈ (name, value) :: unknown, other.1 ∉ known :=
    List.forall_mem_cons.mpr ⟨isUnknown, areUnknown⟩
  exact .object paired allUnknown ((perm.cons _).trans List.perm_middle.symm)

/-- The order of the fields does not matter. -/
theorem Restates.reorder {json : Json} {fields others : List (String × Json)}
    (restates : Restates known restatesAt json (.object fields)) (order : others.Perm fields) :
    Restates known restatesAt json (.object others) := by
  obtain @⟨_, _, _, _, paired, areUnknown, perm⟩ := restates
  exact .object paired areUnknown (order.trans perm)

/-- A reader of records finds in an object that restates another one a restated value for each of
the fields there, and no other field that it knows. -/
theorem Restates.exists_record? {fields : List (String × Json)} {json : Json}
    (restates : Restates known restatesAt (.object fields) json)
    (distinct : (fields.map Prod.fst).Nodup) :
    ∃ field, json.record? known = some field ∧
      (∀ entry ∈ fields, entry.1 ∈ known →
        ∃ value, field entry.1 = some value ∧ restatesAt entry.1 entry.2 value) ∧
      ∀ name ∈ known, name ∉ fields.map Prod.fst → field name = none := by
  obtain @⟨_, changed, unknown, restated, paired, isUnknown, perm⟩ := restates
  have names := paired.keys_eq
  -- A known name is only in restated fields, so it is found where these are.
  have mem_changed : ∀ other ∈ restated, other.1 ∈ known → other ∈ changed := by
    intro other listed isKnown
    rcases List.mem_append.mp (perm.mem_iff.mp listed) with kept | added
    · exact kept
    · exact absurd isKnown (isUnknown other added)
  refine ⟨fun name => restated.lookup name, rfl, ?_, ?_⟩
  · intro entry listed isKnown
    obtain ⟨value, isRestated, restates⟩ := paired.exists_of_mem entry listed
    refine ⟨value, lookup_eq_of_unique ?_ ?_, restates⟩
    · exact perm.mem_iff.mpr (List.mem_append_left _ isRestated)
    · intro other isOther same
      have kept := mem_changed other isOther (same ▸ isKnown)
      exact List.inj_on_of_nodup_map (names ▸ distinct) kept isRestated same
  · intro name isKnown absent
    rw [← names] at absent
    refine List.lookup_eq_none_iff.mpr fun other isOther => bne_iff_ne.mpr fun same => absent ?_
    rw [same] at isKnown ⊢
    exact List.mem_map_of_mem (mem_changed other isOther isKnown)

end KotlinLint.Json
