import Mathlib.Data.List.Nodup
import Mathlib.Data.List.Perm.Basic

/-!
# Values with keys

Among values with distinct keys a search by key finds each of them, so it does not depend on the
order of the values. Lists whose keys agree up to order also agree up to order in everything that
the keys decide.
-/

namespace KotlinLint

variable {α β κ : Type} {key : α → κ}

section Search

variable [DecidableEq κ]

/-- A look-up by key answers what an entry has under the key. -/
theorem mem_of_lookup_eq_some {entries : List (κ × β)} {wanted : κ} {value : β}
    (found : entries.lookup wanted = some value) : (wanted, value) ∈ entries := by
  obtain ⟨before, after, parts, _⟩ := List.lookup_eq_some_iff.mp found
  rw [parts]
  exact List.mem_append_cons_self

/-- A look-up by key finds the value of the only entry with the key. -/
theorem lookup_eq_of_unique {entries : List (κ × β)} {wanted : κ} {value : β}
    (listed : (wanted, value) ∈ entries)
    (only : ∀ other ∈ entries, other.1 = wanted → other = (wanted, value)) :
    entries.lookup wanted = some value := by
  cases found : entries.lookup wanted with
  | none => exact absurd rfl (bne_iff_ne.mp (List.lookup_eq_none_iff.mp found _ listed))
  | some other => rw [(Prod.mk.inj (only _ (mem_of_lookup_eq_some found) rfl)).2]

/-- Among values with distinct keys the search by key finds each of them. -/
theorem find?_key_of_distinct {values : List α} {value : α}
    (distinct : (values.map key).Nodup) (listed : value ∈ values) :
    values.find? (key · = key value) = some value := by
  cases found : values.find? (key · = key value) with
  | none => exact absurd (decide_eq_true rfl) (List.find?_eq_none.mp found value listed)
  | some other =>
    have same := List.find?_some found
    rw [decide_eq_true_eq] at same
    rw [List.inj_on_of_nodup_map distinct (List.mem_of_find?_eq_some found) listed same]

/-- Among values with distinct keys the search by key does not depend on their order. -/
theorem find?_key_of_perm {first second : List α} (same : first.Perm second)
    (distinct : (first.map key).Nodup) (wanted : κ) :
    first.find? (key · = wanted) = second.find? (key · = wanted) := by
  have alsoDistinct : (second.map key).Nodup := (same.map key).nodup_iff.mp distinct
  cases found : first.find? (key · = wanted) with
  | none =>
    refine (List.find?_eq_none.mpr fun value listed => ?_).symm
    exact List.find?_eq_none.mp found value (same.mem_iff.mpr listed)
  | some value =>
    have hasKey := List.find?_some found
    rw [decide_eq_true_eq] at hasKey
    have listed := same.mem_iff.mp (List.mem_of_find?_eq_some found)
    rw [← hasKey, find?_key_of_distinct alsoDistinct listed]

end Search

section Paired

/-- Whether entries have the keys of others one by one, with values that are related at the key. -/
inductive Paired (Related : κ → α → β → Prop) : List (κ × α) → List (κ × β) → Prop where
  | nil : Paired Related [] []
  | cons {key : κ} {value : α} {other : β} {entries : List (κ × α)} {others : List (κ × β)} :
      Related key value other → Paired Related entries others →
      Paired Related ((key, value) :: entries) ((key, other) :: others)

variable {Related : κ → α → β → Prop} {entries : List (κ × α)} {others : List (κ × β)}

/-- Paired entries have the same keys. -/
theorem Paired.keys_eq (paired : Paired Related entries others) :
    others.map Prod.fst = entries.map Prod.fst := by
  induction paired with
  | nil => rfl
  | cons _ _ ih => rw [List.map_cons, List.map_cons, ih]

/-- Each entry is paired with one of the same key. -/
theorem Paired.exists_of_mem (paired : Paired Related entries others) :
    ∀ entry ∈ entries, ∃ other, (entry.1, other) ∈ others ∧ Related entry.1 entry.2 other := by
  induction paired with
  | nil => exact nofun
  | cons related _ ih =>
    refine List.forall_mem_cons.mpr ⟨⟨_, List.mem_cons_self, related⟩, fun entry listed => ?_⟩
    obtain ⟨other, isOther, relates⟩ := ih entry listed
    exact ⟨other, List.mem_cons_of_mem _ isOther, relates⟩

/-- Entries are paired with no others when each value is related to itself only. -/
theorem Paired.eq_of_only {Related : κ → α → α → Prop} {others : List (κ × α)}
    (paired : Paired Related entries others)
    (only : ∀ entry ∈ entries, ∀ other, Related entry.1 entry.2 other → other = entry.2) :
    others = entries := by
  induction paired with
  | nil => rfl
  | cons related _ ih =>
    obtain ⟨here, later⟩ := List.forall_mem_cons.mp only
    rw [here _ related, ih later]

/-- Entries are paired with themselves when each value is related to itself. -/
theorem Paired.refl {Related : κ → α → α → Prop}
    (each : ∀ entry ∈ entries, Related entry.1 entry.2 entry.2) :
    Paired Related entries entries := by
  induction entries with
  | nil => exact .nil
  | cons entry rest ih =>
    obtain ⟨here, later⟩ := List.forall_mem_cons.mp each
    exact .cons here (ih later)

section Read

variable {read? : α → Option β}

/-- Entries whose values are read one by one are paired with what is read. -/
theorem mapM_eq_some_iff_paired {reads : List (κ × β)} :
    (entries.mapM fun (key, value) => (read? value).map (key, ·)) = some reads ↔
      Paired (fun _ value read => read? value = some read) entries reads := by
  induction entries generalizing reads with
  | nil =>
    constructor
    · rintro ⟨⟩
      exact .nil
    · rintro ⟨⟩
      rfl
  | cons entry rest ih =>
    obtain ⟨key, value⟩ := entry
    simp only [List.mapM_cons, Option.bind_eq_bind, Option.bind_eq_some_iff, Option.pure_def,
      Option.map_eq_some_iff, Option.some.injEq, ih]
    constructor
    · rintro ⟨_, ⟨read, found, rfl⟩, others, paired, rfl⟩
      exact .cons found paired
    · rintro (_ | ⟨found, paired⟩)
      exact ⟨_, ⟨_, found, rfl⟩, _, paired, rfl⟩

/-- Entries cannot be read exactly when the value of one of them cannot. -/
theorem mapM_eq_none_iff_exists :
    (entries.mapM fun (key, value) => (read? value).map (key, ·)) = none ↔
      ∃ entry ∈ entries, read? entry.2 = none := by
  induction entries with
  | nil => exact ⟨nofun, nofun⟩
  | cons entry rest ih =>
    obtain ⟨key, value⟩ := entry
    rw [List.mapM_cons, List.exists_mem_cons_iff, ← ih]
    cases found : read? value with
    | none => simp [found]
    | some read =>
      cases rest.mapM fun (key, value) => (read? value).map (key, ·) <;> simp [found]

/-- A look-up among entries that were read finds what is read of the value that it finds among the
entries. -/
theorem Paired.lookup_eq [DecidableEq κ] {reads : List (κ × β)}
    (paired : Paired (fun _ value read => read? value = some read) entries reads) (wanted : κ) :
    reads.lookup wanted = (entries.lookup wanted).bind read? := by
  induction paired with
  | nil => rfl
  | @cons key value read _ _ found _ ih =>
    rw [List.lookup_cons, List.lookup_cons]
    cases wanted == key with
    | true => exact found.symm
    | false => exact ih

end Read

end Paired

/-- What the keys decide agrees up to order when the keys do. -/
theorem perm_map_of_key {decided : α → β} {first second : List α}
    (keys : (first.map key).Perm (second.map key))
    (agree : ∀ value ∈ first, ∀ other ∈ second, key value = key other →
      decided value = decided other) :
    (first.map decided).Perm (second.map decided) := by
  induction first generalizing second with
  | nil =>
    rw [List.map_nil, List.nil_perm, List.map_eq_nil_iff] at keys
    rw [keys]
  | cons value rest ih =>
    -- The counterpart of the first value is taken out of the second list.
    have listed : key value ∈ second.map key := keys.mem_iff.mp List.mem_cons_self
    obtain ⟨other, isOther, same⟩ := List.mem_map.mp listed
    obtain ⟨before, after, rfl⟩ := List.append_of_mem isOther
    have front : (before ++ other :: after).Perm (other :: (before ++ after)) :=
      List.perm_middle
    have others : (rest.map key).Perm ((before ++ after).map key) := by
      have whole := keys.trans (front.map key)
      rw [List.map_cons, List.map_cons, same] at whole
      exact whole.cons_inv
    have restAgree : ∀ value ∈ rest, ∀ other ∈ before ++ after, key value = key other →
        decided value = decided other := by
      intro value isValue other isOther
      exact agree value (List.mem_cons_of_mem _ isValue) other
        (front.mem_iff.mpr (List.mem_cons_of_mem _ isOther))
    have here := agree value List.mem_cons_self other isOther same.symm
    refine List.Perm.trans ?_ (front.map decided).symm
    rw [List.map_cons, List.map_cons, here]
    exact (ih others restAgree).cons _

end KotlinLint
