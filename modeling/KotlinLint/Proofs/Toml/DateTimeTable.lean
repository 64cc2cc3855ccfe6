import KotlinLint.Proofs.Keys
import KotlinLint.Toml.DateTimeTable
import Mathlib.Data.List.Forall2

/-!
# Values read as options

What an option's value is read as differs from the value only in date-times: a table that begins
with the key of date-times is read as the date-time that it stands for
(`Value.resolve?_eq_some_iff`). There is no reading when such a table stands for none, at any depth
(`Value.resolve?_eq_none_iff`). A value in which no table begins with the key is read as it is.
-/

namespace KotlinLint.Toml

/-- Whether a table stands for a date-time: its only entry has the key of date-times and a text that
writes the date-time. -/
def StandsFor (entries : Table) (read : Value) : Prop :=
  ∃ text : String, entries = [(dateTimeKey, .string text)] ∧ dateTime? text.toList = some read

/-- A table that begins with the key of date-times is searched for what it stands for. -/
theorem onlyDateTime?_eq_some_iff {entries : Table} (begins : beginsAsDateTime entries = true)
    (read : Value) : onlyDateTime? entries = some read ↔ StandsFor entries read := by
  constructor
  · intro found
    match entries with
    | [(key, .string text)] =>
      have isKey : key = dateTimeKey := of_decide_eq_true begins
      exact ⟨text, by rw [isKey], found⟩
  · rintro ⟨text, rfl, found⟩
    exact found

namespace Value

/-- Whether a value is read as another one. -/
inductive ReadsAs : Value → Value → Prop where
  /-- A value that holds no others is read as it is. -/
  | scalar {value : Value} : (∀ items, value ≠ .array items) → (∀ entries, value ≠ .table entries) →
      ReadsAs value value
  /-- The items of an array are read one by one. -/
  | array {items reads : List Value} : List.Forall₂ ReadsAs items reads →
      ReadsAs (.array items) (.array reads)
  /-- The values of a table are read one by one and keep their keys. -/
  | table {entries reads : Table} : beginsAsDateTime entries = false →
      Paired (fun _ => ReadsAs) entries reads → ReadsAs (.table entries) (.table reads)
  /-- A table that begins with the key of date-times is read as what it stands for. -/
  | dateTime {entries : Table} {read : Value} : beginsAsDateTime entries = true →
      StandsFor entries read → ReadsAs (.table entries) read

/-- Whether a table in a value begins with the key of date-times and stands for none. -/
inductive IsMisdated : Value → Prop where
  /-- The value is such a table. -/
  | table {entries : Table} : beginsAsDateTime entries = true →
      (∀ read, ¬ StandsFor entries read) → IsMisdated (.table entries)
  /-- There is one in an item of an array. -/
  | item {items : List Value} {item : Value} : item ∈ items → IsMisdated item →
      IsMisdated (.array items)
  /-- There is one in a table that does not begin with the key. -/
  | entry {entries : Table} {entry : String × Value} : beginsAsDateTime entries = false →
      entry ∈ entries → IsMisdated entry.2 → IsMisdated (.table entries)

/-- Whether no table in a value begins with the key of date-times. -/
inductive IsPlain : Value → Prop where
  | scalar {value : Value} : (∀ items, value ≠ .array items) → (∀ entries, value ≠ .table entries) →
      IsPlain value
  | array {items : List Value} : (∀ item ∈ items, IsPlain item) → IsPlain (.array items)
  | table {entries : Table} : beginsAsDateTime entries = false →
      (∀ entry ∈ entries, IsPlain entry.2) → IsPlain (.table entries)

/-- A value that holds no others is resolved to itself, and read as itself only. -/
theorem resolve?_eq_some_iff_of_scalar {value read : Value}
    (noArray : ∀ items, value ≠ .array items) (noTable : ∀ entries, value ≠ .table entries) :
    value.resolve? = some read ↔ value.ReadsAs read := by
  have kept : value.resolve? = some value := by
    cases value with
    | array items => exact absurd rfl (noArray items)
    | table entries => exact absurd rfl (noTable entries)
    | _ => rfl
  rw [kept, Option.some.injEq]
  constructor
  · rintro rfl
    exact .scalar noArray noTable
  · intro readsAs
    cases readsAs with
    | scalar => rfl
    | array => exact absurd rfl (noArray _)
    | table => exact absurd rfl (noTable _)
    | dateTime => exact absurd rfl (noTable _)

mutual

/-- A value is resolved to what it is read as. -/
theorem resolve?_eq_some_iff : ∀ value read : Value,
    value.resolve? = some read ↔ value.ReadsAs read
  | .array items, read => by
    have each := resolveItems?_eq_some_iff items
    rw [resolve?, Option.map_eq_some_iff]
    constructor
    · rintro ⟨reads, found, rfl⟩
      exact .array ((each reads).mp found)
    · intro readsAs
      cases readsAs with
      | scalar noArray => exact absurd rfl (noArray items)
      | @array _ reads pairs => exact ⟨reads, (each reads).mpr pairs, rfl⟩
  | .table entries, read => by
    have each := resolveEntries?_eq_some_iff entries
    rw [resolve?]
    split
    case isTrue begins =>
      rw [onlyDateTime?_eq_some_iff begins]
      constructor
      · exact .dateTime begins
      · intro readsAs
        cases readsAs with
        | scalar _ noTable => exact absurd rfl (noTable entries)
        | table other => exact absurd begins (by simp [other])
        | dateTime _ stands => exact stands
    case isFalse other =>
      rw [Option.map_eq_some_iff]
      constructor
      · rintro ⟨reads, found, rfl⟩
        exact .table (Bool.eq_false_iff.mpr other) ((each reads).mp found)
      · intro readsAs
        cases readsAs with
        | scalar _ noTable => exact absurd rfl (noTable entries)
        | @table _ reads _ pairs => exact ⟨reads, (each reads).mpr pairs, rfl⟩
        | dateTime begins => exact absurd begins other
  | .string _, _ => resolve?_eq_some_iff_of_scalar nofun nofun
  | .integer _, _ => resolve?_eq_some_iff_of_scalar nofun nofun
  | .float _, _ => resolve?_eq_some_iff_of_scalar nofun nofun
  | .boolean _, _ => resolve?_eq_some_iff_of_scalar nofun nofun
  | .datetime _, _ => resolve?_eq_some_iff_of_scalar nofun nofun

/-- The items of an array are resolved to what they are read as. -/
theorem resolveItems?_eq_some_iff : ∀ items reads : List Value,
    resolveItems? items = some reads ↔ List.Forall₂ ReadsAs items reads
  | [], reads => by
    constructor
    · rintro ⟨⟩
      exact .nil
    · rintro ⟨⟩
      rfl
  | item :: rest, reads => by
    have first := resolve?_eq_some_iff item
    have later := resolveItems?_eq_some_iff rest
    rw [resolveItems?]
    simp only [Option.bind_eq_bind, Option.bind_eq_some_iff, Option.pure_def, Option.some.injEq,
      first, later]
    constructor
    · rintro ⟨read, readsAs, others, pairs, rfl⟩
      exact .cons readsAs pairs
    · rintro (_ | ⟨readsAs, pairs⟩)
      exact ⟨_, readsAs, _, pairs, rfl⟩

/-- The entries of a table are resolved to what they are read as, each under its key. -/
theorem resolveEntries?_eq_some_iff : ∀ entries reads : Table,
    resolveEntries? entries = some reads ↔ Paired (fun _ => ReadsAs) entries reads
  | [], reads => by
    constructor
    · rintro ⟨⟩
      exact .nil
    · rintro ⟨⟩
      rfl
  | (key, value) :: rest, reads => by
    have first := resolve?_eq_some_iff value
    have later := resolveEntries?_eq_some_iff rest
    rw [resolveEntries?]
    simp only [Option.bind_eq_bind, Option.bind_eq_some_iff, Option.pure_def, Option.some.injEq,
      first, later]
    constructor
    · rintro ⟨read, readsAs, others, paired, rfl⟩
      exact .cons readsAs paired
    · rintro (_ | ⟨readsAs, paired⟩)
      exact ⟨_, readsAs, _, paired, rfl⟩

end

mutual

/-- A value cannot be resolved exactly when a table in it stands for no date-time and should. -/
theorem resolve?_eq_none_iff : ∀ value : Value, value.resolve? = none ↔ value.IsMisdated
  | .array items => by
    rw [resolve?, Option.map_eq_none_iff, resolveItems?_eq_none_iff items]
    constructor
    · rintro ⟨item, listed, misdated⟩
      exact .item listed misdated
    · rintro (_ | ⟨listed, misdated⟩)
      exact ⟨_, listed, misdated⟩
  | .table entries => by
    rw [resolve?]
    split
    case isTrue begins =>
      rw [Option.eq_none_iff_forall_ne_some]
      constructor
      · intro nothing
        exact .table begins fun read stands =>
          nothing read ((onlyDateTime?_eq_some_iff begins read).mpr stands)
      · intro misdated read found
        cases misdated with
        | table _ nothing => exact nothing read ((onlyDateTime?_eq_some_iff begins read).mp found)
        | entry other => exact absurd begins (by simp [other])
    case isFalse other =>
      rw [Option.map_eq_none_iff, resolveEntries?_eq_none_iff entries]
      constructor
      · rintro ⟨entry, listed, misdated⟩
        exact .entry (Bool.eq_false_iff.mpr other) listed misdated
      · intro misdated
        cases misdated with
        | table begins => exact absurd begins other
        | entry _ listed misdated => exact ⟨_, listed, misdated⟩
  | .string text => ⟨nofun, nofun⟩
  | .integer number => ⟨nofun, nofun⟩
  | .float spelling => ⟨nofun, nofun⟩
  | .boolean value => ⟨nofun, nofun⟩
  | .datetime spelling => ⟨nofun, nofun⟩

/-- The items of an array cannot be resolved exactly when one of them cannot. -/
theorem resolveItems?_eq_none_iff : ∀ items : List Value,
    resolveItems? items = none ↔ ∃ item ∈ items, item.IsMisdated
  | [] => ⟨nofun, nofun⟩
  | item :: rest => by
    rw [resolveItems?, List.exists_mem_cons_iff, ← resolve?_eq_none_iff item,
      ← resolveItems?_eq_none_iff rest]
    cases item.resolve? <;> cases resolveItems? rest <;> simp

/-- The entries of a table cannot be resolved exactly when the value of one of them cannot. -/
theorem resolveEntries?_eq_none_iff : ∀ entries : Table,
    resolveEntries? entries = none ↔ ∃ entry ∈ entries, entry.2.IsMisdated
  | [] => ⟨nofun, nofun⟩
  | (key, value) :: rest => by
    rw [resolveEntries?, List.exists_mem_cons_iff, ← resolve?_eq_none_iff value,
      ← resolveEntries?_eq_none_iff rest]
    cases value.resolve? <;> cases resolveEntries? rest <;> simp

end

/-- A value in which no table begins with the key of date-times is read as itself and as nothing
else. -/
theorem IsPlain.readsAs_iff {value : Value} (plain : value.IsPlain) (read : Value) :
    value.ReadsAs read ↔ read = value := by
  have resolved : value.resolve? = some value := by
    induction plain with
    | scalar noArray noTable =>
      exact (resolve?_eq_some_iff_of_scalar noArray noTable).mpr (.scalar noArray noTable)
    | @array items _ each =>
      rw [resolve?, (resolveItems?_eq_some_iff items items).mpr, Option.map_some]
      refine List.forall₂_same.mpr fun item listed => ?_
      exact (resolve?_eq_some_iff item item).mp (each item listed)
    | @table entries other _ each =>
      rw [resolve?, if_neg (by simp [other]), (resolveEntries?_eq_some_iff entries entries).mpr,
        Option.map_some]
      exact .refl fun entry listed => (resolve?_eq_some_iff _ _).mp (each entry listed)
  rw [← resolve?_eq_some_iff, resolved, Option.some.injEq, eq_comm]

end Value

end KotlinLint.Toml
