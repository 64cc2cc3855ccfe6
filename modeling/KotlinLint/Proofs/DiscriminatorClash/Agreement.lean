import KotlinLint.Proofs.Decompose

/-!
# When findings about clashes agree

Whether a class clashes is decided by the property that is found under the discriminator, by the
serial names of the properties of its constructor, and by whether the file imports the annotation
of serial names. Two classes in two files that have these in common have the same finding
(`DiscriminatorClash.finding?_congr`).
-/

namespace KotlinLint.DiscriminatorClash

variable {first second : File} {discriminator : String}

/-- Findings that compare do so in reports that are made when an annotation is imported. -/
theorem whenImported_compare {Compares : List Finding → List Finding → Prop}
    (piecewise : Piecewise Compares)
    (imports : first.hasImport serializableImport = second.hasImport serializableImport)
    {found others : List Finding} (same : Compares found others) :
    Compares (whenImported first found).findings (whenImported second others).findings := by
  rw [whenImported, whenImported, imports]
  split
  · exact same
  · exact piecewise.nil

/-- Classes at one place with the same collisions have the same finding. -/
theorem finding?_congr {candidate other : ClassDeclaration} (paths : first.path = second.path)
    (places : candidate.nameSpan = other.nameSpan)
    (collisions : hasCollision first discriminator candidate =
      hasCollision second discriminator other) :
    finding? first discriminator candidate = finding? second discriminator other := by
  rw [finding?, finding?, paths, places, collisions]

end KotlinLint.DiscriminatorClash
