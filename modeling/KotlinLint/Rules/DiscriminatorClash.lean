import KotlinLint.Config
import KotlinLint.Rule

/-!
# Properties that clash with the class discriminator

A value of a serializable subtype of a sealed serializable class is written with the name of its
class under a key, the discriminator. A property of the subtype that is written under the same
key makes the value unwritable. The rule looks at the serializable classes that are members of a
sealed serializable class, and at those declared at top level with a sealed serializable class
of the file's top level as direct supertype. A property clashes when it has the name of the
discriminator and no other serial name, or when it is a constructor property with the
discriminator as its serial name.
-/

namespace KotlinLint.DiscriminatorClash

/-- The rule's identifier. -/
def ruleId : String := "SerializableDiscriminatorRule"

/-- The option that sets the discriminator. -/
def optionKey : String := "classDiscriminator"

/-- The discriminator that is used unless another is set. -/
def defaultDiscriminator : String := "type"

/-- Where to read about discriminators. -/
def docRef : String :=
  "https://github.com/Kotlin/kotlinx.serialization/blob/master/docs/polymorphism.md"

/-- The annotation of serializable classes. -/
def serializable : AnnotationEntry := .marker "Serializable"

/-- The import of the annotation of serializable classes. -/
def serializableImport : Import := .plain ["kotlinx", "serialization", "Serializable"]

/-- The name of the annotation that gives a property another serial name. -/
def serialName : String := "SerialName"

/-- The import of the annotation of serial names. -/
def serialNameImport : Import := .plain ["kotlinx", "serialization", "SerialName"]

/-- The annotation that gives a property a serial name. -/
def serialNameOf (name : String) : AnnotationEntry := ⟨none, serialName, [⟨none, .text name⟩]⟩

/-- The rule's issue. -/
def issue : Issue :=
  ⟨ruleId, .codeSmell,
    "Property collides with the class discriminator of a polymorphic serializable class", ⟨5⟩⟩

/-- The message of a finding. -/
def message (discriminator : String) : String :=
  "Do not name properties in polymorphic serializable classes as a class discriminator: " ++
    discriminator

/-- Whether the subtypes of a class are written with a discriminator. -/
def isPolymorphicRoot (declaration : ClassDeclaration) : Bool :=
  declaration.isSealed && serializable.isAmong declaration.annotations

/-- Whether a property has a serial name other than the discriminator. -/
def isRenamed (discriminator : String) (property : PropertyOrigin) : Bool :=
  (AnnotationEntry.findNamed? property.annotations serialName).any
    (·.value ≠ serialNameOf discriminator)

/-- Whether a class has a property that is written under the discriminator. Serial names count
only in a file that imports their annotation. -/
def hasCollision (file : File) (discriminator : String) (candidate : ClassDeclaration) : Bool :=
  let serialNames := file.hasImport serialNameImport
  let aliased := serialNames && candidate.propertyParameters.any fun parameter =>
    (serialNameOf discriminator).isAmong parameter.annotations
  let named := (candidate.findProperty? discriminator).any fun property =>
    !(isRenamed discriminator property && serialNames)
  aliased || named

/-- The finding for a class whose values have a discriminator. -/
def finding? (file : File) (discriminator : String) (candidate : ClassDeclaration) :
    Option Finding :=
  if hasCollision file discriminator candidate then
    some { Finding.ofIssue issue (.ofSpan file.path candidate.nameSpan) (message discriminator) with
      docRef := some docRef }
  else none

/-- The findings for the top-level subtypes of top-level classes, subtypes of one class
together. A class is no subtype of itself, but may be one of another class of its name. -/
def subtypeFindings (file : File) (discriminator : String) : List Finding :=
  let classes := file.topClasses.zipIdx
  let roots := classes.filter fun (root, _) => isPolymorphicRoot root
  roots.flatMap fun (root, position) =>
    let candidates := classes.filter fun (candidate, other) =>
      other ≠ position && candidate.isDirectSubtypeOf root.name &&
        serializable.isAmong candidate.annotations
    candidates.filterMap fun (candidate, _) => finding? file discriminator candidate

/-- The findings for the member classes of a class. -/
def memberFindings (file : File) (discriminator : String) (declaration : ClassDeclaration) :
    List Finding :=
  (declaration.nestedClasses.filter fun nested =>
    serializable.isAmong nested.annotations).filterMap (finding? file discriminator)

/-- A report of findings in a file that imports the annotation of serializable classes. -/
def whenImported (file : File) (findings : List Finding) : Report :=
  if file.hasImport serializableImport then .ofFindings findings
  else .missingImport file (serializableImport.qualifiedName)

/-- The report on a file. -/
def visitFile (discriminator : String) (file : File) : Report :=
  whenImported file (subtypeFindings file discriminator)

/-- The report on a class. -/
def visitClass (discriminator : String) (file : File) (declaration : ClassDeclaration) : Report :=
  if isPolymorphicRoot declaration then
    whenImported file (memberFindings file discriminator declaration)
  else {}

/-- The rule against properties that clash with a discriminator. -/
def rule (discriminator : String) : Rule :=
  { issue := issue, visitFile := visitFile discriminator, visitClass := visitClass discriminator }

/-- The discriminator that a configuration sets. -/
def discriminator? (config : Config) : Except ConfigError String :=
  match config.rule? ruleId with
  | none => .ok defaultDiscriminator
  | some settings => settings.requireString ruleId optionKey defaultDiscriminator

end KotlinLint.DiscriminatorClash
