import KotlinLint.AnnotationEntry
import KotlinLint.Call
import KotlinLint.Path
import KotlinLint.TypeName

/-!
# Declarations

The declarations of a file form a tree: classes and objects have members, functions and
properties have none. What a class or an object says about itself, apart from its members, is
its head.
-/

namespace KotlinLint

/-- Whether a class declaration declares a class or an interface. -/
inductive ClassKind where
  | plain
  | interface
deriving DecidableEq

/-- The keyword that makes a constructor parameter a property. -/
inductive Binding where
  | val
  | var
deriving DecidableEq

/-- A parameter of a primary constructor. -/
structure Parameter where
  name : String
  span : Span
  /-- The keyword of a parameter that declares a property. -/
  binding : Option Binding
  annotations : List (Placed AnnotationEntry)

/-- A property declared in a body or at top level. -/
structure PropertyDeclaration where
  name : String
  span : Span
  annotations : List (Placed AnnotationEntry)

/-- A function. -/
structure FunctionDeclaration where
  name : String
  /-- Where the name is written. -/
  nameSpan : Span
  span : Span
  modifiers : List String
  annotations : List (Placed AnnotationEntry)
  /-- The body, as a block or as an expression, of a function that has one. -/
  body : Option Block

/-- A class or interface without its members. -/
structure ClassHead where
  name : String
  /-- Where the name is written. -/
  nameSpan : Span
  span : Span
  kind : ClassKind
  modifiers : List String
  annotations : List (Placed AnnotationEntry)
  /-- The direct supertypes in order. -/
  supertypes : List (Placed TypeName)
  /-- The parameters of the primary constructor. -/
  parameters : List Parameter

/-- An object without its members. -/
structure ObjectHead where
  name : String
  span : Span
  modifiers : List String
  annotations : List (Placed AnnotationEntry)
  supertypes : List (Placed TypeName)

/-- A declaration. -/
inductive Declaration where
  | ofClass (head : ClassHead) (members : List Declaration)
  | ofObject (head : ObjectHead) (members : List Declaration)
  | ofFunction (function : FunctionDeclaration)
  | ofProperty (property : PropertyDeclaration)

/-- A class or interface with its members. -/
structure ClassDeclaration extends ClassHead where
  members : List Declaration

namespace Declaration

/-- The declared name. -/
def name : Declaration → String
  | ofClass head _ => head.name
  | ofObject head _ => head.name
  | ofFunction function => function.name
  | ofProperty property => property.name

/-- Where the whole declaration is written. -/
def span : Declaration → Span
  | ofClass head _ => head.span
  | ofObject head _ => head.span
  | ofFunction function => function.span
  | ofProperty property => property.span

/-- The annotations of a declaration, in order. -/
def annotations : Declaration → List (Placed AnnotationEntry)
  | ofClass head _ => head.annotations
  | ofObject head _ => head.annotations
  | ofFunction function => function.annotations
  | ofProperty property => property.annotations

/-- The members of a class or an object; other declarations have none. -/
def members : Declaration → List Declaration
  | ofClass _ members => members
  | ofObject _ members => members
  | ofFunction _ => []
  | ofProperty _ => []

/-- Put annotations in front of those a declaration has. -/
def prependAnnotations (leading : List (Placed AnnotationEntry)) : Declaration → Declaration
  | ofClass head members => ofClass { head with annotations := leading ++ head.annotations } members
  | ofObject head members =>
    ofObject { head with annotations := leading ++ head.annotations } members
  | ofFunction function =>
    ofFunction { function with annotations := leading ++ function.annotations }
  | ofProperty property =>
    ofProperty { property with annotations := leading ++ property.annotations }

/-- The class or interface that a declaration declares. -/
def class? : Declaration → Option ClassDeclaration
  | ofClass head members => some ⟨head, members⟩
  | _ => none

/-- The function that a declaration declares. -/
def function? : Declaration → Option FunctionDeclaration
  | ofFunction function => some function
  | _ => none

/-- The property that a declaration declares. -/
def property? : Declaration → Option PropertyDeclaration
  | ofProperty property => some property
  | _ => none

/-- The declaration reached by taking the member of each position in turn. -/
def follow? (declarations : List Declaration) (path : List Nat) : Option Declaration :=
  Path.follow? members declarations path

end Declaration

/-- A property of a class: a member of its body or a parameter of its constructor. -/
inductive PropertyOrigin where
  | member (declared : PropertyDeclaration)
  | parameter (declared : Parameter)

namespace PropertyOrigin

/-- The name of the property. -/
def name : PropertyOrigin → String
  | member declared => declared.name
  | parameter declared => declared.name

/-- The annotations of the property, in order. -/
def annotations : PropertyOrigin → List (Placed AnnotationEntry)
  | member declared => declared.annotations
  | parameter declared => declared.annotations

end PropertyOrigin

namespace ClassDeclaration

/-- Whether a keyword is among the modifiers. -/
def hasModifier (declaration : ClassDeclaration) (modifier : String) : Bool :=
  declaration.modifiers.contains modifier

/-- Whether subtypes may only be declared beside the class. -/
def isSealed (declaration : ClassDeclaration) : Bool := declaration.hasModifier "sealed"

/-- The simple names of the direct supertypes. -/
def supertypeNames (declaration : ClassDeclaration) : List String :=
  declaration.supertypes.map (·.value.simpleName)

/-- Whether a direct supertype has a simple name. -/
def isDirectSubtypeOf (declaration : ClassDeclaration) (name : String) : Bool :=
  declaration.supertypeNames.contains name

/-- Whether the name of a direct supertype has an ending. -/
def supertypeEndsWith (declaration : ClassDeclaration) (ending : String) : Bool :=
  declaration.supertypeNames.any (Text.endsWith · ending)

/-- The classes that are direct members. -/
def nestedClasses (declaration : ClassDeclaration) : List ClassDeclaration :=
  declaration.members.filterMap Declaration.class?

/-- The properties that are direct members. -/
def memberProperties (declaration : ClassDeclaration) : List PropertyDeclaration :=
  declaration.members.filterMap Declaration.property?

/-- The constructor parameters that declare a property. -/
def propertyParameters (declaration : ClassDeclaration) : List Parameter :=
  declaration.parameters.filter (·.binding.isSome)

/-- The properties of a class: those of its body before those of its constructor. -/
def properties (declaration : ClassDeclaration) : List PropertyOrigin :=
  declaration.memberProperties.map .member ++ declaration.propertyParameters.map .parameter

/-- The first property of a name. -/
def findProperty? (declaration : ClassDeclaration) (name : String) : Option PropertyOrigin :=
  declaration.properties.find? (·.name = name)

end ClassDeclaration

end KotlinLint
