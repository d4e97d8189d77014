import BindingDocs.Reference.Member
import BindingDocs.Registry
import BindingDocs.Text.Search

/-! Reference classes and the model that collects them. -/
namespace BindingDocs.Reference
open BindingDocs.Documentation BindingDocs.Text

structure Class where
  qualifiedName : String
  doc : Option Comment
  constructors : List Constructor
  methods : List Method
  properties : List Property
  deriving Repr, DecidableEq

/-- The last part of a dotted name. -/
def shortName (qualified : String) : String := String.ofList (afterLast '.' qualified.toList)

namespace Class

def new (qualifiedName : String) : Class := ⟨qualifiedName, none, [], [], []⟩

def summary? (c : Class) : Option String := c.doc.bind Comment.summary?

def methodsNamed (c : Class) (name : String) : List Method :=
  c.methods.filter (sameIgnoringAsciiCase ·.name name)

def property? (c : Class) (name : String) : Option Property :=
  c.properties.find? (sameIgnoringAsciiCase ·.name name)

/-- Give a class a comment unless it has one. -/
def withDoc (c : Class) (doc : Option Comment) : Class := { c with doc := c.doc <|> doc }

def addConstructor (c : Class) (k : Constructor) : Class :=
  { c with constructors := c.constructors ++ [k] }

def addMethod (c : Class) (m : Method) : Class := { c with methods := c.methods ++ [m] }

def addProperty (c : Class) (p : Property) : Class := { c with properties := c.properties ++ [p] }

end Class

/-- Classes of one short name, up to case, are one entry of the model. -/
def classKey (name : String) : String := lowerCase (shortName name)

structure Model where
  classes : Registry Class

namespace Model

def empty : Model := ⟨.empty⟩

def class? (m : Model) (name : String) : Option Class := m.classes.get? (classKey name)

/-- Change the entry of a class, which is made if it is missing. -/
def update (m : Model) (qualifiedName : String) (f : Class → Class) : Model :=
  ⟨m.classes.alter (classKey qualifiedName) fun c => f (c.getD (.new qualifiedName))⟩

def list (m : Model) : List Class := m.classes.values

def size (m : Model) : Nat := m.classes.size

end Model
end BindingDocs.Reference
