import HouseStyle.Xml.Error
import Std.Data.TreeMap
import Std.Data.TreeSet

/-!
XML as a tree, and the namespaces that its names are in. Names are expanded: a name is in a
namespace, given by its address, or in none. An element's declarations bind qualifiers to namespaces
for itself and what it holds; the empty qualifier is bound for elements only. The qualifiers `xml`
and `xmlns` have a meaning of their own and may not be given another. A text may not make too many
different bindings.
-/

namespace HouseStyle.Xml

structure Name where
  space : Option String
  localName : String
deriving DecidableEq, Ord

structure Attribute where
  name : Name
  value : String
deriving DecidableEq

structure Tag where
  name : Name
  attributes : List Attribute
deriving DecidableEq

inductive Node where
  | element (tag : Tag) (children : List Node)
  | text (content : String)
  | comment (content : String)
  | instruction (target content : String)

structure Element where
  tag : Tag
  children : List Node

def Node.asElement? : Node → Option Element
  | element tag children => some ⟨tag, children⟩
  | _ => none

/-! Bindings and their scopes. -/

structure Binding where
  qualifier : String
  space : String
deriving DecidableEq, Ord

namespace Binding

def stem : String := "http:" ++ "//www.w3.org/"

def xmlSpace : String := stem ++ "XML/1998/namespace"

def xmlnsSpace : String := stem ++ "2000/xmlns/"

def fault? (binding : Binding) : Option Cause :=
  if binding.space = xmlnsSpace then some .xmlnsNamespaceDeclared
  else if binding.qualifier = "xml" ∧ binding.space ≠ xmlSpace then some .xmlBoundElsewhere
  else if binding.qualifier ≠ "xml" ∧ binding.space = xmlSpace then some .xmlNamespaceMisused
  else none

def defaultFault? (space : String) : Option Cause :=
  if space = xmlSpace then some .xmlNamespaceMisused
  else if space = xmlnsSpace then some .xmlnsNamespaceDeclared
  else none

def most : Nat := 0xFFFF

end Binding

abbrev Bindings := Std.TreeMap String String

/-- The bindings in force: those of the elements that make any, the innermost first. -/
abbrev Scope := List Bindings

namespace Scope

def space? (scope : Scope) (qualifier : String) : Option String :=
  scope.findSome? fun bindings => bindings[qualifier]?

def inside (own : Bindings) (outer : Scope) : Scope := if own.isEmpty then outer else own :: outer

def elementSpace (scope : Scope) (qualifier : String) : Except Cause (Option String) :=
  match scope.space? qualifier with
  | some space => .ok (some space)
  | none => if qualifier = "" then .ok none else .error (.unknownNamespace qualifier)

/-- The namespace of an attribute's qualifier; without one an attribute is in no namespace. -/
def attributeSpace (scope : Scope) (qualifier : String) : Except Cause (Option String) :=
  if qualifier = "" then .ok none
  else if qualifier = "xml" then .ok (some Binding.xmlSpace)
  else elementSpace scope qualifier

end Scope

end HouseStyle.Xml
