/-!
# Scripting dictionaries

What an application says of its scripting terms: its classes with their properties and element
classes, its commands with their parameters, and the names of its enumerations. Names and types are
kept as the dictionary spells them.
-/

set_option autoImplicit false

namespace ScriptGateway

structure PropertyDecl where
  name : String
  type : String
  access : String
  deriving DecidableEq, Repr

structure ClassDecl where
  name : String
  plural : Option String
  inherits : Option String
  properties : List PropertyDecl
  /-- The classes of the elements an object of this class contains. -/
  elements : List String
  deriving DecidableEq, Repr

structure ParameterDecl where
  name : String
  type : String
  optional : Bool
  deriving DecidableEq, Repr

structure CommandDecl where
  name : String
  parameters : List ParameterDecl
  deriving DecidableEq, Repr

structure Dictionary where
  classes : List ClassDecl
  commands : List CommandDecl
  enumerations : List String
  deriving DecidableEq, Repr

/-- The name of the direct parameter of a command. -/
def directName : String := "value"

def Dictionary.classNames (d : Dictionary) : List String := d.classes.map (·.name)

end ScriptGateway
