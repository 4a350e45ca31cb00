/-!
# Error classes

The errors that a service reports fall into classes. Each service has one base class, and below it a
class for every code; classes of different services are unrelated. A class below the base is declared
if the description of the service lists its code.
-/

namespace ApiClients

/-- An error class of a service. -/
inductive ErrorClass where
  | base (service : String)
  | derived (service name code : String) (declared : Bool)
deriving DecidableEq, Repr

namespace ErrorClass

/-- The name of every base class. -/
def baseName : String := "ServiceError"

/-- What all error classes of all services have in common. -/
def commonAncestor : String := "stratus::errors::ServiceError"

/-- What all errors have in common. -/
def rootAncestor : String := "std::error::Error"

/-- The service of a class. -/
def service : ErrorClass → String
  | base s => s
  | derived s _ _ _ => s

/-- The name of a class within its service. -/
def name : ErrorClass → String
  | base _ => baseName
  | derived _ n _ _ => n

/-- The code of a class below the base. -/
def code? : ErrorClass → Option String
  | base _ => none
  | derived _ _ c _ => some c

/-- Whether the class is the base class of its service. -/
def isBase : ErrorClass → Bool
  | base _ => true
  | derived .. => false

/-- Whether the description of the service declares the class. -/
def isDeclared : ErrorClass → Bool
  | base _ => true
  | derived _ _ _ d => d

/-- A name within a service, with the service in front. -/
def qualify (service name : String) : String :=
  service ++ "::Errors::" ++ name

/-- The name of the class with its service in front. -/
def qualifiedName (k : ErrorClass) : String :=
  qualify k.service k.name

/-- The names of the class and of all it descends from, nearest first. -/
def ancestors (k : ErrorClass) : List String :=
  k.qualifiedName ::
    ((if k.isBase then [] else [qualify k.service baseName]) ++ [commonAncestor, rootAncestor])

/-- Whether a class is `ancestor` or lies below it. -/
def descendsFrom (k ancestor : ErrorClass) : Bool :=
  k.service == ancestor.service && (ancestor.isBase || k.name == ancestor.name)

end ErrorClass

end ApiClients
