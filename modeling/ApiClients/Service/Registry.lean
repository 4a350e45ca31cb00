import ApiClients.Service.Basic

/-!
# Registries

A registry holds services under their names.
-/

namespace ApiClients

/-- Services by their names. -/
abbrev Registry : Type := Table Service

namespace Registry

/-- Puts a service under its name, in place of the one that was there. -/
def add (r : Registry) (s : Service) : Registry :=
  Members.insert r s.name.text s

/-- Takes out what stands under a name: the service that stood there, and what is left. -/
def remove (r : Registry) (name : String) : Option Service × Registry :=
  (Members.get? r name, Members.erase r name)

/-- The names of the services, ascending. -/
def names (r : Registry) : List String :=
  Members.keys r

end Registry

end ApiClients
