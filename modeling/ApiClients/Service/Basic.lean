import ApiClients.Client.Basic
import ApiClients.Service.Name

/-!
# Services

A service has a name, an API, and what is made of the API: the interface of its clients and the
namespace of its errors. It also knows which defaults its clients start from, by the number of the
generation of defaults that was in force when it was made. A serial number tells services with equal
parts apart.
-/

namespace ApiClients

/-- A service, as an instance with a number of its own. -/
structure Service where
  name : ServiceName
  interface : ClientInterface
  errors : ErrorNamespace
  transport : Transport
  generation : Nat
  serial : Nat

namespace Service

/-- The API of the service. -/
def api (s : Service) : Api :=
  s.interface.api

/-- Whether two services are the same instance. -/
def isSameInstance (a b : Service) : Bool :=
  a.serial == b.serial

/-- Makes a service of a name and an API. -/
def make (name : ServiceName) (api : Api) (transport : Transport) (generation serial : Nat) :
    Except NamespaceError Service :=
  (ErrorNamespace.ofApi name.text api).map fun errors =>
    { name, errors, transport, generation, serial, interface := .ofApi name.text api }

/-- Makes a client with these options over these defaults. -/
def newClient (s : Service) (defaults options : Settings) : Except SettingsError Client :=
  (EffectiveSettings.resolve s.name.text s.api defaults options).map fun settings =>
    { interface := s.interface, errors := s.errors, settings, transport := s.transport }

end Service

end ApiClients
