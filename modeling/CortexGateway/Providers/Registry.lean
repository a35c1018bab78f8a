import CortexGateway.Core.Exceptions
import CortexGateway.Core.Text

/-! # The provider registry

`app/providers/registry.py`: the names under which adapters are registered,
all before the first request. -/
set_option autoImplicit false
namespace CortexGateway

structure ProviderRegistry where
  names : List String

/-- `f"{items}"` for a list of plain names. -/
def reprList (items : List String) : String :=
  "[" ++ ", ".intercalate (items.map fun item => "'" ++ item ++ "'") ++ "]"

namespace ProviderRegistry

/-- `name.strip().lower()`. -/
def key (name : String) : String := lower (strip name)

def isRegistered (registry : ProviderRegistry) (name : String) : Bool :=
  registry.names.contains (key name)

def invalidProviderError (registry : ProviderRegistry) (name : String) : Exc :=
  .provider .invalidProviderError ("Provider '" ++ key name ++
    "' is not available. Available providers: " ++
    reprList (if registry.names = [] then ["none"] else registry.names) ++ ".")

/-- `get`; the adapter itself is behind the call the executor then awaits. -/
def get (registry : ProviderRegistry) (name : String) : Except Exc Unit :=
  if registry.isRegistered name then .ok () else .error (registry.invalidProviderError name)

end ProviderRegistry

end CortexGateway
