import Mathlib.Data.List.Induction
import TuiTemplate.Proofs.Widget.History

set_option autoImplicit false

namespace TuiTemplate

namespace RegistryCall

def kind : RegistryCall → String
  | .register kind _ _ _ => kind
  | .decorate kind _ _ => kind
  | .unregister kind => kind

end RegistryCall

namespace Registry

end Registry

end TuiTemplate
