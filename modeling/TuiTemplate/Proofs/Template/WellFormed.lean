import TuiTemplate.Proofs.Template.Parsing
import TuiTemplate.Proofs.Widget.History

set_option autoImplicit false

namespace TuiTemplate

open Grammar

end TuiTemplate
