import DocFilter.OrderedMap
import DocFilter.Value.Basic

set_option autoImplicit false

namespace DocFilter

abbrev FilterSet := OrderedMap Value

/-- The key whose value is no filter: it is merged into the query as it is. -/
def rawKey : String := "raw"

end DocFilter
