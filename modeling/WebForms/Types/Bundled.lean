import WebForms.Types.Bundled.BasicControls
import WebForms.Types.Bundled.Foundation
import WebForms.Types.Bundled.ListControls
import WebForms.Types.Index

/-!
# The bundled types

The controls and page classes that are known without any index file.

## Main definitions

* `Bundled.types`, `TypeIndex.bundled` — the definitions, and the index of them
-/

namespace WebForms

/-- The definitions that are known without any index file. -/
def Bundled.types : List TypeDefinition :=
  Bundled.foundation ++ Bundled.basicControls ++ Bundled.listControls

/-- The index of the bundled types. -/
def TypeIndex.bundled : TypeIndex := TypeIndex.ofList Bundled.types

end WebForms
