import WebForms.Completion.Item
import WebForms.Settings

/-!
# Openers

What may follow an angle bracket besides the name of an element: the server blocks that the
runtime version knows, comments, and sections of character data.

## Main definitions

* `blockOpeners` — the server blocks of a runtime version
* `sectionOpeners` — comments and character data
-/

namespace WebForms

/-- The item of an opener. -/
def openerItem (label detail : String) : CompletionItem :=
  { label, kind := .opener, detail := some detail }

/-- The server blocks that may be opened under a runtime version. -/
def blockOpeners (version : RuntimeVersion) : List CompletionItem :=
  [openerItem "%" "ASP.NET render block",
    openerItem "%=" "ASP.NET render expression",
    openerItem "%@" "ASP.NET directive",
    openerItem "%#" "ASP.NET databinding expression",
    openerItem "%--" "ASP.NET server-side comment"] ++
  (if .v2 ≤ version then [openerItem "%$" "ASP.NET resource expression"] else []) ++
  (if .v4 ≤ version then [openerItem "%:" "ASP.NET HTML encoded expression"] else [])

/-- Comments and sections of character data. -/
def sectionOpeners : List CompletionItem :=
  [openerItem "!--" "XML comment", openerItem "![CDATA[" "Character data"]

end WebForms
