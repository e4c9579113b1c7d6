import WebForms.Types.Bundled.Shapes

/-!
# The foundation types

The basic values, the page classes and the request objects on which the controls rest.
-/

namespace WebForms.Bundled

/-- The basic values, the page classes and the request objects. -/
def foundation : List TypeDefinition := [
  { space := "System", name := "Object",
    documentation := some "Supports all classes in the .NET class hierarchy." },
  { space := "System", name := "String", baseType := some "System.Object",
    properties := [
      property "Length" "System.Int32"],
    methods := [
      { name := "IsNullOrEmpty", returnType := "System.Boolean", isStatic := true,
        parameters := [⟨"value", "System.String"⟩] },
      { name := "Trim", returnType := "System.String" },
      { name := "ToUpper", returnType := "System.String" },
      { name := "ToLower", returnType := "System.String" },
      { name := "Substring", returnType := "System.String",
        parameters := [⟨"startIndex", "System.Int32"⟩, ⟨"length", "System.Int32"⟩] },
      { name := "Format", returnType := "System.String", isStatic := true,
        parameters := [⟨"format", "System.String"⟩, ⟨"arg0", "System.Object"⟩] }] },
  { space := "System", name := "Boolean", kind := .structType, baseType := some "System.Object" },
  { space := "System", name := "Int16", kind := .structType, baseType := some "System.Object" },
  { space := "System", name := "Int32", kind := .structType, baseType := some "System.Object" },
  { space := "System", name := "DateTime", kind := .structType, baseType := some "System.Object",
    properties := [
      { name := "Now", typeName := "System.DateTime", isStatic := true,
        documentation := some "Gets the current local date and time." },
      { name := "Today", typeName := "System.DateTime", isStatic := true },
      property "Year" "System.Int32",
      property "Month" "System.Int32",
      property "Day" "System.Int32"],
    methods := [
      { name := "ToString", returnType := "System.String",
        parameters := [⟨"format", "System.String"⟩] },
      { name := "AddDays", returnType := "System.DateTime",
        parameters := [⟨"value", "System.Double"⟩] }] },
  { space := "System", name := "EventArgs", baseType := some "System.Object",
    documentation := some "Base class for classes that contain event data." },
  { space := "System", name := "EventHandler", kind := .delegateType,
    methods := [handling "System.EventArgs"] },
  { space := "System.Drawing", name := "Color", kind := .structType,
    baseType := some "System.Object", documentation := some "Represents an ARGB color." },
  { space := "System.Web.UI", name := "ITemplate", kind := .interfaceType,
    methods := [
      { name := "InstantiateIn", parameters := [⟨"container", "System.Web.UI.Control"⟩] }],
    documentation := some <|
      "Defines the behavior for populating a templated control with child " ++
      "controls." },
  { space := "System.Web.UI", name := "Control", baseType := some "System.Object",
    properties := [
      { name := "ID", typeName := "System.String",
        documentation := some <|
          "Gets or sets the programmatic identifier assigned to the server " ++
          "control." },
      { name := "EnableViewState", typeName := "System.Boolean",
        documentation := some "Whether the control persists its view state." },
      { name := "Visible", typeName := "System.Boolean",
        documentation := some "Whether the control is rendered." },
      property "ClientIDMode" "System.Web.UI.ClientIDMode",
      property "Page" "System.Web.UI.Page",
      property "Controls" "System.Web.UI.ControlCollection"],
    events := [
      event "Init" "System.EventHandler",
      event "Load" "System.EventHandler",
      event "PreRender" "System.EventHandler",
      event "Unload" "System.EventHandler",
      event "DataBinding" "System.EventHandler"],
    methods := [
      { name := "DataBind" },
      { name := "FindControl", returnType := "System.Web.UI.Control",
        parameters := [⟨"id", "System.String"⟩] }],
    documentation := some <|
      "Defines the properties, methods, and events shared by all ASP.NET server " ++
      "controls." },
  { space := "System.Web.UI", name := "ClientIDMode", kind := .enumType,
    fields := members "System.Web.UI.ClientIDMode"
      ["Inherit", "AutoID", "Predictable", "Static"] },
  { space := "System.Web.UI", name := "ControlCollection", baseType := some "System.Object",
    properties := [
      property "Count" "System.Int32"],
    methods := [
      { name := "Add", parameters := [⟨"child", "System.Web.UI.Control"⟩] },
      { name := "Clear" }] },
  { space := "System.Web.UI", name := "TemplateControl", baseType := some "System.Web.UI.Control",
    isAbstract := true,
    events := [
      event "Error" "System.EventHandler",
      event "CommitTransaction" "System.EventHandler",
      event "AbortTransaction" "System.EventHandler"] },
  { space := "System.Web.UI", name := "Page", baseType := some "System.Web.UI.TemplateControl",
    properties := [
      property "Title" "System.String",
      property "IsPostBack" "System.Boolean",
      property "IsValid" "System.Boolean",
      property "MasterPageFile" "System.String",
      property "Theme" "System.String",
      property "Request" "System.Web.HttpRequest",
      property "Response" "System.Web.HttpResponse",
      property "Session" "System.Web.SessionState.HttpSessionState"],
    events := [
      event "PreInit" "System.EventHandler",
      event "InitComplete" "System.EventHandler",
      event "PreLoad" "System.EventHandler",
      event "LoadComplete" "System.EventHandler",
      event "PreRenderComplete" "System.EventHandler",
      event "SaveStateComplete" "System.EventHandler"],
    methods := [
      { name := "Validate" },
      { name := "ResolveUrl", returnType := "System.String",
        parameters := [⟨"relativeUrl", "System.String"⟩] }],
    documentation := some "Represents an .aspx file requested from a server." },
  { space := "System.Web.UI", name := "UserControl",
    baseType := some "System.Web.UI.TemplateControl",
    properties := [
      property "IsPostBack" "System.Boolean",
      property "Request" "System.Web.HttpRequest",
      property "Response" "System.Web.HttpResponse"],
    documentation := some "Represents an .ascx file requested from a server." },
  { space := "System.Web.UI", name := "MasterPage", baseType := some "System.Web.UI.UserControl",
    properties := [
      property "Master" "System.Web.UI.MasterPage"],
    documentation := some "Acts as a template and merging container for content pages." },
  { space := "System.Web", name := "HttpRequest", baseType := some "System.Object",
    properties := [
      property "QueryString" "System.Collections.Specialized.NameValueCollection",
      property "Url" "System.Uri",
      property "HttpMethod" "System.String"] },
  { space := "System.Web", name := "HttpResponse", baseType := some "System.Object",
    methods := [
      { name := "Write", parameters := [⟨"s", "System.String"⟩] },
      { name := "Redirect", parameters := [⟨"url", "System.String"⟩] }] }]

end WebForms.Bundled
