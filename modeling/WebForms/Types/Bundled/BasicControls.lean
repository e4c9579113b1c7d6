import WebForms.Types.Bundled.Shapes

/-!
# The basic controls

The common base of the controls, the types of their properties, and the controls without items.
-/

namespace WebForms.Bundled

/-- The common base of the controls, the types of their properties, and the simple controls. -/
def basicControls : List TypeDefinition := [
  { space := "System.Web.UI.WebControls", name := "WebControl",
    baseType := some "System.Web.UI.Control", attributes := [parseChildren [.bool true]],
    properties := [
      property "AccessKey" "System.String",
      { name := "BackColor", typeName := "System.Drawing.Color",
        documentation := some "Gets or sets the background color." },
      property "BorderColor" "System.Drawing.Color",
      property "BorderStyle" "System.Web.UI.WebControls.BorderStyle",
      property "BorderWidth" "System.Web.UI.WebControls.Unit",
      { name := "CssClass", typeName := "System.String",
        documentation := some "Gets or sets the CSS class rendered by the control." },
      { name := "Enabled", typeName := "System.Boolean",
        documentation := some "Whether the control is enabled." },
      property "ForeColor" "System.Drawing.Color",
      property "Height" "System.Web.UI.WebControls.Unit",
      property "TabIndex" "System.Int16",
      property "ToolTip" "System.String",
      property "Width" "System.Web.UI.WebControls.Unit",
      property "ControlStyle" "System.Web.UI.WebControls.Style"],
    documentation :=
      some "Serves as the base class for controls that define common UI properties." },
  { space := "System.Web.UI.WebControls", name := "BorderStyle", kind := .enumType,
    fields := members "System.Web.UI.WebControls.BorderStyle"
      ["NotSet", "None", "Dotted", "Dashed", "Solid", "Double", "Groove", "Ridge", "Inset",
       "Outset"] },
  { space := "System.Web.UI.WebControls", name := "HorizontalAlign", kind := .enumType,
    fields := members "System.Web.UI.WebControls.HorizontalAlign"
      ["NotSet", "Left", "Center", "Right", "Justify"] },
  { space := "System.Web.UI.WebControls", name := "TextBoxMode", kind := .enumType,
    fields := members "System.Web.UI.WebControls.TextBoxMode"
      ["SingleLine", "MultiLine", "Password"] },
  { space := "System.Web.UI.WebControls", name := "TextAlign", kind := .enumType,
    fields := members "System.Web.UI.WebControls.TextAlign"
      ["Left", "Right"] },
  { space := "System.Web.UI.WebControls", name := "LiteralMode", kind := .enumType,
    fields := members "System.Web.UI.WebControls.LiteralMode"
      ["Transform", "PassThrough", "Encode"] },
  { space := "System.Web.UI.WebControls", name := "ScrollBars", kind := .enumType,
    fields := members "System.Web.UI.WebControls.ScrollBars"
      ["None", "Horizontal", "Vertical", "Both", "Auto"] },
  { space := "System.Web.UI.WebControls", name := "Unit", kind := .structType,
    baseType := some "System.Object" },
  { space := "System.Web.UI.WebControls", name := "Style", baseType := some "System.Object" },
  { space := "System.Web.UI.WebControls", name := "CommandEventArgs",
    baseType := some "System.EventArgs",
    properties := [
      property "CommandName" "System.String",
      property "CommandArgument" "System.Object"] },
  { space := "System.Web.UI.WebControls", name := "CommandEventHandler", kind := .delegateType,
    methods := [handling "System.Web.UI.WebControls.CommandEventArgs"] },
  { space := "System.Web.UI.WebControls", name := "Button",
    baseType := some "System.Web.UI.WebControls.WebControl",
    properties := [
      { name := "Text", typeName := "System.String",
        documentation := some "Gets or sets the text caption displayed in the Button control." },
      property "CommandName" "System.String",
      property "CommandArgument" "System.String",
      property "CausesValidation" "System.Boolean",
      property "OnClientClick" "System.String",
      property "PostBackUrl" "System.String",
      property "UseSubmitBehavior" "System.Boolean",
      property "ValidationGroup" "System.String"],
    events := [
      { name := "Click", delegateType := "System.EventHandler",
        documentation := some "Occurs when the Button control is clicked." },
      event "Command" "System.Web.UI.WebControls.CommandEventHandler"],
    documentation := some "Displays a push button control on the Web page." },
  { space := "System.Web.UI.WebControls", name := "LinkButton",
    baseType := some "System.Web.UI.WebControls.WebControl",
    attributes := [parseChildren [.bool false]],
    properties := [
      property "Text" "System.String",
      property "CommandName" "System.String",
      property "CausesValidation" "System.Boolean"],
    events := [
      event "Click" "System.EventHandler",
      event "Command" "System.Web.UI.WebControls.CommandEventHandler"] },
  { space := "System.Web.UI.WebControls", name := "Label",
    baseType := some "System.Web.UI.WebControls.WebControl",
    attributes := [parseChildren [.bool false]],
    properties := [
      property "Text" "System.String",
      property "AssociatedControlID" "System.String"],
    documentation := some "Represents a label control, which displays text on a Web page." },
  { space := "System.Web.UI.WebControls", name := "TextBox",
    baseType := some "System.Web.UI.WebControls.WebControl",
    properties := [
      property "Text" "System.String",
      property "TextMode" "System.Web.UI.WebControls.TextBoxMode",
      property "MaxLength" "System.Int32",
      property "ReadOnly" "System.Boolean",
      property "AutoPostBack" "System.Boolean",
      property "Columns" "System.Int32",
      property "Rows" "System.Int32"],
    events := [
      event "TextChanged" "System.EventHandler"],
    documentation := some "Displays a text box control for user input." },
  { space := "System.Web.UI.WebControls", name := "CheckBox",
    baseType := some "System.Web.UI.WebControls.WebControl",
    properties := [
      property "Checked" "System.Boolean",
      property "Text" "System.String",
      property "TextAlign" "System.Web.UI.WebControls.TextAlign",
      property "AutoPostBack" "System.Boolean"],
    events := [
      event "CheckedChanged" "System.EventHandler"] },
  { space := "System.Web.UI.WebControls", name := "HyperLink",
    baseType := some "System.Web.UI.WebControls.WebControl",
    attributes := [parseChildren [.bool false]],
    properties := [
      property "NavigateUrl" "System.String",
      property "Text" "System.String",
      property "Target" "System.String",
      property "ImageUrl" "System.String"] },
  { space := "System.Web.UI.WebControls", name := "Image",
    baseType := some "System.Web.UI.WebControls.WebControl",
    properties := [
      property "ImageUrl" "System.String",
      property "AlternateText" "System.String",
      property "ImageAlign" "System.Web.UI.WebControls.ImageAlign"] },
  { space := "System.Web.UI.WebControls", name := "ImageAlign", kind := .enumType,
    fields := members "System.Web.UI.WebControls.ImageAlign"
      ["NotSet", "Left", "Right", "Baseline", "Top", "Middle", "Bottom"] },
  { space := "System.Web.UI.WebControls", name := "Panel",
    baseType := some "System.Web.UI.WebControls.WebControl",
    attributes := [parseChildren [.bool false]],
    properties := [
      property "GroupingText" "System.String",
      property "ScrollBars" "System.Web.UI.WebControls.ScrollBars",
      property "DefaultButton" "System.String",
      property "HorizontalAlign" "System.Web.UI.WebControls.HorizontalAlign"] },
  { space := "System.Web.UI.WebControls", name := "PlaceHolder",
    baseType := some "System.Web.UI.Control" },
  { space := "System.Web.UI.WebControls", name := "Literal",
    baseType := some "System.Web.UI.Control",
    properties := [
      property "Text" "System.String",
      property "Mode" "System.Web.UI.WebControls.LiteralMode"] },
  { space := "System.Web.UI.WebControls", name := "Content",
    baseType := some "System.Web.UI.Control",
    properties := [
      property "ContentPlaceHolderID" "System.String"] },
  { space := "System.Web.UI.WebControls", name := "ContentPlaceHolder",
    baseType := some "System.Web.UI.Control" }]

end WebForms.Bundled
