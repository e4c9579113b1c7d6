import WebForms.Types.Bundled.Shapes

/-!
# Lists, repeaters, tables and views

The controls that hold items, with their items and collections, and the types of services.
-/

namespace WebForms.Bundled

/-- The controls that hold items, with their items and collections, and the service types. -/
def listControls : List TypeDefinition := [
  { space := "System.Web.UI.WebControls", name := "ListItem", baseType := some "System.Object",
    attributes := [parseChildren [.bool false]],
    properties := [
      property "Text" "System.String",
      property "Value" "System.String",
      property "Selected" "System.Boolean",
      property "Enabled" "System.Boolean"] },
  { space := "System.Web.UI.WebControls", name := "ListItemCollection",
    baseType := some "System.Object",
    properties := [
      property "Count" "System.Int32"],
    methods := [
      { name := "Add", parameters := [⟨"item", "System.Web.UI.WebControls.ListItem"⟩] },
      { name := "Clear" }] },
  { space := "System.Web.UI.WebControls", name := "ListControl",
    baseType := some "System.Web.UI.WebControls.WebControl", isAbstract := true,
    attributes := [parseChildren [.bool true, .string "Items"]],
    properties := [
      { name := "Items", typeName := "System.Web.UI.WebControls.ListItemCollection",
        attributes := [persistence "PersistenceMode.InnerDefaultProperty"] },
      property "DataSourceID" "System.String",
      property "DataTextField" "System.String",
      property "DataValueField" "System.String",
      property "AutoPostBack" "System.Boolean",
      property "SelectedValue" "System.String",
      property "AppendDataBoundItems" "System.Boolean"],
    events := [
      event "SelectedIndexChanged" "System.EventHandler",
      event "TextChanged" "System.EventHandler"] },
  { space := "System.Web.UI.WebControls", name := "DropDownList",
    baseType := some "System.Web.UI.WebControls.ListControl",
    documentation := some <|
      "Represents a control that allows the user to select a single item from a " ++
      "drop-down list." },
  { space := "System.Web.UI.WebControls", name := "ListBox",
    baseType := some "System.Web.UI.WebControls.ListControl",
    properties := [
      property "Rows" "System.Int32",
      property "SelectionMode" "System.Web.UI.WebControls.ListSelectionMode"] },
  { space := "System.Web.UI.WebControls", name := "ListSelectionMode", kind := .enumType,
    fields := members "System.Web.UI.WebControls.ListSelectionMode"
      ["Single", "Multiple"] },
  { space := "System.Web.UI.WebControls", name := "RepeaterItem",
    baseType := some "System.Web.UI.Control",
    properties := [
      property "ItemIndex" "System.Int32",
      property "DataItem" "System.Object"] },
  { space := "System.Web.UI.WebControls", name := "RepeaterItemEventArgs",
    baseType := some "System.EventArgs",
    properties := [
      property "Item" "System.Web.UI.WebControls.RepeaterItem"] },
  { space := "System.Web.UI.WebControls", name := "RepeaterCommandEventArgs",
    baseType := some "System.Web.UI.WebControls.CommandEventArgs",
    properties := [
      property "Item" "System.Web.UI.WebControls.RepeaterItem"] },
  { space := "System.Web.UI.WebControls", name := "RepeaterItemEventHandler",
    kind := .delegateType,
    methods := [handling "System.Web.UI.WebControls.RepeaterItemEventArgs"] },
  { space := "System.Web.UI.WebControls", name := "RepeaterCommandEventHandler",
    kind := .delegateType,
    methods := [handling "System.Web.UI.WebControls.RepeaterCommandEventArgs"] },
  { space := "System.Web.UI.WebControls", name := "Repeater",
    baseType := some "System.Web.UI.Control", attributes := [parseChildren [.bool true]],
    properties := [
      template "HeaderTemplate" "System.Web.UI.WebControls.RepeaterItem",
      template "ItemTemplate" "System.Web.UI.WebControls.RepeaterItem",
      template "AlternatingItemTemplate" "System.Web.UI.WebControls.RepeaterItem",
      template "SeparatorTemplate" "System.Web.UI.WebControls.RepeaterItem",
      template "FooterTemplate" "System.Web.UI.WebControls.RepeaterItem",
      property "DataSourceID" "System.String",
      property "DataMember" "System.String"],
    events := [
      event "ItemCommand" "System.Web.UI.WebControls.RepeaterCommandEventHandler",
      event "ItemDataBound" "System.Web.UI.WebControls.RepeaterItemEventHandler",
      event "ItemCreated" "System.Web.UI.WebControls.RepeaterItemEventHandler"],
    documentation := some <|
      "A data-bound list control that allows custom layout by repeating a " ++
      "template." },
  { space := "System.Web.UI.WebControls", name := "TableCell",
    baseType := some "System.Web.UI.WebControls.WebControl",
    attributes := [parseChildren [.bool false]],
    properties := [
      property "Text" "System.String",
      property "ColumnSpan" "System.Int32",
      property "RowSpan" "System.Int32",
      property "HorizontalAlign" "System.Web.UI.WebControls.HorizontalAlign"] },
  { space := "System.Web.UI.WebControls", name := "TableHeaderCell",
    baseType := some "System.Web.UI.WebControls.TableCell" },
  { space := "System.Web.UI.WebControls", name := "TableCellCollection",
    baseType := some "System.Object",
    methods := [
      { name := "Add", parameters := [⟨"cell", "System.Web.UI.WebControls.TableCell"⟩] }] },
  { space := "System.Web.UI.WebControls", name := "TableRow",
    baseType := some "System.Web.UI.WebControls.WebControl",
    attributes := [parseChildren [.bool true, .string "Cells"]],
    properties := [
      { name := "Cells", typeName := "System.Web.UI.WebControls.TableCellCollection",
        attributes := [persistence "PersistenceMode.InnerDefaultProperty"] }] },
  { space := "System.Web.UI.WebControls", name := "TableRowCollection",
    baseType := some "System.Object",
    methods := [
      { name := "Add", parameters := [⟨"row", "System.Web.UI.WebControls.TableRow"⟩] }] },
  { space := "System.Web.UI.WebControls", name := "Table",
    baseType := some "System.Web.UI.WebControls.WebControl",
    attributes := [parseChildren [.bool true, .string "Rows"]],
    properties := [
      { name := "Rows", typeName := "System.Web.UI.WebControls.TableRowCollection",
        attributes := [persistence "PersistenceMode.InnerDefaultProperty"] },
      property "Caption" "System.String",
      property "CellPadding" "System.Int32",
      property "GridLines" "System.Web.UI.WebControls.GridLines"] },
  { space := "System.Web.UI.WebControls", name := "GridLines", kind := .enumType,
    fields := members "System.Web.UI.WebControls.GridLines"
      ["None", "Horizontal", "Vertical", "Both"] },
  { space := "System.Web.UI.WebControls", name := "View",
    baseType := some "System.Web.UI.Control", attributes := [parseChildren [.bool false]],
    events := [
      event "Activate" "System.EventHandler",
      event "Deactivate" "System.EventHandler"] },
  { space := "System.Web.UI.WebControls", name := "MultiView",
    baseType := some "System.Web.UI.Control",
    attributes := [parseChildren [.type "System.Web.UI.WebControls.View"]],
    properties := [
      property "ActiveViewIndex" "System.Int32"],
    events := [
      event "ActiveViewChanged" "System.EventHandler"] },
  { space := "System.Web.Services", name := "WebService", baseType := some "System.Object" },
  { space := "System.Web", name := "IHttpHandler", kind := .interfaceType }]

end WebForms.Bundled
