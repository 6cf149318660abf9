import ModelScribe.Layout
import ModelScribe.Module.Assembly

/-! # Module plans

What a module is to hold, settled step by step; a later step of a kind replaces an earlier one.

* `ModulePlan`: the convention, header, import, models and layout of a module.
* `ModulePlan.executeWith`: its text, laid out by any layout function.
* `ModulePlan.execute`: its text in the library's own layout.
-/

namespace ModelScribe

/-- What a module is to hold and how it is laid out. -/
structure ModulePlan where
  convention : Convention
  /-- The time that the header names, if there is a header. -/
  header : Option Stamp := none
  imports : Bool := false
  registry : Registry := .empty
  /-- The layout, or none where the assembled text stays as it is. -/
  layout : Option LayoutOptions := some .standard

namespace ModulePlan

/-- The plan of an empty module. -/
def new (convention : Convention) : ModulePlan := { convention }

/-- Asks for a header with a time. -/
def withHeader (stamp : Stamp) (plan : ModulePlan) : ModulePlan :=
  { plan with header := some stamp }

/-- Asks for the import statement. -/
def withImport (plan : ModulePlan) : ModulePlan :=
  { plan with imports := true }

/-- Takes the models of a sample, in place of any taken before. -/
def define (root : String) (sample : Json) (plan : ModulePlan) : ModulePlan :=
  { plan with registry := .ofRoot root sample }

/-- Asks for a layout. -/
def withLayout (options : LayoutOptions) (plan : ModulePlan) : ModulePlan :=
  { plan with layout := some options }

/-- Asks for the assembled text as it is. -/
def raw (plan : ModulePlan) : ModulePlan :=
  { plan with layout := none }

/-- The parts of the module. -/
def assembly (plan : ModulePlan) : Assembly :=
  Assembly.emit
    { convention := plan.convention, header := plan.header, imports := plan.imports } plan.registry

/-- The text of the module as a layout function lays it out, which is asked only if the plan has a
layout. -/
def executeWith (format : LayoutOptions → String → String) (plan : ModulePlan) : String :=
  match plan.layout with
  | some options => format options plan.assembly.text
  | none => plan.assembly.text

/-- The text of the module. -/
def execute (plan : ModulePlan) : String :=
  plan.executeWith Layout.format

/-- The text of a module with header, import and all models of a sample. -/
def generate (convention : Convention) (root : String) (sample : Json)
    (layout : Option LayoutOptions) (stamp : Stamp) : String :=
  ((((new convention).withHeader stamp).withImport.define root sample).withLayout
    (layout.getD .standard)).execute

end ModulePlan

end ModelScribe
