import ModelScribe.Module.Convention
import ModelScribe.Registry
import ModelScribe.Stamp

/-! # Module texts

A module is its parts in order: header, import, declarations and export.

* `Assembly.emit`: the parts for one registry, behind those already there.
* `Assembly.text`: the parts with a separator between each two, and a final line feed.
-/

namespace ModelScribe

/-- The header of a module made at that time. -/
def headerText (stamp : Stamp) : String :=
  "\n/**\n  * Copyright " ++ toString stamp.year ++ " " ++ runtimePackage ++
    "\n  * Auto-generated: " ++ stamp.text ++ " \n  *\n  * @author jsonmodel-gen\n  */"

/-- The parts of a module made so far, and what the next registry adds besides declarations. -/
structure Assembly where
  convention : Convention
  header : Option Stamp := none
  imports : Bool := false
  parts : List String := []

namespace Assembly

/-- What stands between two parts. -/
def separator : String := " \n\n "

/-- The declarations of a registry as parts: the last one is the root and stays as it is. -/
def declarations (convention : Convention) : List Declaration → List String
  | [] => []
  | [root] => [root.rendered]
  | declaration :: next :: more =>
      convention.nestedDeclaration declaration.rendered ::
        declarations convention (next :: more)

/-- The parts that a registry adds. -/
def partsOf (assembly : Assembly) (registry : Registry) : List String :=
  (assembly.header.map headerText).toList ++
    (if assembly.imports then [assembly.convention.importStatement] else []) ++
    declarations assembly.convention registry.models ++
    [assembly.convention.exportStatement (registry.root?.map Declaration.model)]

/-- The assembly with everything for a registry added. -/
def emit (assembly : Assembly) (registry : Registry) : Assembly :=
  { assembly with parts := assembly.parts ++ assembly.partsOf registry }

/-- The text of the module. -/
def text (assembly : Assembly) : String :=
  String.intercalate separator assembly.parts ++ "\n"

end Assembly

end ModelScribe
