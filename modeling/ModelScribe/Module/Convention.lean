import ModelScribe.Declaration

/-! # Module conventions

How a JavaScript module names what it needs and what it offers.
-/

namespace ModelScribe

/-- The two kinds of JavaScript modules. -/
inductive Convention
  /-- CommonJS: `require` and `module.exports`. -/
  | cjs
  /-- ECMAScript modules: `import` and `export`. -/
  | esm
  deriving DecidableEq

/-- The package that provides the constructor of models. -/
def runtimePackage : String := "jsonmodel-js"

namespace Convention

/-- The statement that makes the constructor of models available. -/
def importStatement : Convention → String
  | cjs => "const " ++ factoryName ++ " = require('" ++ runtimePackage ++ "/cjs');"
  | esm => "import " ++ factoryName ++ " from '" ++ runtimePackage ++ "/esm';"

/-- The statement that offers the root model, or an empty object where there is none. -/
def exportStatement (convention : Convention) (root : Option String) : String :=
  let target := root.getD "\x7b\x7d"
  match convention with
  | cjs => "module.exports = " ++ target ++ ";"
  | esm => "export default " ++ target ++ ";"

/-- The declaration of a model that is not the root. -/
def nestedDeclaration (convention : Convention) (rendered : String) : String :=
  match convention with
  | cjs => rendered
  | esm => "export " ++ rendered

/-- The name of a convention among the settings. -/
def keyword : Convention → String
  | cjs => "cjs"
  | esm => "esm"

/-- The name of a convention in reports. -/
def label : Convention → String
  | cjs => "Cjs"
  | esm => "Esm"

/-- All conventions. -/
def all : List Convention := [cjs, esm]

end Convention

end ModelScribe
