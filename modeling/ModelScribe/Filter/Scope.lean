import ModelScribe.Filter.Expression
import ModelScribe.Filter.Native

/-! # Names in filters

* `Filter.Scope`: the names that may be used at a place of a filter.
* `Filter.Expr.undefinedNames`: the names in a filter that may not be used where they stand, and the
  folds that do not take as many arguments as they have.
-/

namespace ModelScribe.Filter

/-- The names that may be used at a place of a filter. -/
structure Scope where
  /-- The defined filters, each with its number of arguments. -/
  filters : List (String × Nat) := []
  values : List String := []
  labels : List String := []

namespace Scope

/-- A filter of that name may be called with so many arguments. -/
def hasFilter (scope : Scope) (name : String) (arity : Nat) : Bool :=
  scope.filters.contains (name, arity) || (native? name arity).isSome

/-- The scope with one more defined filter. -/
def withFilter (scope : Scope) (name : String) (arity : Nat) : Scope :=
  { scope with filters := (name, arity) :: scope.filters }

/-- The scope with one more value. -/
def withValue (scope : Scope) (name : String) : Scope :=
  { scope with values := name :: scope.values }

/-- The scope with one more label. -/
def withLabel (scope : Scope) (name : String) : Scope :=
  { scope with labels := name :: scope.labels }

/-- The name of a parameter that is a value. -/
def valueParameter? (parameter : String) : Option String :=
  match parameter.toList with
  | '$' :: name => some (String.ofList name)
  | _ => none

/-- The scope with the parameters of a definition. -/
def withParameters (scope : Scope) (parameters : List String) : Scope :=
  parameters.foldl
    (fun scope parameter =>
      match valueParameter? parameter with
      | some name => scope.withValue name
      | none => scope.withFilter parameter 0)
    scope

end Scope

/-- The name of a fold. -/
def Fold.name : Fold → String
  | reduce => "reduce"
  | foreach => "foreach"

/-- A name with what it is used as, unless it is defined. -/
def unlessDefined (defined : Bool) (name use : String) : List (String × String) :=
  if defined then [] else [(name, use)]

/-- A filter with what it is used as, unless it may be called with so many arguments. -/
def Scope.undefinedFilter (scope : Scope) (name : String) (arity : Nat) :
    List (String × String) :=
  unlessDefined (scope.hasFilter name arity) name ("Filter(" ++ toString arity ++ ")")

mutual

/-- The names in a filter that may not be used where they stand, and the folds that do not take as
many arguments as they have, each with what it is used as. -/
def Expr.undefinedNames (scope : Scope) : Expr → List (String × String)
  | .identity | .nothing | .asText | .numeral _ | .string _ | .emptyArray | .emptyObject => []
  | .formatted format text => scope.undefinedFilter format 0 ++ text.undefinedNames scope
  | .collect operand | .negate operand => operand.undefinedNames scope
  | .member first second | .pipe first second | .both first second
  | .otherwise first second | .conjunction first second | .disjunction first second
  | .compare _ first second | .calculate _ first second | .assign first second
  | .update first second | .updateBy _ first second | .updateOtherwise first second
  | .attempt first second => first.undefinedNames scope ++ second.undefinedNames scope
  | .bind source name body =>
      source.undefinedNames scope ++ body.undefinedNames (scope.withValue name)
  | .label name body => body.undefinedNames (scope.withLabel name)
  | .leave name => unlessDefined (scope.labels.contains name) name "Label"
  | .fold kind _ _ .none => [(kind.name, "Filter(0)")]
  | .fold kind source name (.more start rest) =>
      unlessDefined (kind.takes (rest.size + 1)) kind.name
          ("Filter(" ++ toString (rest.size + 1) ++ ")") ++
        source.undefinedNames scope ++ start.undefinedNames scope ++
        rest.undefinedNames (scope.withValue name)
  | .choose condition yes no =>
      condition.undefinedNames scope ++ yes.undefinedNames scope ++ no.undefinedNames scope
  | .define name parameters body rest =>
      let scope := scope.withFilter name parameters.length
      body.undefinedNames (scope.withParameters parameters) ++ rest.undefinedNames scope
  | .call name arguments =>
      scope.undefinedFilter name arguments.size ++ arguments.undefinedNames scope
  | .reference name => unlessDefined (scope.values.contains name) name "Var"
  | .path base steps => base.undefinedNames scope ++ steps.undefinedNames scope

/-- The undefined names in the arguments of a call. -/
def Arguments.undefinedNames (scope : Scope) : Arguments → List (String × String)
  | .none => []
  | .more argument rest => argument.undefinedNames scope ++ rest.undefinedNames scope

/-- The undefined names in a path. -/
def Steps.undefinedNames (scope : Scope) : Steps → List (String × String)
  | .none => []
  | .each _ rest => rest.undefinedNames scope
  | .part key _ rest => key.undefinedNames scope ++ rest.undefinedNames scope
  | .from lower _ rest => lower.undefinedNames scope ++ rest.undefinedNames scope
  | .upTo upper _ rest => upper.undefinedNames scope ++ rest.undefinedNames scope
  | .between lower upper _ rest =>
      lower.undefinedNames scope ++ upper.undefinedNames scope ++ rest.undefinedNames scope

end

end ModelScribe.Filter
