import ModelScribe.Declaration
import ModelScribe.Inference.Sample

/-! # Registries

A registry is the list of the declarations made so far. Building a model from a sample object
declares the models of the objects below it first, so that each declaration comes after those that
it refers to.

* `Build`: a registry in the making, with the events of its making.
* `Build.model`, `Build.fields`: a model and all models below it, field after field.
* `Registry.build`, `Registry.ofRoot`: the registry with the models of a sample.
-/

namespace ModelScribe

/-- The declarations made so far, in order. -/
structure Registry where
  models : List Declaration
  deriving DecidableEq

namespace Registry

/-- The registry without declarations. -/
def empty : Registry := ⟨[]⟩

/-- The registry with one more declaration. -/
def push (registry : Registry) (declaration : Declaration) : Registry :=
  ⟨registry.models ++ [declaration]⟩

/-- The number of declarations. -/
def size (registry : Registry) : Nat := registry.models.length

/-- The last declaration, which is the one of the sample as a whole. -/
def root? (registry : Registry) : Option Declaration := registry.models.getLast?

/-- The names of the models, in order. -/
def names (registry : Registry) : List String := registry.models.map Declaration.model

@[simp]
theorem models_push (registry : Registry) (declaration : Declaration) :
    (registry.push declaration).models = registry.models ++ [declaration] := rfl

end Registry

/-- What happens while models are built. -/
inductive BuildEvent
  /-- A null says nothing about its key, which gets no field. -/
  | droppedKey (model key : String)
  /-- A declaration was added; the registry then had so many. -/
  | declared (model : String) (fields registrySize : Nat)
  deriving DecidableEq

/-- A registry in the making. -/
structure Build where
  registry : Registry
  /-- The events so far, in order. -/
  events : List BuildEvent

namespace Build

/-- The state before anything is built on a registry. -/
def on (registry : Registry) : Build := ⟨registry, []⟩

/-- Records that a key gets no field. -/
def dropKey (model key : String) (build : Build) : Build :=
  { build with events := build.events ++ [.droppedKey model key] }

/-- Adds the declaration of a model. -/
def declare (model : String) (fields : List Field) (build : Build) : Build :=
  let registry := build.registry.push (.of model fields)
  ⟨registry, build.events ++ [.declared model fields.length registry.size]⟩

mutual

/-- Builds a model and the models below it from a sample; only an object makes a model. -/
def model (name : String) : Json → Build → Build
  | .object members, build =>
      let (fields, build) := fields name members build
      build.declare name fields
  | _, build => build

/-- Builds a model from the innermost first item of an array. -/
def firstModel (name : String) : Json → Build → Build
  | .array (first :: _), build =>
      match first with
      | .array items => firstModel name (.array items) build
      | first => model name first build
  | _, build => build

/-- The fields of a model, one for each key whose value says something; the models below a key are
built before the next key is looked at. -/
def fields (name : String) : List (String × Json) → Build → List Field × Build
  | [], build => ([], build)
  | (key, value) :: members, build =>
      let type := FieldType.infer value
      if type.isUntyped then
        fields name members (build.dropKey name key)
      else
        let build :=
          if type = .object then model (nestedModel key) value build
          else if type.innermost = .object then firstModel (nestedModel key) value build
          else build
        let (more, build) := fields name members build
        (⟨key, type.nameObject (nestedModel key)⟩ :: more, build)

end

end Build

namespace Registry

/-- The registry with the models of a sample added. -/
def build (name : String) (sample : Json) (registry : Registry) : Registry :=
  (Build.model name sample (.on registry)).registry

/-- The events of building the models of a sample. -/
def buildEvents (name : String) (sample : Json) (registry : Registry) : List BuildEvent :=
  (Build.model name sample (.on registry)).events

/-- The models of a sample alone. -/
def ofRoot (name : String) (sample : Json) : Registry :=
  empty.build name sample

end Registry

end ModelScribe
