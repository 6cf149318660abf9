import ModelScribe.Filter.Scope

/-! # Running filters

* `Filter.Env`: the definitions, values and labels that hold at a place of a filter.
* `Filter.Located`: a value and, where one is asked for, its path in the input.
* `Filter.run`: the outputs of a filter, one at a time; what comes behind a caught error is dropped.
* `Filter.change`: the input with what a filter leads to changed.
-/

namespace ModelScribe.Filter

/-- The names that hold at a place of a filter, the last one first. -/
inductive Env
  | empty
  | value (name : String) (held : Value) (outer : Env)
  | label (name : String) (number : Nat) (outer : Env)
  /-- The argument of a call, with the names and the number of labels where the call stands. -/
  | argument (name : String) (filter : Expr) (home : Env) (homeLabels : Nat) (outer : Env)
  | definition (name : String) (parameters : List String) (body : Expr) (outer : Env)

namespace Env

/-- The value of a name. -/
def value? (name : String) : Env → Option Value
  | empty => none
  | value other held outer => if other = name then some held else outer.value? name
  | label _ _ outer | argument _ _ _ _ outer | definition _ _ _ outer => outer.value? name

/-- The number of a label. -/
def label? (name : String) : Env → Option Nat
  | empty => none
  | label other number outer => if other = name then some number else outer.label? name
  | value _ _ outer | argument _ _ _ _ outer | definition _ _ _ outer => outer.label? name

/-- What a call of a defined filter leads to. -/
inductive Callee
  | argument (filter : Expr) (home : Env) (homeLabels : Nat)
  /-- A definition, with the names that hold in its body, itself among them. -/
  | definition (parameters : List String) (body : Expr) (home : Env)

/-- What a call leads to. -/
def callee? (name : String) (arity : Nat) : Env → Option Callee
  | empty => none
  | argument other filter home homeLabels outer =>
      if other = name ∧ arity = 0 then some (.argument filter home homeLabels)
      else outer.callee? name arity
  | definition other parameters body outer =>
      if other = name ∧ parameters.length = arity then
        some (.definition parameters body (definition other parameters body outer))
      else outer.callee? name arity
  | value _ _ outer | label _ _ outer => outer.callee? name arity

/-- The names of the defined filters. -/
def scope : Env → Scope
  | empty => {}
  | value name _ outer => outer.scope.withValue name
  | label name _ outer => outer.scope.withLabel name
  | argument name _ _ _ outer => outer.scope.withFilter name 0
  | definition name parameters _ outer => outer.scope.withFilter name parameters.length

end Env

/-- Where a filter runs: the names that hold there, and the number of labels that are open. -/
structure Place where
  env : Env
  labels : Nat := 0

/-- The place with one more value. -/
def Place.withValue (place : Place) (name : String) (held : Value) : Place :=
  { place with env := .value name held place.env }

/-- A value and, where one is asked for, its path in the input, the last key first. -/
structure Located where
  value : Value
  path : Option (List Value) := none

namespace Located

/-- A value that is no part of the input. -/
def made (value : Value) : Located := ⟨value, none⟩

/-- A part of a value. -/
def into (located : Located) (key part : Value) : Located :=
  ⟨part, located.path.map (key :: ·)⟩

end Located

/-- The outputs of a filter, each a value or a fault. -/
abbrev Outputs : Type := Flow (Outcome Located)

namespace Outputs

/-- One output that is no part of the input. -/
def made (value : Value) : Outputs := .single (.ok (.made value))

/-- One output that is no part of the input, or a fault. -/
def ofOutcome (outcome : Outcome Value) : Outputs := .single (outcome.map Located.made)

/-- A fault in place of an output. -/
def fault (fault : Fault) : Outputs := .single (.error fault)

/-- The outputs that count as true, and the faults. -/
def keepTrue (outputs : Outputs) : Outputs :=
  outputs.keep fun
    | .ok located => located.value.isTrue
    | .error _ => true

/-- The outputs up to the way out of a label. -/
def upToLabel (number : Nat) (outputs : Outputs) : Outputs :=
  outputs.upTo fun
    | .error (.broken other) => other = number
    | _ => false

/-- The outputs up to the first error that can be caught, and then those made of its value. -/
def caught (handler : Value → Outputs) : Outputs → Outputs
  | .done => .done
  | .item (.ok located) rest => .item (.ok located) fun _ => caught handler (rest ())
  | .item (.error (.raised value)) _ => handler value
  | .item (.error other) _ => fault other

/-- The values of outputs. -/
def values (outputs : Outputs) : Flow (Outcome Value) :=
  outputs.bind fun output => .single (output.map Located.value)

end Outputs

/-- What steps lead to from a value. -/
def follow : List (Stride × Bool) → Located → Outputs
  | [], located => .single (.ok located)
  | (stride, optional) :: rest, located =>
      match stride.reach located.value with
      | .error fault => if optional then .done else .fault fault
      | .ok found =>
          (Flow.ofList found).bind fun (key, part) => follow rest (located.into key part)

/-- What a source makes of a start, one step after another for each of its outputs. -/
def fold (step : Value → Located → Outputs) : (source : Flow (Outcome Value)) → Located → Outputs
  | .done, located => .single (.ok located)
  | .item (.error fault) _, _ => .fault fault
  | .item (.ok item) rest, located =>
      (step item located).bindOk fun next => fold step (rest ()) next

/-- The same with outputs for each step. -/
def foldEach (step project : Value → Located → Outputs) :
    (source : Flow (Outcome Value)) → Located → Outputs
  | .done, _ => .done
  | .item (.error fault) _, _ => .fault fault
  | .item (.ok item) rest, located =>
      (step item located).bindOk fun next =>
        (project item next).append fun _ => foldEach step project (rest ()) next

/-- What a value is changed to: any number of new values. -/
abbrev Change : Type := Value → Flow (Outcome Value)

/-- A value with that part changed to which the steps for the outputs of a source lead, each step
inside the one before. -/
def changeFold (step : Value → Change → Change) (update : Change) :
    (source : Flow (Outcome Value)) → Change
  | .done, value => update value
  | .item (.error fault) _, _ => .single (.error fault)
  | .item (.ok item) rest, value =>
      step item (fun inner => changeFold step update (rest ()) inner) value

/-- The same with a change behind each step, the innermost one first. -/
def changeFoldEach (step : Value → Change → Change) (update : Value → Change) :
    (source : Flow (Outcome Value)) → Change
  | .done, value => .single (.ok value)
  | .item (.error fault) _, _ => .single (.error fault)
  | .item (.ok item) rest, value =>
      step item
        (fun inner => (changeFoldEach step update (rest ()) inner).bindOk (update item)) value

/-- A value changed again and again, once for each output of a source. -/
def changeEach {α : Type} (change : α → Value → Flow (Outcome Value)) :
    (source : Flow (Outcome α)) → Value → Flow (Outcome Value)
  | .done, value => .single (.ok value)
  | .item (.error fault) _, _ => .single (.error fault)
  | .item (.ok item) rest, value =>
      (change item value).bindOk fun next => changeEach change (rest ()) next

mutual

/-- The outputs of a filter for an input; where paths are asked for, a filter that makes values has
none. -/
def run : (depth : Nat) → Place → Expr → Located → Outputs
  | 0, _, _, _ => Outputs.fault .tooDeep
  | depth + 1, place, filter, input =>
      let plain := Located.made input.value
      if input.path.isSome ∧ filter.makes then Outputs.fault (.noPath input.value)
      else match filter with
      | .identity => .single (.ok input)
      | .nothing => .done
      | .asText => Outputs.made (.string input.value.toText)
      | .numeral digits => Outputs.made (.ofNumeral digits)
      | .string text => Outputs.made (.string text)
      | .formatted _ text => run depth place text input
      | .emptyArray => Outputs.made (.array [])
      | .emptyObject => Outputs.made (.object [])
      | .collect items =>
          Outputs.ofOutcome ((run depth place items input).values.collect.map Value.array)
      | .member key value =>
          runPair depth place key value input fun key value =>
            key.stringOf.map fun key => .object [(key, value)]
      | .negate operand =>
          (run depth place operand input).bindOk fun operand =>
            Outputs.ofOutcome operand.value.negated
      | .pipe first second => (run depth place first input).bindOk (run depth place second)
      | .bind source name body =>
          (run depth place source plain).bindOk fun found =>
            run depth (place.withValue name found.value) body input
      | .both first second =>
          (run depth place first input).append fun _ => run depth place second input
      | .otherwise first second =>
          match (run depth place first input).keepTrue with
          | .done => run depth place second input
          | found => found
      | .conjunction first second =>
          (run depth place first input).bindOk fun found =>
            if found.value.isTrue then
              (run depth place second input).bindOk fun found =>
                Outputs.made (.bool found.value.isTrue)
            else Outputs.made (.bool false)
      | .disjunction first second =>
          (run depth place first input).bindOk fun found =>
            if found.value.isTrue then Outputs.made (.bool true)
            else
              (run depth place second input).bindOk fun found =>
                Outputs.made (.bool found.value.isTrue)
      | .compare comparison first second =>
          runPair depth place first second input fun first second =>
            .ok (.bool (comparison.holds first second))
      | .calculate operation first second =>
          runPair depth place first second input operation.apply
      | .assign target value =>
          (run depth place value input).bindOk fun found =>
            changed depth place target input fun _ => .single (.ok found.value)
      | .update target update =>
          changed depth place target input fun value =>
            (run depth place update (.made value)).values
      | .updateBy operation target value =>
          (run depth place value input).bindOk fun found =>
            changed depth place target input fun value =>
              .single (operation.apply value found.value)
      | .updateOtherwise target value =>
          (run depth place value input).bindOk fun found =>
            changed depth place target input fun value =>
              .single (.ok (if value.isTrue then value else found.value))
      | .label name body =>
          let number := place.labels + 1
          (run depth ⟨.label name number place.env, number⟩ body input).upToLabel number
      | .leave name => Outputs.fault (.broken ((place.env.label? name).getD 0))
      | .fold kind source name arguments =>
          let items := (run depth place source plain).values
          let withItem (filter : Expr) (item : Value) (located : Located) : Outputs :=
            run depth (place.withValue name item) filter located
          match kind, arguments with
          | .reduce, .more start (.more step _) =>
              (run depth place start input).bindOk (fold (withItem step) items)
          | .foreach, .more start (.more step .none) =>
              (run depth place start input).bindOk
                (foldEach (withItem step) (fun _ located => .single (.ok located)) items)
          | .foreach, .more start (.more step (.more project _)) =>
              (run depth place start input).bindOk
                (foldEach (withItem step) (withItem project) items)
          | _, _ => .done
      | .attempt body handler =>
          (run depth place body input).caught fun value => run depth place handler (.made value)
      | .choose condition yes no =>
          (run depth place condition plain).bindOk fun found =>
            if found.value.isTrue then run depth place yes input else run depth place no input
      | .define name parameters body rest =>
          run depth { place with env := .definition name parameters body place.env } rest input
      | .call name arguments =>
          match place.env.callee? name arguments.size with
          | some (.argument filter home homeLabels) => run depth ⟨home, homeLabels⟩ filter input
          | some (.definition parameters body home) =>
              (bindArguments depth place parameters arguments plain home).bindOk fun env =>
                run depth { place with env } body input
          | none =>
              match native? name arguments.size with
              | some native => runNative depth place native arguments input
              | none => Outputs.fault (.message (name ++ " is not defined"))
      | .reference name => Outputs.made ((place.env.value? name).getD .null)
      | .path base steps =>
          (run depth place base input).bindOk fun located =>
            (strides depth place steps plain).bindOk fun strides => follow strides located

/-- The results of an operation on each output of one filter with each of another. -/
def runPair : (depth : Nat) → Place → (first second : Expr) → Located →
    (Value → Value → Outcome Value) → Outputs
  | 0, _, _, _, _, _ => Outputs.fault .tooDeep
  | depth + 1, place, first, second, input, apply =>
      (run depth place first input).bind fun first =>
        (run depth place second input).bind fun second => Outputs.ofOutcome do
          let first ← first
          let second ← second
          apply first.value second.value

/-- The input with what a filter leads to changed, as outputs. -/
def changed : (depth : Nat) → Place → (target : Expr) → Located → (update : Change) → Outputs
  | 0, _, _, _, _ => Outputs.fault .tooDeep
  | depth + 1, place, target, input, update =>
      (change depth place target input.value update).bindOk Outputs.made

/-- The steps of a path with their keys worked out. -/
def strides : (depth : Nat) → Place → Steps → Located → Flow (Outcome (List (Stride × Bool)))
  | 0, _, _, _ => .single (.error .tooDeep)
  | depth + 1, place, steps, input =>
      let behind (stride : Stride) (optional : Bool) (rest : Steps) :
          Flow (Outcome (List (Stride × Bool))) :=
        (strides depth place rest input).bindOk fun rest =>
          .single (.ok ((stride, optional) :: rest))
      match steps with
      | .none => .single (.ok [])
      | .each optional rest => behind .each optional rest
      | .part key optional rest =>
          (run depth place key input).bindOk fun key => behind (.part key.value) optional rest
      | .from lower optional rest =>
          (run depth place lower input).bindOk fun lower =>
            behind (.slice (some lower.value) none) optional rest
      | .upTo upper optional rest =>
          (run depth place upper input).bindOk fun upper =>
            behind (.slice none (some upper.value)) optional rest
      | .between lower upper optional rest =>
          (run depth place lower input).bindOk fun lower =>
            (run depth place upper input).bindOk fun upper =>
              behind (.slice (some lower.value) (some upper.value)) optional rest

/-- The names in the body of a definition: each combination of the values among its arguments, and
the other arguments as they are. -/
def bindArguments : (depth : Nat) → Place → (parameters : List String) → Arguments → Located →
    (home : Env) → Flow (Outcome Env)
  | 0, _, _, _, _, _ => .single (.error .tooDeep)
  | depth + 1, place, parameters, arguments, input, home =>
      match parameters, arguments with
      | parameter :: parameters, .more argument rest =>
          match Scope.valueParameter? parameter with
          | some name =>
              (run depth place argument input).bindOk fun found =>
                bindArguments depth place parameters rest input (.value name found.value home)
          | none =>
              bindArguments depth place parameters rest input
                (.argument parameter argument place.env place.labels home)
      | _, _ => .single (.ok home)

/-- Each combination of the values of arguments. -/
def argumentValues : (depth : Nat) → Place → Arguments → Located → Flow (Outcome (List Value))
  | 0, _, _, _ => .single (.error .tooDeep)
  | depth + 1, place, arguments, input =>
      match arguments with
      | .none => .single (.ok [])
      | .more argument rest =>
          (run depth place argument input).bindOk fun found =>
            (argumentValues depth place rest input).bindOk fun values =>
              .single (.ok (found.value :: values))

/-- The outputs of a filter that is not defined by others. -/
def runNative : (depth : Nat) → Place → Native → Arguments → Located → Outputs
  | 0, _, _, _, _ => Outputs.fault .tooDeep
  | depth + 1, place, native, arguments, input =>
      let plain := Located.made input.value
      if input.path.isSome ∧ native.makes then Outputs.fault (.noPath input.value)
      else match native, arguments with
      | .raise, _ => Outputs.fault (.raised input.value)
      | .onInput apply, _ => Outputs.ofOutcome (apply input.value)
      | .onValues apply, arguments =>
          (argumentValues depth place arguments input).bindOk fun values =>
            (apply input.value values).bindOk Outputs.made
      | .paths, .more filter _ =>
          (run depth place filter ⟨input.value, some []⟩).bindOk fun found =>
            match found.path with
            | some keys => Outputs.made (.array keys.reverse)
            | none => Outputs.fault (.noPath found.value)
      | .first, .more filter _ => (run depth place filter input).take 1
      | .last, .more filter _ =>
          match (run depth place filter input).lastOk with
          | .ok (some located) => .single (.ok located)
          | .ok none => .done
          | .error fault => Outputs.fault fault
      | .take, .more count (.more filter _) =>
          (run depth place count plain).bindOk fun found =>
            match found.value.asInteger with
            | .ok count => (run depth place filter input).take count.toNat
            | .error fault => Outputs.fault fault
      | .drop, .more count (.more filter _) =>
          (run depth place count plain).bindOk fun found =>
            match found.value.asInteger with
            | .ok count => (run depth place filter input).drop count.toNat
            | .error fault => Outputs.fault fault
      | .isEmpty, .more filter _ =>
          match run depth place filter input with
          | .done => Outputs.made (.bool true)
          | .item (.ok _) _ => Outputs.made (.bool false)
          | .item (.error fault) _ => Outputs.fault fault
      | .byKeys fewest arrange, .more filter _ => Outputs.ofOutcome do
          let items ← input.value.items
          let pairs ← items.mapM fun item =>
            if items.length < fewest then .ok (.null, item)
            else
              (run depth place filter (.made item)).values.collect.map fun keys =>
                (.array keys, item)
          return arrange pairs
      | _, .none | .take, _ | .drop, _ => .done

/-- The input with what a filter leads to changed. Of two filters side by side the second one has
its turn first, so that the parts of a value are changed before the value as a whole. -/
def change : (depth : Nat) → Place → (target : Expr) → Value → (update : Change) →
    Flow (Outcome Value)
  | 0, _, _, _, _ => .single (.error .tooDeep)
  | depth + 1, place, target, value, update =>
      match target with
      | .identity => update value
      | .path base steps =>
          change depth place base value fun inner =>
            changeEach (fun strides inner => .single (Stride.changeAlong update strides inner))
              (strides depth place steps (.made value)) inner
      | .pipe first second =>
          change depth place first value fun inner => change depth place second inner update
      | .both first second =>
          (change depth place second value update).bindOk fun value =>
            change depth place first value update
      | .bind source name body =>
          changeEach (fun item value => change depth (place.withValue name item) body value update)
            (run depth place source (.made value)).values value
      | .choose condition yes no =>
          changeEach
            (fun found value =>
              if found.isTrue then change depth place yes value update
              else change depth place no value update)
            (run depth place condition (.made value)).values value
      | .otherwise first second =>
          match (run depth place first (.made value)).keepTrue with
          | .done => change depth place second value update
          | _ => change depth place first value update
      | .fold kind source name arguments =>
          let items := (run depth place source (.made value)).values
          let withItem (filter : Expr) (item : Value) (update : Change) (inner : Value) :
              Flow (Outcome Value) :=
            change depth (place.withValue name item) filter inner update
          match kind, arguments with
          | .reduce, .more start (.more step _) =>
              change depth place start value (changeFold (withItem step) update items)
          | .foreach, .more start (.more step .none) =>
              change depth place start value
                (changeFoldEach (withItem step) (fun _ => update) items)
          | .foreach, .more start (.more step (.more project _)) =>
              change depth place start value
                (changeFoldEach (withItem step) (fun item => withItem project item update) items)
          | _, _ => .single (.ok value)
      | .leave name => .single (.error (.broken ((place.env.label? name).getD 0)))
      | .define name parameters body rest =>
          change depth { place with env := .definition name parameters body place.env } rest value
            update
      | .call name arguments =>
          match place.env.callee? name arguments.size with
          | some (.argument filter home homeLabels) =>
              change depth ⟨home, homeLabels⟩ filter value update
          | some (.definition parameters body home) =>
              changeEach (fun env value => change depth { place with env } body value update)
                (bindArguments depth place parameters arguments (.made value) home) value
          | none =>
              match native? name arguments.size with
              | some .raise => .single (.error (.raised value))
              | _ => .single (.error (.noPath value))
      | _ => .single (.error (.noPath value))

end

end ModelScribe.Filter
