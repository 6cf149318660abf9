/-! # Flows

A flow is a list whose rest is worked out only when it is asked for, so that a filter may offer more
outputs than anybody takes.

* `Flow.append`, `Flow.bind`, `Flow.map`, `Flow.keep`, `Flow.take`: the operations of lists.
* `Flow.toList`: all outputs.
* `Flow.collect`, `Flow.lastOk`: all outputs and the last one, or the first fault.
-/

namespace ModelScribe

/-- A list whose rest is worked out only when it is asked for. -/
inductive Flow (α : Type)
  | done
  | item (value : α) (rest : Unit → Flow α)

namespace Flow

variable {α β ε : Type}

instance : Inhabited (Flow α) := ⟨done⟩

/-- The flow of one output. -/
def single (value : α) : Flow α := item value fun _ => done

/-- A flow and then another. -/
def append : Flow α → (Unit → Flow α) → Flow α
  | done, more => more ()
  | item value rest, more => item value fun _ => append (rest ()) more

/-- The flows of all outputs, one after another. -/
def bind : Flow α → (α → Flow β) → Flow β
  | done, _ => done
  | item value rest, next => (next value).append fun _ => bind (rest ()) next

/-- What a function makes of each output. -/
def map (make : α → β) : Flow α → Flow β
  | done => done
  | item value rest => item (make value) fun _ => map make (rest ())

/-- The outputs that satisfy a test. -/
def keep (test : α → Bool) : Flow α → Flow α
  | done => done
  | item value rest =>
      if test value then item value fun _ => keep test (rest ()) else keep test (rest ())

/-- The first so many outputs. -/
def take : Nat → Flow α → Flow α
  | 0, _ => done
  | _ + 1, done => done
  | 1, item value _ => single value
  | count + 2, item value rest => item value fun _ => take (count + 1) (rest ())

/-- The outputs behind the first so many. -/
def drop : Nat → Flow α → Flow α
  | 0, flow => flow
  | _ + 1, done => done
  | count + 1, item _ rest => drop count (rest ())

/-- The outputs before the first one that satisfies a test. -/
def upTo (test : α → Bool) : Flow α → Flow α
  | done => done
  | item value rest => if test value then done else item value fun _ => upTo test (rest ())

/-- All outputs. -/
def toList : Flow α → List α
  | done => []
  | item value rest => value :: toList (rest ())

/-- The flow of the items of a list. -/
def ofList : List α → Flow α
  | [] => done
  | value :: values => item value fun _ => ofList values

/-- The outputs of a flow with faults, before `read` in reverse, or its first fault. -/
def collectOnto : (read : List α) → Flow (Except ε α) → Except ε (List α)
  | read, done => .ok read.reverse
  | read, item (.ok value) rest => collectOnto (value :: read) (rest ())
  | _, item (.error fault) _ => .error fault

/-- The last output, or else an earlier one; or the first fault. -/
def lastOkAfter : (earlier : Option α) → Flow (Except ε α) → Except ε (Option α)
  | earlier, done => .ok earlier
  | _, item (.ok value) rest => lastOkAfter (some value) (rest ())
  | _, item (.error fault) _ => .error fault

/-- The last output, if there is one, or the first fault. -/
def lastOk (flow : Flow (Except ε α)) : Except ε (Option α) := lastOkAfter none flow

/-- All outputs, or the first fault. -/
def collect (flow : Flow (Except ε α)) : Except ε (List α) := collectOnto [] flow

/-- The flows of all outputs, one after another; a fault stays where it is. -/
def bindOk (flow : Flow (Except ε α)) (next : α → Flow (Except ε β)) : Flow (Except ε β) :=
  flow.bind fun
    | .ok value => next value
    | .error fault => single (.error fault)

@[simp]
theorem toList_single (value : α) : (single value).toList = [value] := rfl

@[simp]
theorem toList_append (flow : Flow α) (more : Unit → Flow α) :
    (flow.append more).toList = flow.toList ++ (more ()).toList := by
  induction flow with
  | done => rfl
  | item value rest ih => simp [append, toList, ih]

@[simp]
theorem toList_bind (flow : Flow α) (next : α → Flow β) :
    (flow.bind next).toList = flow.toList.flatMap fun value => (next value).toList := by
  induction flow with
  | done => rfl
  | item value rest ih => simp [bind, toList, ih]

@[simp]
theorem toList_ofList (values : List α) : (ofList values).toList = values := by
  induction values with
  | nil => rfl
  | cons value values ih => simp [ofList, toList, ih]

end Flow

end ModelScribe
