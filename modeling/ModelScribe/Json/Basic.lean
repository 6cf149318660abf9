/-! # JSON values

* `Json`: a JSON value; an object is a list of members in the order of their keys' first
  appearance.
* `Json.insertMember`: a repeated key keeps its place and takes the later value.
* `Json.kindName`: how a message names the kind of a value.
-/

namespace ModelScribe

/-- A number of a JSON text: an integer of at most 64 bits, or a binary floating-point number. -/
inductive JsonNumber
  | integer (value : Int)
  | float (value : Float)
  deriving DecidableEq

/-- A JSON value. -/
inductive Json
  | null
  | bool (value : Bool)
  | number (value : JsonNumber)
  | string (value : String)
  | array (items : List Json)
  | object (members : List (String × Json))

namespace Json

/-- Gives a key a value: a key already there keeps its place, a new one goes to the end. -/
def insertMember (key : String) (value : Json) : List (String × Json) → List (String × Json)
  | [] => [(key, value)]
  | member :: rest =>
      if member.1 = key then (key, value) :: rest
      else member :: insertMember key value rest

/-- The members as an object holds them: each key once, at its first place, with its last value. -/
def mergeMembers (members : List (String × Json)) : List (String × Json) :=
  members.foldl (fun merged member => insertMember member.1 member.2 merged) []

/-- The value of a key. -/
def member? (key : String) (members : List (String × Json)) : Option Json :=
  members.lookup key

/-- The kind of a value, with its article. -/
def kindName : Json → String
  | null => "null"
  | bool _ => "a boolean"
  | number _ => "a number"
  | string _ => "a string"
  | array _ => "an array"
  | object _ => "an object"

mutual

/-- Decides whether two values are the same. -/
def decEq : (first second : Json) → Decidable (first = second)
  | null, null => isTrue rfl
  | bool first, bool second =>
      if same : first = second then isTrue (same ▸ rfl) else isFalse (by simpa using same)
  | number first, number second =>
      if same : first = second then isTrue (same ▸ rfl) else isFalse (by simpa using same)
  | string first, string second =>
      if same : first = second then isTrue (same ▸ rfl) else isFalse (by simpa using same)
  | array first, array second =>
      match decEqItems first second with
      | isTrue same => isTrue (same ▸ rfl)
      | isFalse different => isFalse (by simpa using different)
  | object first, object second =>
      match decEqMembers first second with
      | isTrue same => isTrue (same ▸ rfl)
      | isFalse different => isFalse (by simpa using different)
  | null, bool _ | null, number _ | null, string _ | null, array _ | null, object _
  | bool _, null | bool _, number _ | bool _, string _ | bool _, array _ | bool _, object _
  | number _, null | number _, bool _ | number _, string _ | number _, array _
  | number _, object _
  | string _, null | string _, bool _ | string _, number _ | string _, array _
  | string _, object _
  | array _, null | array _, bool _ | array _, number _ | array _, string _ | array _, object _
  | object _, null | object _, bool _ | object _, number _ | object _, string _
  | object _, array _ => isFalse (by simp)

/-- Decides whether two lists of values are the same. -/
def decEqItems : (first second : List Json) → Decidable (first = second)
  | [], [] => isTrue rfl
  | [], _ :: _ => isFalse (by simp)
  | _ :: _, [] => isFalse (by simp)
  | first :: firsts, second :: seconds =>
      match decEq first second, decEqItems firsts seconds with
      | isTrue same, isTrue rest => isTrue (same ▸ rest ▸ rfl)
      | isFalse different, _ => isFalse (by simp [different])
      | _, isFalse different => isFalse (by simp [different])

/-- Decides whether two lists of members are the same. -/
def decEqMembers : (first second : List (String × Json)) → Decidable (first = second)
  | [], [] => isTrue rfl
  | [], _ :: _ => isFalse (by simp)
  | _ :: _, [] => isFalse (by simp)
  | (key, value) :: firsts, (otherKey, other) :: seconds =>
      if sameKey : key = otherKey then
        match decEq value other, decEqMembers firsts seconds with
        | isTrue same, isTrue rest => isTrue (sameKey ▸ same ▸ rest ▸ rfl)
        | isFalse different, _ => isFalse (by simp [different])
        | _, isFalse different => isFalse (by simp [different])
      else isFalse (by simp [sameKey])

end

instance : DecidableEq Json := decEq

end Json

end ModelScribe
