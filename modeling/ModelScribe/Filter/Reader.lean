import ModelScribe.Filter.Expression
import ModelScribe.Filter.Token

/-! # Reading filters

* `Filter.Operator`: the signs between two filters and how closely they bind.
* `Filter.Expr.read`: the filter that a text says.

Definitions and labels reach as far to the right as they can. A pattern on the left of a bar is
read as the variables in it, each with the keys that lead to its value. No word is reserved: one
that has no meaning of its own at its place is the name of a filter.
-/

namespace ModelScribe.Filter

/-- The signs between two filters. -/
inductive Operator
  | pipe
  | both
  | assign
  | update
  | updateBy (operation : Arithmetic)
  | updateOtherwise
  | otherwise
  | disjunction
  | conjunction
  | compare (comparison : Comparison)
  | calculate (operation : Arithmetic)

namespace Operator

/-- The operator that a token stands for. -/
def ofToken? : Token → Option Operator
  | .word "or" => some disjunction
  | .word "and" => some conjunction
  | .symbol sign =>
      match sign with
      | "|" => some pipe
      | "," => some both
      | "=" => some assign
      | "|=" => some update
      | "+=" => some (updateBy .add)
      | "-=" => some (updateBy .subtract)
      | "*=" => some (updateBy .multiply)
      | "/=" => some (updateBy .divide)
      | "%=" => some (updateBy .remainder)
      | "//=" => some updateOtherwise
      | "//" => some otherwise
      | "==" => some (compare .equal)
      | "!=" => some (compare .different)
      | "<" => some (compare .less)
      | "<=" => some (compare .atMost)
      | ">" => some (compare .greater)
      | ">=" => some (compare .atLeast)
      | "+" => some (calculate .add)
      | "-" => some (calculate .subtract)
      | "*" => some (calculate .multiply)
      | "/" => some (calculate .divide)
      | "%" => some (calculate .remainder)
      | _ => none
  | _ => none

/-- How closely an operator binds. -/
def level : Operator → Nat
  | pipe => 0
  | both => 1
  | assign | update | updateBy _ | updateOtherwise => 2
  | otherwise => 3
  | disjunction => 4
  | conjunction => 5
  | compare .equal | compare .different => 6
  | compare _ => 7
  | calculate .add | calculate .subtract => 8
  | calculate .multiply | calculate .divide => 9
  | calculate .remainder => 10

/-- Of several operators of one level, the last one is the outermost, unless they bind to the
right. -/
def bindsRight : Operator → Bool
  | pipe | assign | update | updateBy _ | updateOtherwise => true
  | _ => false

/-- The level from which the operators on the right belong to the right operand. -/
def rightLevel (operator : Operator) : Nat :=
  if operator.bindsRight then operator.level else operator.level + 1

/-- The filter that an operator makes of two. -/
def join (first second : Expr) : Operator → Expr
  | pipe => .pipe first second
  | both => .both first second
  | assign => .assign first second
  | update => .update first second
  | updateBy operation => .updateBy operation first second
  | updateOtherwise => .updateOtherwise first second
  | otherwise => .otherwise first second
  | disjunction => .disjunction first second
  | conjunction => .conjunction first second
  | compare comparison => .compare comparison first second
  | calculate operation => .calculate operation first second

end Operator

/-- The variables of a pattern, each with the keys that lead to its value. -/
abbrev Pattern : Type := List (List Expr × String)

namespace Pattern

/-- The pattern of one variable. -/
def name (variableName : String) : Pattern := [([], variableName)]

/-- The pattern of what is under a key. -/
def under (key : Expr) (pattern : Pattern) : Pattern :=
  pattern.map fun (keys, variableName) => (key :: keys, variableName)

/-- The path of keys that must all be there. -/
def steps : List Expr → Steps
  | [] => .none
  | key :: keys => .part key false (steps keys)

/-- The name, which nobody can write, of the value that a pattern takes apart. -/
def whole : String := ""

/-- A filter with the variables of a pattern. -/
def bindParts (pattern : Pattern) (body : Expr) : Expr :=
  pattern.foldr
    (fun (keys, variableName) body =>
      .bind (.path (.reference whole) (steps keys)) variableName body)
    body

/-- The name that a value is bound to for a pattern. -/
def outerName : Pattern → String
  | [([], variableName)] => variableName
  | _ => whole

/-- A filter in which the value under `outerName` has been taken apart. -/
def inner (pattern : Pattern) (body : Expr) : Expr :=
  match pattern with
  | [([], _)] => body
  | _ => bindParts pattern body

end Pattern

namespace Expr

/-- What follows a token that has to come. -/
def expect (token : Token) : List Token → Option (List Token)
  | [] => none
  | first :: rest => if first = token then some rest else none

/-- What follows question marks, and whether there were any. -/
def skipMarks : List Token → Bool × List Token
  | .symbol "?" :: rest => (true, (skipMarks rest).2)
  | rest => (false, rest)

/-- A filter inside a string: its outputs as text. -/
def written (format : Option String) (filter : Expr) : Expr :=
  .pipe filter (match format with
    | none => .asText
    | some format => .call format .none)

/-- The sum of what has been read and one more piece. -/
def joined : Option Expr → Expr → Expr
  | none, piece => piece
  | some before, piece => .calculate .add before piece

/-- Whether a name is of two parts; such a name cannot be defined. -/
def isQualified (name : String) : Bool := ':' ∈ name.toList

/-- The parameters of a definition, up to their closing parenthesis. -/
def readParameters : List Token → Option (List String × List Token)
  | parameter :: .symbol ";" :: rest => do
      let name ← name? parameter
      let (more, rest) ← readParameters rest
      return (name :: more, rest)
  | parameter :: .closing ')' :: rest => (name? parameter).map fun name => ([name], rest)
  | _ => none
where
  /-- A parameter; a dollar sign belongs to its name. -/
  name? : Token → Option String
    | .word name => if isQualified name then none else some name
    | .reference name => some ("$" ++ name)
    | _ => none

mutual

/-- Reads a filter of operators that bind at least so closely. -/
def readFrom : (fuel : Nat) → (least : Nat) → (commas : Bool) → List Token →
    Option (Expr × List Token)
  | 0, _, _, _ => none
  | fuel + 1, least, commas, tokens => do
      let (first, tokens) ← readOperand fuel tokens
      readOperators fuel least commas first tokens

/-- Reads the operators behind an operand. -/
def readOperators : (fuel : Nat) → (least : Nat) → (commas : Bool) → (first : Expr) →
    List Token → Option (Expr × List Token)
  | 0, _, _, _, _ => none
  | fuel + 1, least, commas, first, tokens =>
      match tokens with
      | .word "as" :: rest =>
          if least = 0 then do
            let (pattern, rest) ← readPattern fuel rest
            let rest ← expect (.symbol "|") rest
            let (body, rest) ← readFrom fuel 0 commas rest
            return (.bind first pattern.outerName (pattern.inner body), rest)
          else some (first, tokens)
      | token :: rest =>
          match Operator.ofToken? token with
          | none => some (first, tokens)
          | some .both =>
              if commas ∧ least ≤ Operator.both.level then do
                let (second, rest) ← readFrom fuel Operator.both.rightLevel commas rest
                readOperators fuel least commas (.both first second) rest
              else some (first, tokens)
          | some operator =>
              if least ≤ operator.level then do
                let (second, rest) ← readFrom fuel operator.rightLevel commas rest
                readOperators fuel least commas (operator.join first second) rest
              else some (first, tokens)
      | [] => some (first, tokens)

/-- Reads an operand with the path behind it. -/
def readOperand : (fuel : Nat) → List Token → Option (Expr × List Token)
  | 0, _ => none
  | fuel + 1, tokens =>
      match tokens with
      | .symbol "-" :: rest => do
          let (operand, rest) ← readOperand fuel rest
          return (.negate operand, rest)
      | .symbol "." :: .quoteOpening :: _ => readPath fuel .identity tokens
      | .symbol "." :: rest => readPath fuel .identity rest
      | .symbol ".." :: rest => readPath fuel (.call everywhereName .none) rest
      | .field _ :: _ => readPath fuel .identity tokens
      | .numeral digits :: rest => readPath fuel (.numeral digits) rest
      | .reference name :: rest => readPath fuel (.reference name) rest
      | .quoteOpening :: rest => do
          let (text, rest) ← readText fuel none none rest
          readPath fuel text rest
      | .format name :: .quoteOpening :: rest => do
          let (text, rest) ← readText fuel (some name) none rest
          readPath fuel (.formatted name text) rest
      | .format name :: rest => readCall fuel name rest
      | .opening '(' :: rest => do
          let (filter, rest) ← readFrom fuel 0 true rest
          readPath fuel filter (← expect (.closing ')') rest)
      | .opening '[' :: .closing ']' :: rest => readPath fuel .emptyArray rest
      | .opening '[' :: rest => do
          let (items, rest) ← readFrom fuel 0 true rest
          readPath fuel (.collect items) (← expect (.closing ']') rest)
      | .opening '{' :: rest => do
          let (object, rest) ← readMembers fuel none rest
          readPath fuel object rest
      | .word name :: rest => readWord fuel name rest
      | _ => none

/-- Reads what starts with a word. -/
def readWord : (fuel : Nat) → (name : String) → List Token → Option (Expr × List Token)
  | 0, _, _ => none
  | fuel + 1, name, tokens =>
      match name with
      | "def" =>
          match tokens with
          | .word name :: rest | .format name :: rest =>
              if isQualified name then none else readDefinition fuel name rest
          | _ => none
      | "if" => do
          let (choice, rest) ← readChoice fuel tokens
          readPath fuel choice rest
      | "try" => do
          let (body, rest) ← readOperand fuel tokens
          match rest with
          | .word "catch" :: rest =>
              let (handler, rest) ← readOperand fuel rest
              return (.attempt body handler, rest)
          | _ => return (.attempt body .nothing, rest)
      | "label" =>
          match tokens with
          | .reference name :: .symbol "|" :: rest => do
              let (body, rest) ← readFrom fuel 0 true rest
              return (.label name body, rest)
          | _ => none
      | "break" =>
          match tokens with
          | .reference name :: rest => readPath fuel (.leave name) rest
          | _ => none
      | "reduce" => readFold fuel .reduce tokens
      | "foreach" => readFold fuel .foreach tokens
      | name => readCall fuel name tokens

/-- Reads a call behind its name. -/
def readCall : (fuel : Nat) → (name : String) → List Token → Option (Expr × List Token)
  | 0, _, _ => none
  | fuel + 1, name, tokens => do
      let (arguments, rest) ← readArguments fuel tokens
      readPath fuel (.call name (.ofList arguments)) rest

/-- Reads a fold behind its first word. -/
def readFold : (fuel : Nat) → Fold → List Token → Option (Expr × List Token)
  | 0, _, _ => none
  | fuel + 1, kind, tokens => do
      let (source, rest) ← readOperand fuel tokens
      let rest ← expect (.word "as") rest
      let (pattern, rest) ← readPattern fuel rest
      let (arguments, rest) ← readArguments fuel rest
      let arguments := arguments.take 1 ++ (arguments.drop 1).map pattern.inner
      readPath fuel (.fold kind source pattern.outerName (.ofList arguments)) rest

/-- Reads a definition behind its name, and the filter in which it holds. -/
def readDefinition : (fuel : Nat) → (name : String) → List Token → Option (Expr × List Token)
  | 0, _, _ => none
  | fuel + 1, name, tokens => do
      let (parameters, rest) ← match tokens with
        | .opening '(' :: rest => readParameters rest
        | rest => some ([], rest)
      let rest ← expect (.symbol ":") rest
      let (body, rest) ← readFrom fuel 0 true rest
      let rest ← expect (.symbol ";") rest
      let (filter, rest) ← readFrom fuel 0 true rest
      return (.define name parameters body filter, rest)

/-- Reads a choice behind its first word. -/
def readChoice : (fuel : Nat) → List Token → Option (Expr × List Token)
  | 0, _ => none
  | fuel + 1, tokens => do
      let (condition, rest) ← readFrom fuel 0 true tokens
      let rest ← expect (.word "then") rest
      let (yes, rest) ← readFrom fuel 0 true rest
      match rest with
      | .word "elif" :: rest =>
          let (no, rest) ← readChoice fuel rest
          return (.choose condition yes no, rest)
      | .word "else" :: rest =>
          let (no, rest) ← readFrom fuel 0 true rest
          return (.choose condition yes no, ← expect (.word "end") rest)
      | _ => return (.choose condition yes .identity, ← expect (.word "end") rest)

/-- Reads the arguments of a call, if there are any. -/
def readArguments : (fuel : Nat) → List Token → Option (List Expr × List Token)
  | 0, _ => none
  | fuel + 1, tokens =>
      match tokens with
      | .opening '(' :: rest => readMoreArguments fuel rest
      | rest => some ([], rest)

/-- Reads arguments up to their closing parenthesis. -/
def readMoreArguments : (fuel : Nat) → List Token → Option (List Expr × List Token)
  | 0, _ => none
  | fuel + 1, tokens => do
      let (argument, rest) ← readFrom fuel 0 true tokens
      match rest with
      | .closing ')' :: rest => return ([argument], rest)
      | .symbol ";" :: rest =>
          let (more, rest) ← readMoreArguments fuel rest
          return (argument :: more, rest)
      | _ => none

/-- Reads the pieces of a string behind those before it. -/
def readText : (fuel : Nat) → (format : Option String) → (before : Option Expr) → List Token →
    Option (Expr × List Token)
  | 0, _, _, _ => none
  | fuel + 1, format, before, tokens =>
      match tokens with
      | .quoted text :: rest => readText fuel format (some (joined before (.string text))) rest
      | .filterOpening :: rest => do
          let (filter, rest) ← readFrom fuel 0 true rest
          let rest ← expect .filterClosing rest
          readText fuel format (some (joined before (written format filter))) rest
      | .quoteClosing :: rest => some (before.getD (.string ""), rest)
      | _ => none

/-- Reads the members of an object up to its closing brace, which a comma may stand before. -/
def readMembers : (fuel : Nat) → (before : Option Expr) → List Token → Option (Expr × List Token)
  | 0, _, _ => none
  | fuel + 1, before, tokens =>
      match tokens with
      | .closing '}' :: rest => some (before.getD .emptyObject, rest)
      | tokens => do
          let (entry, rest) ← readMember fuel tokens
          let object := some (joined before entry)
          match rest with
          | .symbol "," :: rest => readMembers fuel object rest
          | .closing '}' :: _ => readMembers fuel object rest
          | _ => none

/-- Reads a member of an object; a key alone stands for what the input has under it. -/
def readMember : (fuel : Nat) → List Token → Option (Expr × List Token)
  | 0, _ => none
  | fuel + 1, tokens =>
      match tokens with
      | .reference name :: .symbol ":" :: rest => do
          let (value, rest) ← readFrom fuel 0 false rest
          return (.member (.reference name) value, rest)
      | .reference name :: rest => some (.member (.string name) (.reference name), rest)
      | .word name :: rest => readMemberValue fuel (.string name) (.part .identity name) rest
      | .quoteOpening :: rest => do
          let (key, rest) ← readText fuel none none rest
          readMemberValue fuel key (.path .identity (.part key false .none)) rest
      | .format name :: .quoteOpening :: rest => do
          let (text, rest) ← readText fuel (some name) none rest
          let key := Expr.formatted name text
          readMemberValue fuel key (.path .identity (.part key false .none)) rest
      | .opening '(' :: rest => do
          let (key, rest) ← readFrom fuel 0 true rest
          let rest ← expect (.closing ')') rest
          let rest ← expect (.symbol ":") rest
          let (value, rest) ← readFrom fuel 0 false rest
          return (.member key value, rest)
      | _ => none

/-- Reads the value behind a key, if one comes. -/
def readMemberValue : (fuel : Nat) → (key default : Expr) → List Token →
    Option (Expr × List Token)
  | 0, _, _, _ => none
  | fuel + 1, key, default, tokens =>
      match tokens with
      | .symbol ":" :: rest => do
          let (value, rest) ← readFrom fuel 0 false rest
          return (.member key value, rest)
      | _ => some (.member key default, tokens)

/-- Reads the question marks and the path behind an operand. -/
def readPath : (fuel : Nat) → (base : Expr) → List Token → Option (Expr × List Token)
  | 0, _, _ => none
  | fuel + 1, base, tokens =>
      match tokens with
      | .symbol "?" :: rest => readPath fuel (.attempt base .nothing) rest
      | _ => do
          match ← readSteps fuel tokens with
          | (.none, rest) => return (base, rest)
          | (steps, rest) => return (.path base steps, rest)

/-- Reads the steps of a path. -/
def readSteps : (fuel : Nat) → List Token → Option (Steps × List Token)
  | 0, _ => none
  | fuel + 1, tokens =>
      let finish (step : Bool → Steps → Steps) (rest : List Token) :
          Option (Steps × List Token) := do
        let (optional, rest) := skipMarks rest
        let (more, rest) ← readSteps fuel rest
        return (step optional more, rest)
      match tokens with
      | .field key :: rest => finish (.part (.string key)) rest
      | .symbol "." :: .quoteOpening :: rest => do
          let (key, rest) ← readText fuel none none rest
          finish (.part key) rest
      | .opening '[' :: .closing ']' :: rest => finish .each rest
      | .opening '[' :: .symbol ":" :: rest => do
          let (upper, rest) ← readFrom fuel 0 true rest
          finish (.upTo upper) (← expect (.closing ']') rest)
      | .opening '[' :: rest => do
          let (key, rest) ← readFrom fuel 0 true rest
          match rest with
          | .closing ']' :: rest => finish (.part key) rest
          | .symbol ":" :: .closing ']' :: rest => finish (.from key) rest
          | .symbol ":" :: rest =>
              let (upper, rest) ← readFrom fuel 0 true rest
              finish (.between key upper) (← expect (.closing ']') rest)
          | _ => none
      | _ => some (.none, tokens)

/-- Reads a pattern. -/
def readPattern : (fuel : Nat) → List Token → Option (Pattern × List Token)
  | 0, _ => none
  | fuel + 1, tokens =>
      match tokens with
      | .reference name :: rest => some (.name name, rest)
      | .opening '[' :: rest => readItemPatterns fuel 0 rest
      | .opening '{' :: rest => readMemberPatterns fuel rest
      | _ => none

/-- Reads the patterns of the items of a list. -/
def readItemPatterns : (fuel : Nat) → (index : Nat) → List Token → Option (Pattern × List Token)
  | 0, _, _ => none
  | fuel + 1, index, tokens => do
      let (pattern, rest) ← readPattern fuel tokens
      let here := pattern.under (.numeral (toString index))
      match rest with
      | .symbol "," :: rest =>
          let (more, rest) ← readItemPatterns fuel (index + 1) rest
          return (here ++ more, rest)
      | .closing ']' :: rest => return (here, rest)
      | _ => none

/-- Reads the patterns of the members of an object up to its closing brace, which a comma may stand
before. -/
def readMemberPatterns : (fuel : Nat) → List Token → Option (Pattern × List Token)
  | 0, _ => none
  | fuel + 1, tokens =>
      match tokens with
      | .closing '}' :: rest => some ([], rest)
      | tokens => do
          let (here, rest) ← readMemberPattern fuel tokens
          let (more, rest) ← match rest with
            | .symbol "," :: rest => readMemberPatterns fuel rest
            | .closing '}' :: _ => readMemberPatterns fuel rest
            | _ => none
          return (here ++ more, rest)

/-- Reads the pattern of a member of an object; a variable is bound to the value of its name. -/
def readMemberPattern : (fuel : Nat) → List Token → Option (Pattern × List Token)
  | 0, _ => none
  | fuel + 1, tokens =>
      let behindColon (key : Expr) (rest : List Token) : Option (Pattern × List Token) := do
        let rest ← expect (.symbol ":") rest
        let (pattern, rest) ← readPattern fuel rest
        return (pattern.under key, rest)
      match tokens with
      | .reference name :: .symbol ":" :: rest => do
          let (pattern, rest) ← readPattern fuel rest
          return (([.string name], name) :: pattern.under (.string name), rest)
      | .reference name :: rest => some ([([.string name], name)], rest)
      | .word name :: rest => behindColon (.string name) rest
      | .quoteOpening :: rest => do
          let (key, rest) ← readText fuel none none rest
          behindColon key rest
      | .opening '(' :: rest => do
          let (key, rest) ← readFrom fuel 0 true rest
          behindColon key (← expect (.closing ')') rest)
      | _ => none

end

/-- Fuel for reading tokens: between two of them at most eight readers call one another. -/
def enoughFuel (tokens : List Token) : Nat := 8 * tokens.length + 8

/-- What follows the description of a text at its start, if it has one. -/
def behindDescription : List Token → Option (List Token)
  | .word "module" :: rest => do
      let (_, rest) ← readFrom (enoughFuel rest) 0 true rest
      expect (.symbol ";") rest
  | tokens => some tokens

/-- The filter that tokens say; it cannot take in other texts. -/
def ofTokens (tokens : List Token) : Option Expr := do
  match ← behindDescription tokens with
  | .word "import" :: _ | .word "include" :: _ => none
  | tokens =>
      match ← readFrom (enoughFuel tokens) 0 true tokens with
      | (filter, []) => return filter
      | _ => none

/-- The filter that a text says. -/
def read (text : String) : Option Expr := do
  ofTokens (← Token.scan text)

end Expr

end ModelScribe.Filter
