import ModelScribe.Decode.Problem
import ModelScribe.Files.Problem
import ModelScribe.Filter.Library
import ModelScribe.Json.Basic

/-! # Failures

* `Failure`: why no module is made.
* `RunFailure`: why a run ends without its result.

Each has a message, and a chain that names its cause once more where the cause is an error of its
own.
-/

namespace ModelScribe

/-- Why no module is made. -/
inductive Failure
  | unreadable (path : String) (problem : FileProblem)
  | notJson (error : JsonError)
  /-- The document is no object; the words say what it is. -/
  | rootNotObject (kind : String)
  | badSettings (path detail : String)
  | pointsNowhere (pointer : String)
  | filtered (problem : FilterProblem)
  deriving DecidableEq

namespace Failure

/-- The words for what went wrong with a filter. -/
def filterMessage (detail : String) : String := "jq filter failed: " ++ detail

/-- The words for a failure. -/
def message : Failure → String
  | unreadable path problem => "failed to read " ++ path ++ ": " ++ problem.message
  | notJson error => "invalid JSON input: " ++ error.message
  | rootNotObject kind => "JSON root must be an object, found " ++ kind
  | badSettings path detail => "invalid config (" ++ path ++ "): " ++ detail
  | pointsNowhere pointer => "JSON pointer " ++ Text.quoted pointer ++ " did not select anything"
  | filtered problem => filterMessage problem.message

/-- The words for a failure and its cause. -/
def chain (failure : Failure) : String :=
  match failure with
  | unreadable _ problem => failure.message ++ ": " ++ problem.message
  | notJson error => failure.message ++ ": " ++ error.message
  | _ => failure.message

/-- A filter's problem as a failure. -/
def ofFilter : FilterProblem → Failure
  | .unreadable error => notJson error
  | problem => filtered problem

end Failure

/-- Why a run ends without its result. -/
inductive RunFailure
  | refused (failure : Failure)
  | notCreated (directory : String) (problem : FileProblem)
  | notWritten (path : String) (problem : FileProblem)
  deriving DecidableEq

namespace RunFailure

/-- The words for a failure. -/
def message : RunFailure → String
  | refused failure => failure.message
  | notCreated directory _ => "failed to create " ++ directory
  | notWritten path _ => "failed to write " ++ path

/-- The words for a failure and its cause. -/
def chain (failure : RunFailure) : String :=
  match failure with
  | refused inner => inner.chain
  | notCreated _ problem | notWritten _ problem => failure.message ++ ": " ++ problem.message

end RunFailure

end ModelScribe
