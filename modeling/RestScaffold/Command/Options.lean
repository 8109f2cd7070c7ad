import RestScaffold.Command.Error
import RestScaffold.Plan.Source

/-!
# Options

What a user asks for, and the plan configuration that it amounts to. Lists inside of an option are
read here: verbs with commas between them, and irregular plurals as pairs.
-/

namespace RestScaffold

open Text

/-- What is generated, from what and where to. -/
structure Options where
  outputPackage : Text
  input : List Text
  headerFile : Option Text := none
  outputBase : Text := "."
  requiredVerbs : Text := "list,get"
  objectMeta : Text := "ObjectMeta"
  pluralExceptions : List Text := []
  dryRun : Bool := false
  deriving DecidableEq

namespace Options

/-- Adds the verbs of a list of names to a list, each once. -/
def addVerbs (verbs : List Verb) : List Text → Except CommandError (List Verb)
  | [] => .ok verbs
  | name :: names =>
    match Verb.ofText? name with
    | none => .error (.unknownVerb name)
    | some v => addVerbs (if v ∈ verbs then verbs else verbs ++ [v]) names

/-- The verbs of a list with commas, in order of their first appearance; blank parts are passed
over. -/
def readVerbs (list : Text) : Except CommandError (List Verb) :=
  addVerbs [] ((splitOn ',' list).filter fun part => !isBlankText part)

/-- Reads a pair of a singular and its plural, neither of them blank. -/
def readPlural (entry : Text) : Except CommandError (Text × Text) :=
  match splitFirst '=' entry with
  | none => .error (.pluralException entry)
  | some (singular, plural) =>
    if isBlankText singular || isBlankText plural then .error (.pluralException entry)
    else .ok (trim singular, trim plural)

/-- The irregular plurals of a list of pairs; of two for one singular the last holds. -/
def readPlurals (entries : List Text) : Except CommandError (TextMap Text) :=
  (entries.mapM readPlural).map TextMap.ofList

/-- Checks what can be checked without files, and reads the required verbs. -/
def validate (o : Options) : Except CommandError (List Verb) :=
  if isBlankText o.outputPackage then .error .blankOutputPackage
  else if o.input = [] then .error .noInput
  else readVerbs o.requiredVerbs

/-- The configuration of the plan, with this header for the files. -/
def planConfig (o : Options) (header : List UInt8) : Except CommandError PlanConfig :=
  match o.validate with
  | .error e => .error e
  | .ok requiredVerbs =>
    (readPlurals o.pluralExceptions).map fun plurals =>
      { outputPackage := trim o.outputPackage, header, plurals, selection := { requiredVerbs }
        objectMetaMember := if isBlankText o.objectMeta then none else some (trim o.objectMeta) }

end Options

end RestScaffold
