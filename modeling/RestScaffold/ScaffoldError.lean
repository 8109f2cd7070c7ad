import RestScaffold.Directive
import RestScaffold.File.Error
import RestScaffold.Generator.Basic

/-!
# Scaffold errors

Everything that can go wrong between the manifests and the written files, by cause. `message` has
the wording.
-/

namespace RestScaffold

/-- What is wrong with a manifest. -/
inductive ManifestFlaw where
  | unsupportedExtension
  | unreadable (cause : FileError)
  /-- The text is not a document of its format, or the document does not describe packages. -/
  | undecodable
  | blankPackagePath
  | blankTypeName (package : Text)
  deriving DecidableEq

/-- Why a file could not be written. -/
inductive WriteFailure where
  | backup (path : Text) (cause : FileError)
  | directory (path : Text) (cause : FileError)
  | file (path : Text) (cause : FileError)
  deriving DecidableEq

/-- Why there is no scaffold. -/
inductive ScaffoldError where
  | blankOutputPackage
  | manifest (path : Text) (flaw : ManifestFlaw)
  | directive (type : TypeName) (cause : DirectiveError)
  /-- Types of the package are generated, but none of them has the member. -/
  | missingObjectMeta (package member : Text)
  | template (generator : GeneratorId) (cause : TemplateError)
  | outputCollision (path stem : Text)
  | emittedTwice (generator : GeneratorId)
  | writeFailed (failure : WriteFailure)
  deriving DecidableEq

/-- The wording of a manifest's flaw. -/
def ManifestFlaw.message : ManifestFlaw → Text
  | unsupportedExtension => "unsupported manifest extension (expected .yaml, .yml or .json)"
  | unreadable cause => cause.message
  | undecodable => "<decoder>"
  | blankPackagePath => "package path cannot be empty"
  | blankTypeName package => "type with empty name in package " ++ package

/-- The wording of a failed write. -/
def WriteFailure.message : WriteFailure → Text
  | backup path cause => "Failed to back up " ++ path ++ ": " ++ cause.message
  | directory path cause => "Failed to create directory " ++ path ++ ": " ++ cause.message
  | file path cause => "Failed to write file " ++ path ++ ": " ++ cause.message

namespace ScaffoldError

/-- The wording of a failed write with this reason. -/
def writeMessage (reason : Text) : Text := "Write failed: " ++ reason

/-- The wording of an error. -/
def message : ScaffoldError → Text
  | blankOutputPackage => "Configuration error: output package cannot be empty"
  | manifest path flaw => "Manifest error in " ++ path ++ ": " ++ flaw.message
  | directive type cause =>
    "Annotation error on type " ++ type.qualified ++ ": " ++ cause.message
  | missingObjectMeta package member =>
    "Unable to find " ++ member ++ " for any types in package " ++ package
  | template generator cause =>
    "Template error in generator " ++ generator.display ++ ": " ++ cause.message
  | outputCollision path stem =>
    "Output collision: " ++ path ++ "/" ++ stem ++ " is produced more than once"
  | emittedTwice generator =>
    "Generator " ++ generator.display ++ " emitted more than once in a single run"
  | writeFailed failure => writeMessage failure.message

end ScaffoldError

end RestScaffold
