import RestScaffold.File.Path
import RestScaffold.Text.Sorted

/-!
# Rendered files

A rendered file has everything that is written: the header, the documentation, the package clause,
the import block and the body. `assemble` lays the parts out, and `relativePath` says where the file
stands below the output directory.
-/

namespace RestScaffold

open Text

/-- The parts of a generated file. -/
structure RenderedFile where
  packageName : Text := []
  packagePath : Text := []
  stem : Text
  header : List UInt8 := []
  documentation : Option Text := none
  imports : List Text := []
  body : Text := []
  deriving DecidableEq

namespace RenderedFile

/-- The text with a line break at its end, if it has none there. -/
def endLine (s : Text) : Text := if s.getLast? = some '\n' then s else s ++ ['\n']

/-- The header and an empty line, if there is a header. -/
def headerBytes (header : List UInt8) : List UInt8 :=
  if header = [] then []
  else header ++ (if header.getLast? = some 10 then [10] else [10, 10])

/-- The block of import lines, if there are any. -/
def importBlock (imports : List Text) : Text :=
  if imports = [] then []
  else "\nimport (\n" ++ (imports.flatMap fun line => '\t' :: line ++ ['\n']) ++ ")\n"

/-- The text below the header. -/
def text (f : RenderedFile) : Text :=
  f.documentation.elim [] endLine ++ "package " ++ f.packageName ++ "\n" ++
    importBlock f.imports ++ f.body

/-- The bytes of the file. -/
def assemble (f : RenderedFile) : List UInt8 := headerBytes f.header ++ utf8 f.text

/-- The name of the file. -/
def fileName (f : RenderedFile) : Text := f.stem ++ ".go"

/-- The directory of a package below the output package. -/
def directory (outputPackage packagePath : Text) : Text :=
  joinWith "/" (segments ((dropLead? outputPackage packagePath).getD packagePath))

/-- Where the file stands below the output directory. -/
def relativePath (f : RenderedFile) (outputPackage : Text) : Text :=
  FilePath.join (directory outputPackage f.packagePath) f.fileName

end RenderedFile

end RestScaffold
