import RestScaffold.Import.Line
import RestScaffold.Template.Render

/-!
# Generators

A generator writes the source of one file: it renders its snippets in order on one import table and
joins the lines of that table with the imports it has of itself. Rendering starts from an empty
table each time, so what a generator gives depends on the declaration alone.

The snippets say which symbols they introduce and which they use. `checkOrder` accepts a generator
when each use stands behind an introduction.
-/

namespace RestScaffold

/-- A template with a name, the symbols it introduces and those it uses. -/
structure Snippet where
  name : Text
  body : Text := []
  introduces : List Text := []
  uses : List Text := []
  deriving DecidableEq

/-- What a generator is known by: the path of its package and the stem of its file. -/
structure GeneratorId where
  package : Text
  stem : Text
  deriving DecidableEq

/-- How a generator is named in messages. -/
def GeneratorId.display (id : GeneratorId) : Text := id.package ++ "/" ++ id.stem

/-- When a generator fires. -/
inductive Trigger where
  /-- For the first declaration of a run, whichever it is. -/
  | once
  /-- For the declarations of this name. -/
  | forType (name : TypeName)
  deriving DecidableEq

/-- What it takes to write a file. -/
structure Generator where
  id : GeneratorId
  trigger : Trigger := .once
  imports : List Text := []
  snippets : List Snippet := []
  vars : Bindings := TextMap.empty
  /-- The key that the declaration at hand is bound to. -/
  contextKey : Option Text := none
  /-- The symbols that come from elsewhere. -/
  externs : List Text := []
  plurals : TextMap Text := TextMap.empty
  deriving DecidableEq

/-- The source of a file below its package clause: import lines and text. -/
structure Source where
  body : Text := []
  imports : List Text := []
  deriving DecidableEq

namespace Generator

/-- Where the generator writes names. -/
def scope (g : Generator) : NameScope := ⟨g.id.package, g.plurals⟩

/-- The bindings that the snippets see for a declaration. -/
def bindings (g : Generator) (d : Declaration) : Bindings :=
  match g.contextKey with
  | none => g.vars
  | some key => g.vars.insert key (.type d)

/-- The snippets, rendered one after the other. The marks are those around their actions. -/
def renderingWith (g : Generator) (marks : Delimiters) (d : Declaration) : Rendering :=
  .concat (g.snippets.map fun s => renderText marks g.scope (g.bindings d) s.body)

/-- The source that the generator writes for a declaration, its templates having these marks. -/
def generateWith (g : Generator) (marks : Delimiters) (d : Declaration) :
    Except TemplateError Source :=
  match g.renderingWith marks d {} with
  | (.error e, _) => .error e
  | (.ok body, t) => .ok ⟨body, ImportLine.merge (g.imports ++ t.lines)⟩

/-- The source that the generator writes for a declaration, its templates having the marks of every
template that comes with the program. -/
def generate (g : Generator) (d : Declaration) : Except TemplateError Source :=
  g.generateWith .dollar d

/-- Looks for the first use of a symbol that is neither known nor introduced up to there. -/
def checkOrderFrom (known : List Text) : List Snippet → Except TemplateError Unit
  | [] => .ok ()
  | s :: snippets =>
    let known := s.introduces ++ known
    match s.uses.find? fun symbol => !known.contains symbol with
    | some symbol => .error (.usedTooEarly s.name symbol)
    | none => checkOrderFrom known snippets

/-- Whether every symbol that a snippet uses is introduced by it, by an earlier snippet or from
elsewhere. -/
def checkOrder (g : Generator) : Except TemplateError Unit := checkOrderFrom g.externs g.snippets

end Generator

end RestScaffold
