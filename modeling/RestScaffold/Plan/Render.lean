import RestScaffold.Generator.Ledger
import RestScaffold.Plan.Basic
import RestScaffold.RenderedFile

/-!
# Rendering plans

Every generator of a plan is offered every planned type in order, and its file gets what it writes
each time it fires. The ledger of the run passes through all of them.
-/

namespace RestScaffold

namespace Package

/-- The file that has the package's documentation. -/
def docFile (p : Package) (documentation : Text) : RenderedFile :=
  { packageName := p.name, packagePath := p.path, stem := docStem, header := p.header
    documentation := some documentation }

/-- The file of one of the package's generators. -/
def generatedFile (p : Package) (g : Generator) (s : Source) : RenderedFile :=
  { packageName := p.name, packagePath := p.path, stem := g.id.stem, header := p.header
    imports := ImportLine.merge s.imports, body := s.body }

end Package

/-- What a generator writes for the types of a list, behind what it has written, and the ledger
afterwards. -/
def Generator.run (g : Generator) :
    List Declaration → Ledger → Source → Except ScaffoldError (Source × Ledger)
  | [], l, written => .ok (written, l)
  | d :: ds, l, written =>
    match l.offer g d with
    | (false, l) => g.run ds l written
    | (true, l) =>
      match g.generate d with
      | .error e => .error (.template g.id e)
      | .ok s =>
        match l.recordEmission g.id with
        | .error e => .error e
        | .ok l => g.run ds l ⟨written.body ++ s.body, written.imports ++ s.imports⟩

namespace Package

/-- The files of the package's generators, and the ledger afterwards. -/
def renderGenerators (p : Package) (types : List Declaration) :
    List Generator → Ledger → Except ScaffoldError (List RenderedFile × Ledger)
  | [], l => .ok ([], l)
  | g :: gs, l =>
    match g.run types l {} with
    | .error e => .error e
    | .ok (s, l) =>
      match p.renderGenerators types gs l with
      | .error e => .error e
      | .ok (files, l) => .ok (p.generatedFile g s :: files, l)

/-- The files of the package, and the ledger afterwards. -/
def render (p : Package) (types : List Declaration) (l : Ledger) :
    Except ScaffoldError (List RenderedFile × Ledger) :=
  match p.renderGenerators types p.generators l with
  | .error e => .error e
  | .ok (files, l) => .ok ((p.documentation.map p.docFile).toList ++ files, l)

end Package

namespace Plan

/-- The files of a list of packages, from a ledger on. -/
def renderPackages (types : List Declaration) :
    List Package → Ledger → Except ScaffoldError (List RenderedFile)
  | [], _ => .ok []
  | p :: ps, l =>
    match p.render types l with
    | .error e => .error e
    | .ok (files, l) => (renderPackages types ps l).map (files ++ ·)

/-- The files of a plan in order. -/
def render (p : Plan) : Except ScaffoldError (List RenderedFile) :=
  renderPackages p.types p.packages {}

end Plan

end RestScaffold
