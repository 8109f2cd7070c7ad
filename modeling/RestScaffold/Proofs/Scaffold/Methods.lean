import RestScaffold.Proofs.Scaffold.Imports
import RestScaffold.Proofs.Template.Symbols

/-!
# The methods of the service

Each type has four methods in the service. Their signatures are written twice, by the template of
the interface, which goes through all types, and by the templates of the methods of one type; and
the handlers of a controller call them by name. This module reads the signature and the call of each
method off these templates.

* `ServiceMethod.signature`: the signature of a method for a type;
* `Scaffold.body_serviceInterfaceOf`: the interface has the signatures of all types and no others;
* `Scaffold.signature_infix_body` and `Scaffold.call_infix_body`: the files of a type have the
  methods with these signatures, and call them.
-/

namespace RestScaffold

open Text

/-! ## Signatures -/

/-- A method that the service has for each type. -/
inductive ServiceMethod where
  | create
  | get
  | update
  | delete
  deriving DecidableEq

namespace ServiceMethod

/-- The methods in the order of the interface. -/
def all : List ServiceMethod := [create, get, update, delete]

/-- The verb that a method's name begins with. -/
def verb : ServiceMethod → Text
  | create => "Create"
  | get => "Get"
  | update => "Update"
  | delete => "Delete"

section Forms

variable {α : Type} (text : Text → List α) (pub priv raw : List α)

/-- A signature made of the forms of a type's name and of fixed texts. -/
def signatureOf (m : ServiceMethod) : List α :=
  text m.verb ++ pub ++ match m with
    | create | update =>
      text "(ctx context.Context, " ++ priv ++ text "Obj *" ++ raw ++ text ") error"
    | get => text "(ctx context.Context, name string) (*" ++ raw ++ text ", error)"
    | delete => text "(ctx context.Context, name string) error"

/-- The line of the interface that declares a method. -/
def lineOf (m : ServiceMethod) : List α :=
  text ['\t'] ++ m.signatureOf text pub priv raw ++ text ['\n']

/-- How the definition of a method begins. -/
def definitionOf (m : ServiceMethod) : List α :=
  text "func (s *service) " ++ m.signatureOf text pub priv raw ++ text " \x7b"

/-- How a controller calls a method. -/
def callOf (m : ServiceMethod) : List α :=
  text "c.opt.Service." ++ text m.verb ++ pub ++ text "("

end Forms

/-- The signature of a method for a type that is called `raw`. -/
def signature (m : ServiceMethod) (n : TypeName) (raw : Text) : Text :=
  m.signatureOf id (capitalize n.base) (decapitalize n.base) raw

section Write

variable (scope : NameScope) (n : TypeName) (raw : Text) (m : ServiceMethod)

theorem write_signatureOf :
    Symbol.writeAll scope n raw
        (m.signatureOf Symbol.ofText [.form .pub] [.form .priv] [.form .raw]) =
      m.signature n raw := by
  cases m <;> simp only [signature, signatureOf, Symbol.writeAll_append, Symbol.writeAll_ofText,
    Symbol.writeAll_form, NameScope.formText, id]

theorem write_lineOf :
    Symbol.writeAll scope n raw (m.lineOf Symbol.ofText [.form .pub] [.form .priv] [.form .raw]) =
      '\t' :: m.signature n raw ++ ['\n'] := by
  simp only [lineOf, Symbol.writeAll_append, Symbol.writeAll_ofText, write_signatureOf,
    List.singleton_append]

theorem write_definitionOf :
    Symbol.writeAll scope n raw
        (m.definitionOf Symbol.ofText [.form .pub] [.form .priv] [.form .raw]) =
      "func (s *service) " ++ m.signature n raw ++ " \x7b" := by
  simp only [definitionOf, Symbol.writeAll_append, Symbol.writeAll_ofText, write_signatureOf]

theorem write_callOf :
    Symbol.writeAll scope n raw (m.callOf Symbol.ofText [.form .pub]) =
      "c.opt.Service." ++ m.verb ++ capitalize n.base ++ "(" := by
  simp only [callOf, Symbol.writeAll_append, Symbol.writeAll_ofText, Symbol.writeAll_form,
    NameScope.formText]

end Write

/-- The template of a method. -/
def template : ServiceMethod → Text
  | create => Scaffold.createMethod
  | get => Scaffold.getMethod
  | update => Scaffold.updateMethod
  | delete => Scaffold.deleteMethod

/-- The template of the handler that calls a method. -/
def handler : ServiceMethod → Text
  | create => Scaffold.createHandler
  | get => Scaffold.getHandler
  | update => Scaffold.updateHandler
  | delete => Scaffold.deleteHandler

/-! ## Reading the templates -/

theorem template_hasRun (m : ServiceMethod) : readsAs (·.hasRun (.named "type")
    (m.definitionOf Symbol.ofText [.form .pub] [.form .priv] [.form .raw])) m.template = true := by
  unfold template Scaffold.createMethod Scaffold.getMethod Scaffold.updateMethod
    Scaffold.deleteMethod definitionOf signatureOf verb
  repeat rw [String.toList_ofList]
  cases m <;> decide +kernel

theorem handler_hasRun (m : ServiceMethod) : readsAs (·.hasRun (.named "type")
    (m.callOf Symbol.ofText [.form .pub])) m.handler = true := by
  unfold handler Scaffold.createHandler Scaffold.getHandler Scaffold.updateHandler
    Scaffold.deleteHandler callOf verb
  repeat rw [String.toList_ofList]
  cases m <;> decide +kernel

end ServiceMethod

namespace Scaffold

/-- The file of the interface up to the interface. -/
def interfaceFront : Text :=
  serviceOptions ++ Text.ofLines ["", "// Interface lists every service method."]

/-- How the interface begins. -/
def interfaceOpening : Text := "type Interface interface \x7b\n"

/-- How the interface ends. -/
def interfaceClosing : Text := "\x7d\n"

/-- The lines of a type in the interface when it is called `raw` there. -/
def interfaceLines (n : TypeName) (raw : Text) : Text :=
  ServiceMethod.all.flatMap fun m => '\t' :: m.signature n raw ++ ['\n']

/-- The text of the file of the interface when types are called as `rawOf` says. -/
def interfaceBody (types : List Declaration) (rawOf : Declaration → Text) : Text :=
  interfaceFront ++ interfaceOpening ++ (types.flatMap fun d => interfaceLines d.name (rawOf d)) ++
    interfaceClosing ++ (serviceStruct ++ newService)

theorem ofText_interfaceTexts : ∀ s ∈ [serviceOptions, serviceStruct, newService],
    Block.ofText .dollar s = .ok (.text s .done) := by
  unfold serviceOptions serviceStruct newService
  repeat rw [String.toList_ofList]
  decide +kernel

theorem serviceInterface_lists : readsAs (fun block => block.listing? (.named "types") = some
    (Text.ofLines ["", "// Interface lists every service method."] ++ interfaceOpening,
      ServiceMethod.all.flatMap
        (·.lineOf Symbol.ofText [.form .pub] [.form .priv] [.form .raw]),
      interfaceClosing)) serviceInterface = true := by
  unfold serviceInterface interfaceOpening interfaceClosing ServiceMethod.lineOf
    ServiceMethod.signatureOf ServiceMethod.verb
  repeat rw [String.toList_ofList]
  decide +kernel

end Scaffold

/-! ## What the generators write -/

namespace Generator

variable {g : Generator} {d : Declaration} {source : Source} {body : Text}

/-- What the file of a generator calls a type when it writes its name in raw form. -/
def rawText (g : Generator) (d : Declaration) (n : TypeName) : Text :=
  (g.scope.fixedName? (g.table .dollar d).names n .raw).getD []

/-- The file of a generator has a raw form of a name. -/
def CanCall (g : Generator) (d : Declaration) (n : TypeName) : Prop :=
  g.scope.fixedName? (g.table .dollar d).names n .raw = some (g.rawText d n)

/-- The text of a template in the file of a generator. -/
def templateText? (g : Generator) (d : Declaration) (body : Text) : Option Text :=
  (Block.ofText .dollar body).toOption.bind fun block =>
    block.fixed? g.scope (g.table .dollar d).names (g.bindings d) none

/-- The text of a source is made of the texts of the snippets. -/
theorem concat?_templateTexts (h : g.generate d = .ok source) :
    concat? (g.snippets.map fun s => g.templateText? d s.body) = some source.body :=
  fixedBody?_of_generateWith h

theorem templateText?_of_plain (h : Block.ofText .dollar body = .ok (.text body .done)) :
    g.templateText? d body = some body := by
  rw [templateText?, h]
  exact congrArg some (List.append_nil body)

/-- A generator whose templates have these texts writes them one after the other. -/
theorem body_of_texts (h : g.generate d = .ok source) {bodies texts : List Text}
    (hBodies : g.snippets.map (·.body) = bodies)
    (hTexts : bodies.map (g.templateText? d) = texts.map some) : source.body = texts.flatten := by
  have hBody : concat? ((g.snippets.map (·.body)).map (g.templateText? d)) = some source.body :=
    (congrArg concat? List.map_map).trans (concat?_templateTexts h)
  rw [hBodies, hTexts, concat?_map_some] at hBody
  exact (Option.some.inj hBody).symm

/-- A template that lists the planned types writes its symbols for each of them. -/
theorem templateText?_of_listing {types : List Declaration} {front back : Text}
    {symbols : List Symbol} (hVars : (g.bindings d).get? ("types" : Text) = some (.types types))
    (hLists : readsAs (fun block =>
      block.listing? (.named "types") = some (front, symbols, back)) body = true)
    (hCall : ∀ e ∈ types, g.CanCall d e.name) :
    g.templateText? d body = some (front ++ (types.flatMap fun e =>
      Symbol.writeAll g.scope e.name (g.rawText d e.name) symbols) ++ back) := by
  obtain ⟨block, hBlock, hListing⟩ := exists_of_readsAs hLists
  have hKey : KeyRef.lookup (g.bindings d) none (.named "types") = .ok (.types types) := by
    rw [KeyRef.lookup, hVars]
  rw [templateText?, hBlock]
  exact Block.fixed?_of_listing (of_decide_eq_true hListing) hKey hCall

/-- A run of symbols in a template about the type at hand is written for this type. -/
theorem write_infix_body (h : g.generate d = .ok source)
    (hContext : g.contextKey = some ("type" : Text)) {run : List Symbol}
    (hTemplate : ∃ s ∈ g.snippets, s.body = body)
    (hRun : readsAs (·.hasRun (.named "type") run) body = true) (hCall : g.CanCall d d.name) :
    Symbol.writeAll g.scope d.name (g.rawText d d.name) run <:+: source.body := by
  obtain ⟨s, hs, rfl⟩ := hTemplate
  obtain ⟨text, hText, hInfix⟩ := exists_of_mem_concat? (concat?_templateTexts h)
    (List.mem_map_of_mem (f := fun s => g.templateText? d s.body) hs)
  obtain ⟨block, hBlock, hHas⟩ := exists_of_readsAs hRun
  have hKey : KeyRef.lookup (g.bindings d) none (.named "type") = .ok (.type d) := by
    rw [bindings, hContext, KeyRef.lookup, TextMap.get?_insert, if_pos rfl]
  rw [templateText?, hBlock] at hText
  exact (Block.infix_of_hasRun hHas hKey hCall hText).trans hInfix

end Generator

namespace Scaffold

variable (s : Scaffold) {types : List Declaration} {g : Generator} {d : Declaration}
  {source : Source}

/-- **The interface has the signatures of the four methods of each type, in order.** -/
theorem body_serviceInterfaceOf (hg : g ∈ (s.serviceInterfaceOf types).generators)
    (h : g.generate d = .ok source) (hCall : ∀ e ∈ types, g.CanCall d e.name) :
    source.body = interfaceBody types fun e => g.rawText d e.name := by
  have hBodies : g.snippets.map (·.body) =
      [serviceOptions, serviceInterface, serviceStruct, newService] := by
    obtain rfl := List.mem_singleton.1 hg
    rfl
  have hVars : (g.bindings d).get? ("types" : Text) = some (.types types) := by
    obtain rfl := List.mem_singleton.1 hg
    exact (TextMap.get?_insert _ _ _ _).trans (if_pos rfl)
  have hPlain : ∀ body ∈ [serviceOptions, serviceStruct, newService],
      g.templateText? d body = some body :=
    fun body hBody => Generator.templateText?_of_plain (ofText_interfaceTexts body hBody)
  have hLists := Generator.templateText?_of_listing hVars serviceInterface_lists hCall
  have hLines : ∀ e : Declaration, Symbol.writeAll g.scope e.name (g.rawText d e.name)
      (ServiceMethod.all.flatMap (·.lineOf Symbol.ofText [.form .pub] [.form .priv] [.form .raw])) =
        interfaceLines e.name (g.rawText d e.name) := by
    intro e
    rw [Symbol.writeAll, List.flatMap_assoc]
    exact List.flatMap_congr fun m _ => m.write_lineOf _ _ _
  simp only [hLines] at hLists
  have hTexts : [serviceOptions, serviceInterface, serviceStruct, newService].map
      (g.templateText? d) = [serviceOptions,
        Text.ofLines ["", "// Interface lists every service method."] ++ interfaceOpening ++
          (types.flatMap fun e => interfaceLines e.name (g.rawText d e.name)) ++ interfaceClosing,
        serviceStruct, newService].map some := by
    simp only [List.map_cons, List.map_nil, hLists, hPlain, List.mem_cons, true_or, or_true]
  rw [Generator.body_of_texts h hBodies hTexts]
  simp only [interfaceBody, interfaceFront, List.flatten_cons, List.flatten_nil, List.append_assoc,
    List.append_nil]

/-- **The methods of a type have the signatures of the interface.** -/
theorem signature_infix_body (hg : g ∈ (s.typeService d).generators) {e : Declaration}
    (h : g.generate e = .ok source) (hCall : g.CanCall e e.name) (m : ServiceMethod) :
    ("func (s *service) " ++ m.signature e.name (g.rawText e e.name) ++ " \x7b" : Text) <:+:
      source.body := by
  obtain rfl := List.mem_singleton.1 hg
  rw [← ServiceMethod.write_definitionOf]
  exact Generator.write_infix_body h rfl (by cases m <;> simp [ServiceMethod.template])
    m.template_hasRun hCall

/-- **The handlers of a type call its methods.** -/
theorem call_infix_body (hg : g ∈ (s.typeController d).generators) {e : Declaration}
    (h : g.generate e = .ok source) (hCall : g.CanCall e e.name) (m : ServiceMethod) :
    ("c.opt.Service." ++ m.verb ++ capitalize e.name.base ++ "(" : Text) <:+: source.body := by
  obtain rfl := List.mem_singleton.1 hg
  rw [← ServiceMethod.write_callOf]
  exact Generator.write_infix_body h rfl (by cases m <;> simp [ServiceMethod.handler])
    m.handler_hasRun hCall

end Scaffold

end RestScaffold
