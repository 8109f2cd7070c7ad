import RestScaffold.Proofs.Generator.Firing
import RestScaffold.Proofs.Scaffold.Packages

/-!
# Where the files of a type show its source

The group and the version of a source package reach one file only, the controller of a type, and
there only the routes. So the service methods are the same under all bindings, and a controller is
the same under all bindings of the same group and version.

Conversely, equal controllers have routes of equal length. The group stands in them once and the
version twice, which is what `Scaffold.length_eq_of_files_typeController_eq` compares.
-/

namespace RestScaffold

/-! ## Generators that differ in their bindings -/

/-- A rendering that comes behind others, which are the same on both sides. -/
theorem Rendering.apart_concat_append {rs : List Rendering} {m n : Nat} {a b : Rendering}
    (hFront : ∀ r ∈ rs, r.Succeeds) (h : Apart m n a b) :
    Apart m n (concat (rs ++ [a])) (concat (rs ++ [b])) := by
  induction rs with
  | nil => exact apart_append h (apart_self (succeeds_text []))
  | cons r rs ih =>
    have hRest := ih fun r' hr' => hFront r' (List.mem_cons_of_mem r hr')
    have hAll := apart_append (apart_self (hFront r List.mem_cons_self)) hRest
    rwa [Nat.zero_add, Nat.zero_add] at hAll

namespace Generator

variable {g : Generator}

/-- A generator writes the same in a run when it does so for every type. -/
theorem written_vars_congr {vars : Bindings}
    (hGenerate : ∀ d, ({ g with vars } : Generator).generate d = g.generate d)
    (types : List Declaration) : ({ g with vars } : Generator).written types = g.written types := by
  have hSubject : ({ g with vars } : Generator).subject? types = g.subject? types := rfl
  simp only [written, hSubject, hGenerate]

/-- When bindings make a difference for the last snippet only, the sources differ in length by the
scalars in it. -/
theorem length_body_add {vars : Bindings} {kinds : Kinds} {front : List Snippet} {last : Snippet}
    {keys : List Text} {d : Declaration} {s s' : Source} (hSnippets : g.snippets = front ++ [last])
    (hFront : ∀ x ∈ front,
      (renderText .dollar g.scope (g.bindings d) x.body).Succeeds ∧
        renderText .dollar g.scope (({ g with vars } : Generator).bindings d) x.body =
          renderText .dollar g.scope (g.bindings d) x.body)
    (hLast : kinds.accepts last.body = true) (hKeys : plainKeysOfText? last.body = some keys)
    (hAgree : (g.bindings d).AgreeButScalars kinds (({ g with vars } : Generator).bindings d))
    (hs : g.generate d = .ok s) (hs' : ({ g with vars } : Generator).generate d = .ok s') :
    s.body.length + (({ g with vars } : Generator).bindings d).scalarLengths keys =
      s'.body.length + (g.bindings d).scalarLengths keys := by
  have hRendering : g.renderingWith .dollar d = .concat ((front.map fun x =>
      renderText .dollar g.scope (g.bindings d) x.body) ++
        [renderText .dollar g.scope (g.bindings d) last.body]) := by
    rw [renderingWith, hSnippets, List.map_append]
    rfl
  have hRendering' : ({ g with vars } : Generator).renderingWith .dollar d = .concat ((front.map fun x =>
      renderText .dollar g.scope (g.bindings d) x.body) ++
        [renderText .dollar g.scope (({ g with vars } : Generator).bindings d) last.body]) := by
    rw [renderingWith, hSnippets, List.map_append]
    congr 2
    exact List.map_congr_left fun x hx => (hFront x hx).2
  have hSucceeds : ∀ r ∈ front.map fun x => renderText .dollar g.scope (g.bindings d) x.body,
      r.Succeeds := by
    intro r hr
    obtain ⟨x, hx, rfl⟩ := List.mem_map.1 hr
    exact (hFront x hx).1
  have hApart := Rendering.apart_concat_append hSucceeds
    (renderText_apart g.scope hLast hKeys hAgree)
  rw [← hRendering, ← hRendering'] at hApart
  obtain ⟨body, body', t, hBody, hBody', hLength⟩ := hApart {}
  rw [generate, generateWith, hBody] at hs
  rw [generate, generateWith, hBody'] at hs'
  obtain rfl := Except.ok.inj hs
  obtain rfl := Except.ok.inj hs'
  exact hLength

end Generator

/-- The files of a package with one generator depend on what that generator writes. -/
theorem Package.files_vars_congr {p : Package} {g : Generator} {vars : Bindings}
    (hp : p.generators = [g])
    (hGenerate : ∀ d, ({ g with vars } : Generator).generate d = g.generate d)
    (types : List Declaration) :
    ({ p with generators := [{ g with vars }] } : Package).files types = p.files types := by
  rw [files, files, hp, List.map_singleton, List.map_singleton,
    Generator.written_vars_congr hGenerate]
  rfl

/-! ## What the files of a type see -/

namespace Scaffold

variable {g : Generator} {vars : Bindings}

theorem get?_bindings (hContext : g.contextKey = some ("type" : Text)) (d : Declaration)
    (key : Text) :
    (g.bindings d).get? key = if key = "type" then some (.type d) else g.vars.get? key := by
  rw [Generator.bindings, hContext]
  exact TextMap.get?_insert _ _ _ _

theorem agreeOn_typeKinds (hContext : g.contextKey = some ("type" : Text)) (d : Declaration) :
    (({ g with vars } : Generator).bindings d).AgreeOn typeKinds (g.bindings d) := by
  intro key hKey
  rw [get?_bindings hContext, get?_bindings (g := { g with vars }) hContext]
  by_cases hType : key = "type"
  · rw [if_pos hType, if_pos hType]
  · rw [typeKinds, if_neg hType] at hKey
    cases hKey

theorem agreeOn_routeKinds {gv : Text × Text} (hContext : g.contextKey = some ("type" : Text))
    (hLeft : g.vars.BindRoutes gv) (hRight : vars.BindRoutes gv) (d : Declaration) :
    (({ g with vars } : Generator).bindings d).AgreeOn routeKinds (g.bindings d) := by
  intro key hKey
  rw [get?_bindings hContext, get?_bindings (g := { g with vars }) hContext]
  by_cases hType : key = "type"
  · rw [if_pos hType, if_pos hType]
  · rw [if_neg hType, if_neg hType]
    rw [routeKinds, if_neg hType] at hKey
    split at hKey
    · next hScalar =>
      rcases hScalar with rfl | rfl
      · exact hRight.group.trans hLeft.group.symm
      · exact hRight.version.trans hLeft.version.symm
    · cases hKey

theorem agreeButScalars_routeKinds {gv gv' : Text × Text}
    (hContext : g.contextKey = some ("type" : Text)) (hLeft : g.vars.BindRoutes gv)
    (hRight : vars.BindRoutes gv') (d : Declaration) :
    (g.bindings d).AgreeButScalars routeKinds (({ g with vars } : Generator).bindings d) where
  left := routeKinds_within hLeft hContext d
  right := routeKinds_within (g := { g with vars }) hRight hContext d
  types key hKey hSome := by
    rw [get?_bindings hContext, get?_bindings (g := { g with vars }) hContext]
    by_cases hType : key = "type"
    · rw [if_pos hType, if_pos hType]
    · rw [routeKinds, if_neg hType] at hKey hSome
      split at hKey
      · exact absurd rfl hKey
      · next hOther => rw [if_neg hOther] at hSome; cases hSome

/-- A route has the group once and the version twice. -/
theorem scalarLengths_routes {gv : Text × Text} (hContext : g.contextKey = some ("type" : Text))
    (hVars : g.vars.BindRoutes gv) (d : Declaration) :
    (g.bindings d).scalarLengths (["group", "version", "version"] : List Text) =
      gv.1.length + 2 * gv.2.length := by
  have hGroup : (g.bindings d).scalarLength "group" = gv.1.length := by
    rw [Bindings.scalarLength, get?_bindings hContext, if_neg (by decide), hVars.group]
  have hVersion : (g.bindings d).scalarLength "version" = gv.2.length := by
    rw [Bindings.scalarLength, get?_bindings hContext, if_neg (by decide), hVars.version]
  simp only [Bindings.scalarLengths, hGroup, hVersion]
  omega

/-! ## The files of a type -/

variable (s : Scaffold) (d : Declaration) (types : List Declaration)

/-- **The service methods of a type do not show its source.** -/
theorem files_typeService_congr (vars : Bindings) :
    (({ s with vars } : Scaffold).typeService d).files types = (s.typeService d).files types := by
  refine Package.files_vars_congr (p := s.typeService d) rfl (fun e => ?_) types
  refine Generator.generate_congr ?_ rfl rfl rfl (agreeOn_typeKinds rfl e)
  exact ({ s with vars } : Scaffold).accepted_typeService d _ List.mem_cons_self

/-- **The controller of a type shows the group and the version of its source only.** -/
theorem files_typeController_congr {gv : Text × Text} (hLeft : s.vars.BindRoutes gv)
    (hRight : vars.BindRoutes gv) :
    (({ s with vars } : Scaffold).typeController d).files types =
      (s.typeController d).files types := by
  refine Package.files_vars_congr (p := s.typeController d) rfl (fun e => ?_) types
  refine Generator.generate_congr ?_ rfl rfl rfl (agreeOn_routeKinds rfl hLeft hRight e)
  exact ({ s with vars } : Scaffold).accepted_typeController d _ List.mem_cons_self

/-- The generator of a type's controller. -/
def controllerGenerator (s : Scaffold) (d : Declaration) : Generator :=
  (s.typeController d).generators.head (List.cons_ne_nil _ _)

/-- All snippets of a controller but the last see the type alone; the last has the routes. -/
theorem snippets_controllerGenerator : ∃ front last,
    (s.controllerGenerator d).snippets = front ++ [last] ∧ last.body = registerRoutes ∧
      ∀ x ∈ front, typeKinds.accepts x.body = true := by
  refine ⟨(s.controllerGenerator d).snippets.take 6, _, rfl, rfl, fun x hx => ?_⟩
  refine controllerTemplates_accepted x.body ?_
  revert x
  simp [controllerGenerator, typeController]

/-- **Equal controllers have routes of equal length.** -/
theorem length_eq_of_files_typeController_eq {gv gv' : Text × Text} {d : Declaration}
    {types : List Declaration} (hLeft : s.vars.BindRoutes gv) (hRight : vars.BindRoutes gv')
    (hd : d ∈ types)
    (h : (({ s with vars } : Scaffold).typeController d).files types =
      (s.typeController d).files types) :
    gv.1.length + 2 * gv.2.length = gv'.1.length + 2 * gv'.2.length := by
  obtain ⟨e, -, hSubject, -⟩ : ∃ e ∈ types, (s.controllerGenerator d).subject? types = some e ∧ _ :=
    Generator.exists_subject? (List.ne_nil_of_mem hd)
      ((typeController_ready hLeft hd).triggered _ List.mem_cons_self)
  obtain ⟨w, hw⟩ : ∃ w, (s.controllerGenerator d).generate e = .ok w :=
    (typeController_ready hLeft hd).renders _ List.mem_cons_self e
  obtain ⟨w', hw'⟩ : ∃ w',
      ({ s.controllerGenerator d with vars } : Generator).generate e = .ok w' :=
    (typeController_ready (s := { s with vars }) hRight hd).renders _ List.mem_cons_self e
  have hWritten : ({ s.controllerGenerator d with vars } : Generator).written types = w' :=
    Generator.written_eq hSubject hw'
  have hBody : w'.body = w.body := by
    rw [← Generator.written_eq hSubject hw, ← hWritten]
    exact congrArg RenderedFile.body (List.cons.inj (List.cons.inj h).2).1
  obtain ⟨front, last, hSnippets, hLast, hFront⟩ := s.snippets_controllerGenerator d
  have hRoutes := registerRoutes_accepted
  rw [← hLast] at hRoutes
  have hLength := Generator.length_body_add hSnippets (fun x hx =>
      ⟨renderText_succeeds _ (hFront x hx) (typeKinds_within rfl e),
        renderText_congr _ (hFront x hx) (agreeOn_typeKinds rfl e)⟩)
    hRoutes.1 hRoutes.2 (agreeButScalars_routeKinds rfl hLeft hRight e) hw hw'
  rw [scalarLengths_routes rfl hRight, scalarLengths_routes rfl hLeft, hBody] at hLength
  omega

/-! ### Both packages of a type -/

/-- The files of a type: those of its controller and of its service methods. -/
def typeFiles (s : Scaffold) (types : List Declaration) (d : Declaration) : List RenderedFile :=
  (s.typeController d).files types ++ (s.typeService d).files types

theorem length_files_typeController : ((s.typeController d).files types).length = 2 := rfl

theorem length_files_typeService : ((s.typeService d).files types).length = 1 := rfl

theorem length_typeFiles : (s.typeFiles types d).length = 3 := by
  rw [typeFiles, List.length_append, length_files_typeController, length_files_typeService]

theorem typeFiles_congr {gv : Text × Text} (hLeft : s.vars.BindRoutes gv)
    (hRight : vars.BindRoutes gv) :
    ({ s with vars } : Scaffold).typeFiles types d = s.typeFiles types d := by
  rw [typeFiles, typeFiles, s.files_typeController_congr d types hLeft hRight,
    s.files_typeService_congr]

theorem length_eq_of_typeFiles_eq {gv gv' : Text × Text} {d : Declaration}
    {types : List Declaration} (hLeft : s.vars.BindRoutes gv) (hRight : vars.BindRoutes gv')
    (hd : d ∈ types) (h : ({ s with vars } : Scaffold).typeFiles types d = s.typeFiles types d) :
    gv.1.length + 2 * gv.2.length = gv'.1.length + 2 * gv'.2.length := by
  rw [typeFiles, typeFiles] at h
  refine s.length_eq_of_files_typeController_eq hLeft hRight hd ?_
  exact (List.append_inj h (by
    rw [length_files_typeController, length_files_typeController])).1

end Scaffold

end RestScaffold
