import RestScaffold.Proofs.Scaffold.Imports

/-!
# The server's file

The server registers the routes of all controllers, each under the name by which it imports the
controller's package. The text of its file and its import lines are computed by different means, so
this module puts them side by side.

* `Scaffold.server_writes`: the text of the file is fixed but for one line for each type, in order;
* `Scaffold.binds_entry_server`: what each import line of the file binds;
* `Scaffold.namesApart_server`: no two of these lines bind one name.

The names of the types must not have blanks or quotes in them, which would end up in the lines.
-/

namespace RestScaffold

open ImportLine Text

/-! ## Renderings that import nothing -/

namespace Rendering

/-- The rendering writes this text whatever is imported, and imports nothing more. -/
def Writes (r : Rendering) (s : Text) : Prop := ∀ t, r t = (.ok s, t)

theorem writes_text (s : Text) : (text s).Writes s := fun _ => rfl

theorem Writes.append {a b : Rendering} {s s' : Text} (ha : a.Writes s) (hb : b.Writes s') :
    (append a b).Writes (s ++ s') := by
  intro t
  rw [Rendering.append, ha t]
  simp only [hb t]

theorem writes_concat {α : Type} {items : List α} {r : α → Rendering} {s : α → Text}
    (h : ∀ item ∈ items, (r item).Writes (s item)) :
    (concat (items.map r)).Writes (items.flatMap s) := by
  induction items with
  | nil => exact writes_text []
  | cons item items ih =>
    exact (h item List.mem_cons_self).append
      (ih fun item' hItem' => h item' (List.mem_cons_of_mem item hItem'))

/-- A text without placeholders is written as it is. -/
theorem writes_renderText {marks : Delimiters} {s : Text}
    (h : Block.ofText marks s = .ok (.text s .done)) (scope : NameScope) (vars : Bindings) :
    (renderText marks scope vars s).Writes s := by
  rw [renderText, h]
  have hText := (writes_text s).append (writes_text [])
  rwa [List.append_nil] at hText

end Rendering

/-- A generator that imports nothing for its text writes it with its own imports. -/
theorem Generator.generateWith_of_writes {g : Generator} {marks : Delimiters} {d : Declaration}
    {body : Text} (h : (g.renderingWith marks d).Writes body) :
    g.generateWith marks d = .ok ⟨body, merge g.imports⟩ ∧ g.rawPackages marks d = [] := by
  have hTable : ({} : ImportTable) = g.table marks d :=
    (g.renderingWith_registers marks d _ _ _ (h {})).1
  constructor
  · rw [generateWith_eq_ok_iff, ← hTable]
    refine ⟨h {}, ?_⟩
    show merge g.imports = merge (g.imports ++ [])
    rw [List.append_nil]
  · refine List.eq_nil_iff_forall_not_mem.2 fun path hPath => ?_
    have hContains := (ImportTable.contains_register {} _ path).2 (Or.inl hPath)
    rw [← Generator.table, ← hTable] at hContains
    cases hContains

/-- A generator whose snippets import nothing writes their texts. -/
theorem Generator.renderingWith_writes {g : Generator} {marks : Delimiters} {d : Declaration}
    {texts : List Text} (h : List.Forall₂
      (fun s text => (renderText marks g.scope (g.bindings d) s.body).Writes text)
      g.snippets texts) : (g.renderingWith marks d).Writes texts.flatten := by
  unfold renderingWith
  generalize g.snippets = snippets at h
  induction h with
  | nil => exact Rendering.writes_text []
  | cons hFirst _ ih => exact hFirst.append ih

namespace Scaffold

/-! ## The text of the file -/

/-- The constructor of the server up to the routes. -/
def newServerFront : Text := Text.ofLines [
  "",
  "// New creates a server with the routes of every controller registered.",
  "func New(opt Options) Server \x7b",
  "\toptions := &service.Options\x7b",
  "\t\tKubeClientset: opt.CtrlOptions.KubeClientset,",
  "\t\x7d",
  "\topt.CtrlOptions.Service = service.New(options)",
  "",
  "\trouter := mux.NewRouter().StrictSlash(true)"]

/-- The constructor of the server behind the routes. -/
def newServerBack : Text := Text.ofLines [
  "",
  "\treturn &server\x7b",
  "\t\topt:    opt,",
  "\t\trouter: router,",
  "\t\x7d",
  "\x7d"]

/-- The line that registers the routes of a type. -/
def routeLine (d : Declaration) : Text :=
  '\t' :: controllerAlias d ++ ".New(opt.CtrlOptions).Register(router)" ++ "\n"

/-- What stands behind the form of the name in a line. -/
def routeCall : Text := "ctrl.New(opt.CtrlOptions).Register(router)\n"

/-- The text of the server's file. -/
def serverBody (types : List Declaration) : Text :=
  serverInterface ++ serverOptions ++ serverStruct ++ newServerFront ++ types.flatMap routeLine ++
    newServerBack ++ serveHttp ++ listenAndServe

theorem ofText_serverTexts :
    ∀ s ∈ [serverInterface, serverOptions, serverStruct, serveHttp, listenAndServe],
      Block.ofText .dollar s = .ok (.text s .done) := by
  unfold serverInterface serverOptions serverStruct serveHttp listenAndServe
  repeat rw [String.toList_ofList]
  decide +kernel

theorem ofText_newServer : Block.ofText .dollar newServer =
    .ok (.text newServerFront (.range (.named "types") 10
      (.text ['\t'] (.emit ⟨.current, some ("lowercaseSingular" : Text)⟩ 10
        (.text routeCall .done)))
      (.text newServerBack .done))) := by
  unfold newServer newServerFront newServerBack routeCall
  repeat rw [String.toList_ofList]
  decide +kernel

theorem routeLine_eq (d : Declaration) :
    routeLine d = '\t' :: (lower d.name.base ++ routeCall) := by
  have hCall : "ctrl".toList ++ (".New(opt.CtrlOptions).Register(router)".toList ++ "\n".toList) =
      routeCall := by decide +kernel
  rw [routeLine, controllerAlias, Declaration.stem, ← hCall]
  simp only [List.append_assoc, List.cons_append]

theorem writes_routeLine (scope : NameScope) (d : Declaration) :
    (Rendering.append (.text ['\t']) (.append (.name scope d.name .lower)
      (.append (.text routeCall) (.text [])))).Writes (routeLine d) := by
  have hName : (Rendering.name scope d.name .lower).Writes (lower d.name.base) := fun _ => rfl
  have hLine := (Rendering.writes_text ['\t']).append
    (hName.append ((Rendering.writes_text routeCall).append (Rendering.writes_text [])))
  rwa [List.append_nil, List.singleton_append, ← routeLine_eq] at hLine

/-- The constructor is written with the line of each type. -/
theorem newServer_writes (scope : NameScope) {vars : Bindings} {types : List Declaration}
    (h : vars.get? ("types" : Text) = some (.types types)) :
    (renderText .dollar scope vars newServer).Writes
      (newServerFront ++ types.flatMap routeLine ++ newServerBack) := by
  have hForm : NameForm.ofText? ("lowercaseSingular" : Text) = some .lower := by decide +kernel
  rw [renderText, ofText_newServer]
  simp only [Block.render, Expression.render, KeyRef.lookup, h, hForm]
  have hAll := (Rendering.writes_text newServerFront).append
    ((Rendering.writes_concat fun d (_ : d ∈ types) => writes_routeLine scope d).append
      ((Rendering.writes_text newServerBack).append (Rendering.writes_text [])))
  rwa [List.append_nil, ← List.append_assoc] at hAll

variable (s : Scaffold) (types : List Declaration)

/-- **The text of the server's file has one line for each type, in order.** -/
theorem server_writes : ∀ g ∈ (s.server types).generators, ∀ d,
    (g.renderingWith .dollar d).Writes (serverBody types) := by
  refine List.forall_mem_singleton.2 fun d => ?_
  let vars : Bindings := TextMap.insert s.vars "types" (.types types)
  have hTypes : vars.get? ("types" : Text) = some (.types types) := by
    rw [TextMap.get?_insert, if_pos rfl]
  have hNew := newServer_writes ⟨s.path serverDir, s.plurals⟩ hTypes
  have hText : ∀ body ∈ [serverInterface, serverOptions, serverStruct, serveHttp, listenAndServe],
      (renderText .dollar ⟨s.path serverDir, s.plurals⟩ vars body).Writes body := fun body hBody =>
    Rendering.writes_renderText (ofText_serverTexts body hBody) _ _
  have hBody : serverBody types = [serverInterface, serverOptions, serverStruct,
      newServerFront ++ types.flatMap routeLine ++ newServerBack, serveHttp,
      listenAndServe].flatten := by
    simp only [serverBody, List.flatten_cons, List.flatten_nil, List.append_assoc, List.append_nil]
  rw [hBody]
  refine Generator.renderingWith_writes (.cons (hText _ ?_) (.cons (hText _ ?_)
    (.cons (hText _ ?_) (.cons hNew (.cons (hText _ ?_) (.cons (hText _ ?_) .nil))))))
  all_goals simp

end Scaffold

/-! ## Import lines with a name in front -/

namespace ImportLine

/-- The name that an entry gives: the last segment of a bare path, else what stands in front of the
first blank. -/
def entryName (e : Text) : Text :=
  if IsBare e then afterLast '/' (trim e) else e.takeWhile (· ≠ ' ')

/-- A path with a name in front of it. -/
def named (name path : Text) : Text := name ++ " " ++ quoted path

variable {name : Text}

theorem solid_named (hNe : name ≠ []) (hPlain : Plain name) (path : Text) :
    Solid (named name path) where
  head c hc := by
    obtain ⟨first, rest, rfl⟩ := List.exists_cons_of_ne_nil hNe
    rw [← Option.some.inj hc]
    exact (hPlain first List.mem_cons_self).1
  last c hc := by
    rw [named, List.getLast?_append_of_ne_nil _ (quoted_ne_nil path)] at hc
    exact (solid_quoted path).last c hc

theorem quote_mem_named (name path : Text) : quote ∈ named name path :=
  List.mem_append_right _ List.mem_cons_self

theorem normalize_named (hNe : name ≠ []) (hPlain : Plain name) (path : Text) :
    normalize (named name path) = named name path :=
  normalize_eq (solid_named hNe hPlain path) (quote_mem_named name path)

theorem binds_named (hPlain : Plain name) (path : Text) : Binds (named name path) name path :=
  Or.inr ⟨fun hQuote => (hPlain quote hQuote).2 rfl, rfl⟩

theorem not_isBare_named (hNe : name ≠ []) (hPlain : Plain name) (path : Text) :
    ¬ IsBare (named name path) := by
  rw [IsBare, (solid_named hNe hPlain path).trim_eq, named,
    List.getLast?_append_of_ne_nil _ (quoted_ne_nil path), getLast?_quoted]
  decide

theorem eq_of_binds_named {name' path path' : Text} (hNe : name ≠ []) (hPlain : Plain name)
    (h : Binds (normalize (named name path)) name' path') : name' = name ∧ path' = path := by
  rw [normalize_named hNe hPlain] at h
  exact h.unique (binds_named hPlain path)

theorem eq_of_gives_named {path path' : Text} (hNe : name ≠ []) (hPlain : Plain name)
    (h : Gives (named name path) path') : path' = path := by
  rcases h with ⟨hBare, -⟩ | ⟨name', hBinds⟩
  · exact absurd hBare (not_isBare_named hNe hPlain path)
  · exact (eq_of_binds_named hNe hPlain hBinds).2

theorem entryName_named (hNe : name ≠ []) (hPlain : Plain name) (path : Text) :
    entryName (named name path) = name := by
  have hKeep : ∀ c ∈ name, (c ≠ ' ' : Bool) = true := fun c hc => decide_eq_true fun hEq => by
    have hBlank := (hPlain c hc).1
    rw [hEq] at hBlank
    revert hBlank
    decide
  rw [entryName, if_neg (not_isBare_named hNe hPlain path), named, List.append_assoc,
    List.takeWhile_append_of_pos hKeep]
  exact List.append_nil name

/-- Entries that give different names have lines that bind different names. -/
theorem namesApart_merge_of_nodup {entries : List Text}
    (h : ∀ e ∈ entries, ∀ name path, Binds (normalize e) name path → name = entryName e)
    (hNodup : (entries.map entryName).Nodup) : NamesApart (merge entries) := by
  intro a ha b hb name path path' hA hB
  obtain ⟨e, he, -, rfl⟩ := mem_merge.1 ha
  obtain ⟨e', he', -, rfl⟩ := mem_merge.1 hb
  have hSame : entryName e = entryName e' := (h e he _ _ hA).symm.trans (h e' he' _ _ hB)
  rw [List.inj_on_of_nodup_map hNodup he he' hSame]

end ImportLine

namespace Scaffold

/-! ## The import lines of the file -/

theorem controllerImport_eq (s : Scaffold) (d : Declaration) :
    s.controllerImport d = named (controllerAlias d) (s.controllerPath d) := rfl

/-- Types whose names in files can stand in import lines and are told apart there. -/
structure Registrable (types : List Declaration) : Prop where
  plain : ∀ d ∈ types, Plain d.stem
  ne_nil : ∀ d ∈ types, d.stem ≠ []
  nodup : (types.map Declaration.stem).Nodup

theorem plain_ctrl : Plain "ctrl" := by decide

theorem Registrable.plain_alias {types : List Declaration} (h : Registrable types) {d : Declaration}
    (hd : d ∈ types) : controllerAlias d ≠ [] ∧ Plain (controllerAlias d) :=
  ⟨List.append_ne_nil_of_right_ne_nil _ (by decide), (h.plain d hd).append plain_ctrl⟩

variable {s : Scaffold} {types : List Declaration} {g : Generator} {e : Text}

theorem mem_imports_server (hg : g ∈ (s.server types).generators) (he : e ∈ g.imports) :
    (e ∈ foreignEntries ∨ e ∈ [serviceDir, middlewareDir].map s.path) ∨
      e = named "ctrl" (s.path controllerDir) ∨ ∃ d ∈ types, e = s.controllerImport d := by
  obtain rfl := List.mem_singleton.1 hg
  rcases List.mem_append.1 he with hFixed | hType
  · have hCtrl : "ctrl ".toList = "ctrl".toList ++ " ".toList := by decide
    simp only [hCtrl, List.mem_cons, List.not_mem_nil, or_false] at hFixed
    rcases hFixed with rfl | rfl | rfl | rfl | rfl | rfl
    · exact Or.inl (Or.inl (by simp [foreignEntries]))
    · exact Or.inl (Or.inl (by simp [foreignEntries]))
    · exact Or.inl (Or.inl (by simp [foreignEntries]))
    · exact Or.inl (Or.inr List.mem_cons_self)
    · exact Or.inl (Or.inr (List.mem_cons_of_mem _ List.mem_cons_self))
    · exact Or.inr (Or.inl rfl)
  · obtain ⟨d, hd, rfl⟩ := List.mem_map.1 hType
    exact Or.inr (Or.inr ⟨d, hd, rfl⟩)

theorem serverDirs_isSubdirectory :
    ∀ dir ∈ [serviceDir, middlewareDir], ∃ name, IsSubdirectory dir name :=
  List.forall_mem_cons.2 ⟨⟨_, isSubdirectory_serviceDir⟩,
    List.forall_mem_singleton.2 ⟨_, isSubdirectory_middlewareDir⟩⟩

/-- **What the import lines of the server bind.** -/
theorem binds_entry_server (h : Registrable types) (hg : g ∈ (s.server types).generators)
    (he : e ∈ g.imports) {name path : Text} (hBinds : Binds (normalize e) name path) :
    name = entryName e := by
  rcases mem_imports_server hg he with hPath | rfl | ⟨d, hd, rfl⟩
  · have hBare := isBare_of_entry serverDirs_isSubdirectory hPath
    obtain ⟨-, hTrim, hName⟩ := binds_normalize hBare hBinds
    rw [entryName, if_pos hBare, hName, hTrim]
  · have hNe : ("ctrl" : Text) ≠ [] := by decide
    rw [entryName_named hNe plain_ctrl, (eq_of_binds_named hNe plain_ctrl hBinds).1]
  · obtain ⟨hNe, hPlain⟩ := h.plain_alias hd
    rw [controllerImport_eq] at hBinds ⊢
    rw [entryName_named hNe hPlain, (eq_of_binds_named hNe hPlain hBinds).1]

/-- The paths of the tree that entries of the server give are those of directories and
controllers. -/
theorem gives_entry_server (h : Registrable types) (hg : g ∈ (s.server types).generators)
    (he : e ∈ g.imports) {path : Text} (hGives : Gives e path)
    (hBelow : s.path serverDir <+: path) :
    (∃ dir ∈ PackageKind.server.directories, path = s.path dir) ∨
      ∃ d ∈ types, path = s.controllerPath d := by
  rcases mem_imports_server hg he with hPath | rfl | ⟨d, hd, rfl⟩
  · obtain ⟨dir, hDir, hEq⟩ := exists_dir_of_entry serverDirs_isSubdirectory hPath hGives hBelow
    exact Or.inl ⟨dir, List.mem_append_left [controllerDir] hDir, hEq⟩
  · refine Or.inl ⟨controllerDir, List.mem_of_getLast? rfl, ?_⟩
    exact eq_of_gives_named (by decide) plain_ctrl hGives
  · obtain ⟨hNe, hPlain⟩ := h.plain_alias hd
    exact Or.inr ⟨d, hd, eq_of_gives_named hNe hPlain hGives⟩

theorem entryNames_server (h : Registrable types) (hg : g ∈ (s.server types).generators) :
    g.imports.map entryName =
      (["http", "time", "mux", "service", "middleware", "ctrl"] : List Text) ++
        types.map controllerAlias := by
  obtain rfl := List.mem_singleton.1 hg
  have hCtrl : "ctrl ".toList ++ quoted (s.path controllerDir) =
      named "ctrl" (s.path controllerDir) := by
    rw [named, show "ctrl ".toList = "ctrl".toList ++ " ".toList by decide]
  have hService : entryName (s.path serviceDir) = "service".toList := by
    rw [entryName, if_pos isSubdirectory_serviceDir.isBare,
      isSubdirectory_serviceDir.afterLast_trim_path]
  have hMiddleware : entryName (s.path middlewareDir) = "middleware".toList := by
    rw [entryName, if_pos isSubdirectory_middlewareDir.isBare,
      isSubdirectory_middlewareDir.afterLast_trim_path]
  have hForeign : (["net/http", "time", "github.com/gorilla/mux"] : List Text).map entryName =
      (["http", "time", "mux"] : List Text) := by decide +kernel
  simp only [List.map_cons, List.map_nil, List.cons.injEq, and_true] at hForeign
  obtain ⟨hHttp, hTime, hMux⟩ := hForeign
  rw [List.map_append, List.map_map]
  refine congrArg₂ (· ++ ·) ?_ (List.map_congr_left fun d hd => ?_)
  · simp only [List.map_cons, List.map_nil, hCtrl, hService, hMiddleware, hHttp, hTime, hMux,
      entryName_named (by decide) plain_ctrl]
  · obtain ⟨hNe, hPlain⟩ := h.plain_alias hd
    exact entryName_named hNe hPlain _

/-- **No two import lines of the server bind one name.** -/
theorem namesApart_server (h : Registrable types) (hg : g ∈ (s.server types).generators) :
    NamesApart (merge g.imports) := by
  refine namesApart_merge_of_nodup (fun e he _ _ hBinds => binds_entry_server h hg he hBinds) ?_
  rw [entryNames_server h hg]
  refine List.nodup_append.2 ⟨by decide +kernel, ?_, fun name hFixed other hAlias hEq => ?_⟩
  · have hStems : types.map controllerAlias =
        (types.map Declaration.stem).map fun stem => stem ++ "ctrl".toList := by
      rw [List.map_map]
      rfl
    rw [hStems]
    exact h.nodup.map fun _ _ hSame => List.append_cancel_right hSame
  · -- A name of the types ends in the same word, but it has a stem in front of it.
    obtain ⟨d, hd, rfl⟩ := List.mem_map.1 hAlias
    have hShort : ∀ n ∈ (["http", "time", "mux", "service", "middleware", "ctrl"] : List Text),
        ("ctrl" : Text) <:+ n → n = ("ctrl" : Text) := by decide +kernel
    have hCtrl := hShort name hFixed (hEq ▸ List.suffix_append _ _)
    exact h.ne_nil d hd (List.append_left_eq_self.1 (hEq.symm.trans hCtrl))

/-- The server calls each controller's package by the name that its text uses. -/
theorem controllerImport_mem (h : Registrable types) (hg : g ∈ (s.server types).generators)
    {d : Declaration} (hd : d ∈ types) : s.controllerImport d ∈ merge g.imports ∧
      Binds (s.controllerImport d) (controllerAlias d) (s.controllerPath d) := by
  obtain ⟨hNe, hPlain⟩ := h.plain_alias hd
  refine ⟨mem_merge.2 ⟨s.controllerImport d, ?_, ?_, normalize_named hNe hPlain _⟩,
    binds_named hPlain _⟩
  · obtain rfl := List.mem_singleton.1 hg
    exact List.mem_append_right _ (List.mem_map_of_mem hd)
  · exact isBlankText_of_quote (solid_named hNe hPlain _) (quote_mem_named _ _)

end Scaffold

end RestScaffold
