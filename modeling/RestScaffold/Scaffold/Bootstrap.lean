import RestScaffold.Scaffold.Basic

/-!
# The server package

The server registers the routes of every controller in the order of the types. It imports each
controller's package by a name of its own, so that the packages of two types never share one.
-/

namespace RestScaffold.Scaffold

/-! ## Templates -/

/-- What a server is. -/
def serverInterface : Text := Text.ofLines [
  "",
  "// Server serves the generated REST API.",
  "type Server interface \x7b",
  "\thttp.Handler",
  "\tListenAndServe() error",
  "\x7d"]

/-- The options of the server. -/
def serverOptions : Text := Text.ofLines [
  "",
  "// Options contains the config required by the server.",
  "type Options struct \x7b",
  "\tCtrlOptions *ctrl.Options",
  "\tListenAddr  string",
  "\x7d"]

/-- The server itself. -/
def serverStruct : Text := Text.ofLines [
  "",
  "// server implements the Server interface.",
  "type server struct \x7b",
  "\topt    Options",
  "\trouter *mux.Router",
  "\x7d"]

/-- The constructor of the server, which registers the routes of every controller. -/
def newServer : Text := Text.ofLines [
  "",
  "// New creates a server with the routes of every controller registered.",
  "func New(opt Options) Server \x7b",
  "\toptions := &service.Options\x7b",
  "\t\tKubeClientset: opt.CtrlOptions.KubeClientset,",
  "\t\x7d",
  "\topt.CtrlOptions.Service = service.New(options)",
  "",
  "\trouter := mux.NewRouter().StrictSlash(true)",
  "$range types$\t$.|lowercaseSingular$ctrl.New(opt.CtrlOptions).Register(router)",
  "$end$",
  "\treturn &server\x7b",
  "\t\topt:    opt,",
  "\t\trouter: router,",
  "\t\x7d",
  "\x7d"]

/-- How a request is served. -/
def serveHttp : Text := Text.ofLines [
  "",
  "// ServeHTTP authenticates the request, then dispatches it to the matched route.",
  "func (s *server) ServeHTTP(w http.ResponseWriter, r *http.Request) \x7b",
  "\tmiddleware.Authenticate(s.router).ServeHTTP(w, r)",
  "\x7d"]

/-- How the server starts. -/
def listenAndServe : Text := Text.ofLines [
  "",
  "// ListenAndServe starts the HTTP server.",
  "func (s *server) ListenAndServe() error \x7b",
  "\tserver := &http.Server\x7b",
  "\t\tHandler:        s,",
  "\t\tAddr:           s.opt.ListenAddr,",
  "\t\tWriteTimeout:   15 * time.Second,",
  "\t\tReadTimeout:    15 * time.Second,",
  "\t\tMaxHeaderBytes: 1 << 20,",
  "\t\x7d",
  "\treturn server.ListenAndServe()",
  "\x7d"]

/-! ## The package -/

/-- The name by which the server calls the package of a type's controller. -/
def controllerAlias (d : Declaration) : Text := d.stem ++ "ctrl"

/-- The line that imports the package of a type's controller. -/
def controllerImport (s : Scaffold) (d : Declaration) : Text :=
  controllerAlias d ++ " " ++ ImportLine.quoted (s.controllerPath d)

/-- The server. -/
def server (s : Scaffold) (types : List Declaration) : Package where
  kind := .server
  name := "server"
  path := s.path serverDir
  header := s.header
  documentation := some ("// Package server has the generated HTTP server.\n" : Text)
  generators := [
    { s.listingGenerator (s.path serverDir) "server" types with
      imports := (["net/http", "time", "github.com/gorilla/mux", s.path serviceDir,
          s.path middlewareDir, "ctrl " ++ ImportLine.quoted (s.path controllerDir)] : List Text) ++
        types.map s.controllerImport
      externs := (["http", "time", "mux", "service", "middleware", "ctrl"] : List Text) ++
        types.map controllerAlias
      snippets := [
        ⟨"server-interface", serverInterface, ["Server"], ["http"]⟩,
        ⟨"options", serverOptions, ["Options"], ["ctrl"]⟩,
        ⟨"server-struct", serverStruct, ["server"], ["Options", "mux"]⟩,
        ⟨"new", newServer, ["New"],
          (["Options", "Server", "server", "service", "mux"] : List Text) ++
            types.map controllerAlias⟩,
        ⟨"serve-http", serveHttp, ["ServeHTTP"], ["server", "middleware", "http"]⟩,
        ⟨"listen-and-serve", listenAndServe, ["ListenAndServe"],
          ["server", "http", "time"]⟩] }]

end RestScaffold.Scaffold
