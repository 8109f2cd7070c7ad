import RestScaffold.Scaffold.Basic

/-!
# Packages of one type

The controller of a type, in a directory of its own, and the file with the type's service methods,
which stands beside the service interface and so has no documentation of its own.
-/

namespace RestScaffold.Scaffold

/-! ## Templates -/

/-- The controller of a type. -/
def controllerStruct : Text := Text.ofLines [
  "",
  "// $.type|private$ implements the controller interface for $.type|publicPlural$.",
  "type $.type|private$ struct \x7b",
  "\topt *controller.Options",
  "\x7d"]

/-- The constructor of a controller. -/
def newController : Text := Text.ofLines [
  "",
  "// New creates the $.type|public$ controller.",
  "func New(opt *controller.Options) controller.Controller \x7b",
  "\treturn &$.type|private$\x7bopt: opt\x7d",
  "\x7d"]

/-- The handler that creates an object. -/
def createHandler : Text := Text.ofLines [
  "",
  "// create$.type|public$ decodes a $.type|public$ from the body and creates it.",
  "func (c *$.type|private$) create$.type|public$(w http.ResponseWriter, r *http.Request) \x7b",
  "\t$.type|private$Obj := &$.type|raw$\x7b\x7d",
  "\tif err := json.NewDecoder(r.Body).Decode($.type|private$Obj); err != nil \x7b",
  "\t\tcontroller.BadRequest(w, r, err)",
  "\t\treturn",
  "\t\x7d",
  "",
  "\tif err := c.opt.Service.Create$.type|public$(r.Context(), $.type|private$Obj); err != nil \x7b",
  "\t\tcontroller.BadRequest(w, r, err)",
  "\t\treturn",
  "\t\x7d",
  "\tcontroller.OK(w, r, \"success\")",
  "\x7d"]

/-- The handler that returns an object. -/
def getHandler : Text := Text.ofLines [
  "",
  "// get$.type|public$ returns the $.type|public$ named in the path.",
  "func (c *$.type|private$) get$.type|public$(w http.ResponseWriter, r *http.Request) \x7b",
  "\tname := mux.Vars(r)[\"name\"]",
  "\t$.type|private$Obj, err := c.opt.Service.Get$.type|public$(r.Context(), name)",
  "\tif err != nil \x7b",
  "\t\tcontroller.BadRequest(w, r, err)",
  "\t\treturn",
  "\t\x7d",
  "\tcontroller.Response(w, r, http.StatusOK, $.type|private$Obj)",
  "\x7d"]

/-- The handler that updates an object. -/
def updateHandler : Text := Text.ofLines [
  "",
  "// update$.type|public$ decodes a $.type|public$ from the body and updates it.",
  "func (c *$.type|private$) update$.type|public$(w http.ResponseWriter, r *http.Request) \x7b",
  "\t$.type|private$Obj := &$.type|raw$\x7b\x7d",
  "\tif err := json.NewDecoder(r.Body).Decode($.type|private$Obj); err != nil \x7b",
  "\t\tcontroller.BadRequest(w, r, err)",
  "\t\treturn",
  "\t\x7d",
  "",
  "\tif err := c.opt.Service.Update$.type|public$(r.Context(), $.type|private$Obj); err != nil \x7b",
  "\t\tcontroller.BadRequest(w, r, err)",
  "\t\treturn",
  "\t\x7d",
  "\tcontroller.OK(w, r, \"success\")",
  "\x7d"]

/-- The handler that deletes an object. -/
def deleteHandler : Text := Text.ofLines [
  "",
  "// delete$.type|public$ deletes the $.type|public$ named in the body.",
  "func (c *$.type|private$) delete$.type|public$(w http.ResponseWriter, r *http.Request) \x7b",
  "\t$.type|private$Obj := &$.type|raw$\x7b\x7d",
  "\tif err := json.NewDecoder(r.Body).Decode($.type|private$Obj); err != nil \x7b",
  "\t\tcontroller.BadRequest(w, r, err)",
  "\t\treturn",
  "\t\x7d",
  "",
  "\tif err := c.opt.Service.Delete$.type|public$(r.Context(), $.type|private$Obj.Name); err != nil \x7b",
  "\t\tcontroller.BadRequest(w, r, err)",
  "\t\treturn",
  "\t\x7d",
  "\tcontroller.OK(w, r, \"success\")",
  "\x7d"]

/-- The routes of a controller. -/
def registerRoutes : Text := Text.ofLines [
  "",
  "// Register adds the $group$/$version$ $.type|public$ routes to router.",
  "func (c *$.type|private$) Register(router *mux.Router) \x7b",
  "\trouter = router.PathPrefix(\"/api/$version$\").Subrouter()",
  "",
  "\t// create",
  "\trouter.Methods(\"POST\").Path(\"/$.type|lowercaseSingular$\").HandlerFunc(c.create$.type|public$)",
  "",
  "\t// get",
  "\trouter.Methods(\"GET\").Path(\"/$.type|lowercaseSingular$/\x7bname\x7d\").HandlerFunc(c.get$.type|public$)",
  "",
  "\t// update",
  "\trouter.Methods(\"PUT\").Path(\"/$.type|lowercaseSingular$\").HandlerFunc(c.update$.type|public$)",
  "",
  "\t// delete",
  "\trouter.Methods(\"DELETE\").Path(\"/$.type|lowercaseSingular$\").HandlerFunc(c.delete$.type|public$)",
  "\x7d"]

/-- The service method that creates an object. -/
def createMethod : Text := Text.ofLines [
  "",
  "// Create$.type|public$ stores a new $.type|public$.",
  "// Replace the body with the storage logic for $.type|allLowercasePlural$.",
  "func (s *service) Create$.type|public$(ctx context.Context, $.type|private$Obj *$.type|raw$) error \x7b",
  "\tklog.Infof(\"create $.type|lowercaseSingular$ %v\", $.type|private$Obj.Name)",
  "\treturn nil",
  "\x7d"]

/-- The service method that returns an object. -/
def getMethod : Text := Text.ofLines [
  "",
  "// Get$.type|public$ returns one of the stored $.type|publicPlural$.",
  "func (s *service) Get$.type|public$(ctx context.Context, name string) (*$.type|raw$, error) \x7b",
  "\tklog.Infof(\"get $.type|lowercaseSingular$ %v\", name)",
  "\treturn nil, fmt.Errorf(\"$.type|lowercaseSingular$ %q not found\", name)",
  "\x7d"]

/-- The service method that updates an object. -/
def updateMethod : Text := Text.ofLines [
  "",
  "// Update$.type|public$ replaces a stored $.type|public$.",
  "func (s *service) Update$.type|public$(ctx context.Context, $.type|private$Obj *$.type|raw$) error \x7b",
  "\tif _, err := s.Get$.type|public$(ctx, $.type|private$Obj.Name); err != nil \x7b",
  "\t\tklog.Errorf(\"get $.type|lowercaseSingular$ %v failed with:%v\", $.type|private$Obj.Name, err)",
  "\t\treturn err",
  "\t\x7d",
  "\tklog.Infof(\"update $.type|lowercaseSingular$ %v\", $.type|private$Obj.Name)",
  "\treturn nil",
  "\x7d"]

/-- The service method that deletes an object. -/
def deleteMethod : Text := Text.ofLines [
  "",
  "// Delete$.type|public$ removes the $.type|public$ called name.",
  "func (s *service) Delete$.type|public$(ctx context.Context, name string) error \x7b",
  "\tif _, err := s.Get$.type|public$(ctx, name); err != nil \x7b",
  "\t\tklog.Errorf(\"get $.type|lowercaseSingular$ %v failed with:%v\", name, err)",
  "\t\treturn err",
  "\t\x7d",
  "\tklog.Infof(\"delete $.type|lowercaseSingular$ %v\", name)",
  "\treturn nil",
  "\x7d"]

/-! ## Packages -/

/-- The controller of a type: its struct, its constructor, four handlers and their routes. -/
def typeController (s : Scaffold) (d : Declaration) : Package where
  kind := .typeController
  name := d.stem
  path := s.controllerPath d
  header := s.header
  documentation := some
    ("// Package " ++ d.stem ++ " has the generated " ++ Text.capitalize d.name.base ++
      " controller.\n")
  generators := [
    { s.typeGenerator (s.controllerPath d) d with
      imports := [s.path controllerDir, "encoding/json", "net/http", "github.com/gorilla/mux"]
      externs := ["controller", "json", "http", "mux"]
      snippets := [
        ⟨"struct", controllerStruct, ["struct"], ["controller"]⟩,
        ⟨"new", newController, ["New"], ["struct", "controller"]⟩,
        ⟨"create-handler", createHandler, ["create"], ["struct", "controller", "json", "http"]⟩,
        ⟨"get-handler", getHandler, ["get"], ["struct", "controller", "mux", "http"]⟩,
        ⟨"update-handler", updateHandler, ["update"], ["struct", "controller", "json", "http"]⟩,
        ⟨"delete-handler", deleteHandler, ["delete"], ["struct", "controller", "json", "http"]⟩,
        ⟨"register", registerRoutes, ["Register"],
          ["struct", "mux", "create", "get", "update", "delete"]⟩] }]

/-- The service methods of a type. -/
def typeService (s : Scaffold) (d : Declaration) : Package where
  kind := .typeService
  name := "service"
  path := s.path serviceDir
  header := s.header
  generators := [
    { s.typeGenerator (s.path serviceDir) d with
      imports := ["context", "fmt", "k8s.io/klog"]
      externs := ["service", "context", "fmt", "klog"]
      snippets := [
        ⟨"create", createMethod, ["Create"], ["service", "context", "klog"]⟩,
        ⟨"get", getMethod, ["Get"], ["service", "context", "fmt", "klog"]⟩,
        ⟨"update", updateMethod, ["Update"], ["service", "Get", "klog"]⟩,
        ⟨"delete", deleteMethod, ["Delete"], ["service", "Get", "klog"]⟩] }]

end RestScaffold.Scaffold
