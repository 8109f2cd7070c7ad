import RestScaffold.Scaffold.Basic

/-!
# Packages that all types share

The options and reply helpers of the controllers, the interface of the service and the
authentication middleware. Only the interface depends on the types, which it lists in order.
-/

namespace RestScaffold.Scaffold

/-! ## Templates -/

/-- The options that every controller gets. -/
def controllerOptions : Text := Text.ofLines [
  "",
  "// Options contains the config used by every controller.",
  "type Options struct \x7b",
  "\tKubeClientset kubernetes.Interface",
  "\tService       service.Interface",
  "\x7d"]

/-- What a controller is. -/
def controllerInterface : Text := Text.ofLines [
  "",
  "// Controller registers its routes on a router.",
  "type Controller interface \x7b",
  "\tRegister(router *mux.Router)",
  "\x7d"]

/-- The body of a reply. -/
def responseStruct : Text := Text.ofLines [
  "",
  "type commResp struct \x7b",
  "\tCode    string      `json:\"code\"`",
  "\tMessage interface\x7b\x7d `json:\"message\"`",
  "\x7d"]

/-- A helper that replies with a message of the caller. -/
def messageHelper (name code status : Text) : Text := Text.ofLines [
  "",
  "// " ++ name ++ " replies with " ++ code ++ " and message.",
  "func " ++ name ++ "(w http.ResponseWriter, r *http.Request, message string) \x7b",
  "\tResponse(w, r, http.Status" ++ status ++ ", message)",
  "\x7d"]

/-- A helper that replies with the text of an error. -/
def errorHelper (name code status : Text) : Text := Text.ofLines [
  "",
  "// " ++ name ++ " replies with " ++ code ++ " and the error text.",
  "func " ++ name ++ "(w http.ResponseWriter, r *http.Request, err error) \x7b",
  "\tResponse(w, r, http.Status" ++ status ++ ", err.Error())",
  "\x7d"]

/-- One helper for each kind of reply. -/
def replyHelpers : Text :=
  messageHelper "OK" "200" "OK" ++
  messageHelper "ResourceNotFound" "404" "NotFound" ++
  errorHelper "BadRequest" "400" "BadRequest" ++
  errorHelper "Forbidden" "403" "Forbidden" ++
  errorHelper "Unauthorized" "401" "Unauthorized" ++
  errorHelper "InternalError" "500" "InternalServerError" ++
  errorHelper "ServiceUnavailable" "503" "ServiceUnavailable" ++
  errorHelper "Conflict" "409" "Conflict"

/-- The function that all the helpers go through. -/
def respondFunction : Text := Text.ofLines [
  "",
  "// Response writes message as a JSON body with httpCode.",
  "func Response(w http.ResponseWriter, r *http.Request, httpCode int, message interface\x7b\x7d) \x7b",
  "\tresp := commResp\x7b",
  "\t\tCode:    http.StatusText(httpCode),",
  "\t\tMessage: message,",
  "\t\x7d",
  "",
  "\tbody, err := json.Marshal(resp)",
  "\tif err != nil \x7b",
  "\t\tklog.Errorf(\"marshal [%v] failed with err [%v]\", resp, err)",
  "\t\x7d",
  "\tw.Header().Set(\"Pragma\", \"no-cache\")",
  "\tw.Header().Set(\"Content-Type\", \"application/json\")",
  "\tw.WriteHeader(httpCode)",
  "\tw.Write(body)",
  "\x7d"]

/-- The helpers and the function behind them. -/
def responseHelpers : Text := replyHelpers ++ respondFunction

/-- The options of the service. -/
def serviceOptions : Text := Text.ofLines [
  "",
  "// Options contains the config used by the service.",
  "type Options struct \x7b",
  "\tKubeClientset kubernetes.Interface",
  "\x7d"]

/-- The methods of the service, four for each type. -/
def serviceInterface : Text := Text.ofLines [
  "",
  "// Interface lists every service method.",
  "type Interface interface \x7b",
  "$range types$\tCreate$.|public$(ctx context.Context, $.|private$Obj *$.|raw$) error",
  "\tGet$.|public$(ctx context.Context, name string) (*$.|raw$, error)",
  "\tUpdate$.|public$(ctx context.Context, $.|private$Obj *$.|raw$) error",
  "\tDelete$.|public$(ctx context.Context, name string) error",
  "$end$\x7d"]

/-- The type that has the methods. -/
def serviceStruct : Text := Text.ofLines [
  "",
  "// service implements Interface.",
  "type service struct \x7b",
  "\topt *Options",
  "\x7d"]

/-- The constructor of the service. -/
def newService : Text := Text.ofLines [
  "",
  "// New creates a service.",
  "func New(opt *Options) Interface \x7b",
  "\treturn &service\x7bopt: opt\x7d",
  "\x7d"]

/-- The check of the bearer token. -/
def authenticate : Text := Text.ofLines [
  "",
  "// Authenticate rejects requests whose bearer token differs from the configured token.",
  "func Authenticate(next http.Handler) http.HandlerFunc \x7b",
  "\treturn func(w http.ResponseWriter, r *http.Request) \x7b",
  "\t\tparts := strings.SplitN(r.Header.Get(\"Authorization\"), \" \", 2)",
  "\t\tif len(parts) == 2 && parts[0] == \"Bearer\" && parts[1] == viper.GetString(\"token\") \x7b",
  "\t\t\tnext.ServeHTTP(w, r)",
  "\t\t\treturn",
  "\t\t\x7d",
  "\t\tcontroller.Unauthorized(w, r, fmt.Errorf(\"authenticate failed, please check your token\"))",
  "\t\x7d",
  "\x7d"]

/-! ## Packages -/

/-- The options and the helpers of the controllers. -/
def controllerMeta (s : Scaffold) : Package where
  kind := .controllerMeta
  name := "controller"
  path := s.path controllerDir
  header := s.header
  documentation := some
    ("// Package controller has the generated controller options and response helpers.\n" : Text)
  generators := [
    { s.sharedGenerator (s.path controllerDir) "controller" with
      imports := [s.path serviceDir, "github.com/gorilla/mux", "k8s.io/client-go/kubernetes"]
      externs := ["service", "mux", "kubernetes"]
      snippets := [
        ⟨"options", controllerOptions, ["Options"], ["kubernetes", "service"]⟩,
        ⟨"controller-interface", controllerInterface, ["Controller"], ["mux"]⟩] },
    { s.sharedGenerator (s.path controllerDir) "utils" with
      imports := ["encoding/json", "net/http", "k8s.io/klog"]
      externs := ["json", "http", "klog"]
      snippets := [
        ⟨"response-struct", responseStruct, ["commResp"], []⟩,
        ⟨"response-helpers", responseHelpers, ["Response", "OK", "BadRequest", "Unauthorized"],
          ["commResp", "Response", "json", "http", "klog"]⟩] }]

/-- The interface of the service with the methods of every type. -/
def serviceInterfaceOf (s : Scaffold) (types : List Declaration) : Package where
  kind := .serviceInterface
  name := "service"
  path := s.path serviceDir
  header := s.header
  documentation := some
    ("// Package service has the generated service interface and implementations.\n" : Text)
  generators := [
    { s.listingGenerator (s.path serviceDir) "interface" types with
      imports := ["context", "k8s.io/client-go/kubernetes"]
      externs := ["context", "kubernetes"]
      snippets := [
        ⟨"options", serviceOptions, ["Options"], ["kubernetes"]⟩,
        ⟨"interface", serviceInterface, ["Interface"], ["context"]⟩,
        ⟨"service-struct", serviceStruct, ["service"], ["Options"]⟩,
        ⟨"new", newService, ["New"], ["Options", "Interface", "service"]⟩] }]

/-- The authentication middleware. -/
def middleware (s : Scaffold) : Package where
  kind := .middleware
  name := "middleware"
  path := s.path middlewareDir
  header := s.header
  documentation := some
    ("// Package middleware has the generated authentication middleware.\n" : Text)
  generators := [
    { s.sharedGenerator (s.path middlewareDir) "auth" with
      imports := ["fmt", "net/http", "strings", "github.com/spf13/viper", s.path controllerDir]
      externs := ["fmt", "http", "strings", "viper", "controller"]
      snippets := [
        ⟨"authenticate", authenticate, ["Authenticate"],
          ["http", "strings", "viper", "controller", "fmt"]⟩] }]

end RestScaffold.Scaffold
