import TenantGateway.Fault
import TenantGateway.Issuer
import TenantGateway.Json.Parser
import TenantGateway.Schema.Reading

/-! # Settings

Settings of the gateway. Each comes from the arguments it is started with, or else from the
environment, or else has a default.
-/
namespace TenantGateway

open Schema Text

structure Settings where
  appName : String
  appVersion : String
  debug : Bool
  logLevel : String
  root : String
  origins : List String
  engineUrl : String
  streamFormat : String
  streamKind : String
  channelsUrl : String
  authorityUrl : String
  publicAuthorityUrl : Option String
  realm : String
  clientId : String
  timeout : Binary64
  deriving DecidableEq, Repr

abbrev Environment := List (String × String)

namespace Settings

def model : String := "Settings"

def keys : List String :=
  ["app_name", "app_version", "debug", "log_level", "api_prefix", "cors_origins", "kuiper_url",
    "stream_format", "stream_type", "things_url", "keycloak_url", "keycloak_public_url",
    "keycloak_realm", "keycloak_client_id", "request_timeout"]

def readFields (fields : Json.Fields) : Reading Settings :=
  (optional ⟨"app_name", none⟩ text "Rules Gateway" fields).map Settings.mk
    |>.ap (optional ⟨"app_version", none⟩ text "1.0.0" fields)
    |>.ap (optional ⟨"debug", none⟩ truth false fields)
    |>.ap (optional ⟨"log_level", none⟩ text "INFO" fields)
    |>.ap (optional ⟨"api_prefix", none⟩ text "/api/rules-engine" fields)
    |>.ap (optional ⟨"cors_origins", none⟩ (list text) ["*"] fields)
    |>.ap (optional ⟨"kuiper_url", none⟩ text "http://localhost:9081" fields)
    |>.ap (optional ⟨"stream_format", none⟩ text "json" fields)
    |>.ap (optional ⟨"stream_type", none⟩ text "mainflux" fields)
    |>.ap (optional ⟨"things_url", none⟩ text "http://things:8182" fields)
    |>.ap (optional ⟨"keycloak_url", none⟩ text "http://keycloak-service:8080" fields)
    |>.ap (optional ⟨"keycloak_public_url", none⟩ textOrNull none fields)
    |>.ap (optional ⟨"keycloak_realm", none⟩ text "nekazari" fields)
    |>.ap (optional ⟨"keycloak_client_id", none⟩ text "account" fields)
    |>.ap (optional ⟨"request_timeout", none⟩ real (.ofInt 10) fields)

/-- A name in lower case. The sign for kelvin counts as a K. -/
def folded (name : String) : String :=
  name.map fun c => if c.toNat = 0x212A then 'k' else c.toLower

/-- Arguments under the names of settings, whatever the case they are written in. Of several that
name one setting, the first counts. -/
def named (arguments : Json.Fields) : Json.Fields :=
  keys.filterMap fun key =>
    (arguments.find? fun (name, _) => folded name == key).map fun (_, v) => (key, v)

def lookupKeys : List String :=
  ["_case_sensitive", "_env_prefix", "_env_ignore_empty", "_env_parse_none_str", "_env_file",
    "_env_file_encoding", "_env_nested_delimiter", "_env_nested_max_split", "_env_parse_enums",
    "_env_prefix_target", "_nested_model_default_partial_update", "_secrets_dir",
    "_build_sources", "_cli_prog_name", "_cli_parse_args", "_cli_settings_source",
    "_cli_parse_none_str", "_cli_hide_none_type", "_cli_avoid_json", "_cli_enforce_required",
    "_cli_use_class_docs_for_groups", "_cli_exit_on_error", "_cli_prefix",
    "_cli_flag_prefix_char", "_cli_implicit_flags", "_cli_ignore_unknown_args",
    "_cli_kebab_case", "_cli_shortcuts"]

def strangers (arguments : Json.Fields) : List Problem :=
  (arguments.filter fun (name, _) =>
      !keys.contains (folded name) && !lookupKeys.contains name).map
    fun (name, v) => ⟨.unknown, [.key name], v⟩

/-- How settings are looked up in the environment: whether the case of names counts, what names
start with, whether empty values count as none, which value stands for null, and what divides the
name of a setting from the name of a part of it. -/
structure Lookup where
  exact : Bool
  start : String
  skipsEmpty : Bool
  nullText : Option String
  divider : Option String
  deriving DecidableEq, Repr

namespace Lookup

def usual : Lookup := ⟨false, "RULES_GATEWAY_", false, none, none⟩

def textOf? (arguments : Json.Fields) (key : String) : Option String :=
  match arguments.lookup key with
  | some (.str s) => some s
  | _ => none

def ofArguments (arguments : Json.Fields) : Lookup where
  exact := ((arguments.lookup "_case_sensitive").map Json.isTruthy).getD usual.exact
  start := (textOf? arguments "_env_prefix").getD usual.start
  skipsEmpty := ((arguments.lookup "_env_ignore_empty").map Json.isTruthy).getD usual.skipsEmpty
  nullText := textOf? arguments "_env_parse_none_str"
  divider := textOf? arguments "_env_nested_delimiter"

def plain (l : Lookup) (name : String) : String := if l.exact then name else folded name

def relevant (l : Lookup) (env : Environment) : Environment :=
  env.filter fun (_, value) => !(l.skipsEmpty && value == "")

/-- The value of a setting's variable. Of several spellings, the last counts. -/
def valueIn? (l : Lookup) (env : Environment) (key : String) : Option String :=
  ((l.relevant env).reverse.find? fun (name, _) => l.plain name == l.plain (l.start ++ key)).map
    (·.2)

def partsIn (l : Lookup) (env : Environment) (key : String) : Json.Fields :=
  match l.divider with
  | none | some "" => []
  | some divider =>
    let start := (l.plain (l.start ++ key)).toList ++ divider.toList
    (l.relevant env).filterMap fun (name, value) =>
      (start.isPrefixOf? (l.plain name).toList).map fun part => (String.ofList part, .str value)

end Lookup

/-- Settings in the environment are texts, but for the list of origins, which is JSON, or parts with
variables of their own; null there leaves the default. -/
def fromEnvironment (l : Lookup) (env : Environment) : Except Fault Json.Fields :=
  let isNull (s : String) : Bool := l.nullText == some s
  let texts := (keys.filter (· != "cors_origins")).filterMap fun key =>
    (l.valueIn? env key).map fun s => (key, if isNull s then Json.null else Json.str s)
  match l.valueIn? env "cors_origins" with
  | none =>
    match l.partsIn env "cors_origins" with
    | [] => .ok texts
    | parts => .ok (("cors_origins", .obj parts) :: texts)
  | some s =>
    if isNull s then .ok (("cors_origins", .null) :: texts)
    else
      match Json.parse s with
      | .error (.grammar _) | .error (.digits _) => .error (.environment "cors_origins")
      | .error (.depth c) => .error (.tooDeep c)
      | .ok .null => .ok texts
      | .ok v => .ok (("cors_origins", v) :: texts)

/-- The settings that arguments and environment give. Problems of arguments that name no setting
come last. -/
def read (arguments : Json.Fields) (env : Environment) : Except Fault Settings :=
  match fromEnvironment (.ofArguments arguments) env with
  | .error f => .error f
  | .ok fields =>
    match readFields (named arguments ++ fields), strangers arguments with
    | .ok s, [] => .ok s
    | .ok _, extra => .error (.schema model extra)
    | .error ps, extra => .error (.schema model (ps ++ extra))

def usual : Settings where
  appName := "Rules Gateway"
  appVersion := "1.0.0"
  debug := false
  logLevel := "INFO"
  root := "/api/rules-engine"
  origins := ["*"]
  engineUrl := "http://localhost:9081"
  streamFormat := "json"
  streamKind := "mainflux"
  channelsUrl := "http://things:8182"
  authorityUrl := "http://keycloak-service:8080"
  publicAuthorityUrl := none
  realm := "nekazari"
  clientId := "account"
  timeout := .ofInt 10

theorem read_nil : read [] [] = .ok usual := rfl

/-- The URL of a realm of an authority. Its path starts with `/auth` whether or not the authority's
URL ends so. -/
def realmUrl (authority realm : String) : String :=
  let base := dropTrailing '/' authority
  (if "/auth".toList.isSuffixOf base.toList then base else base ++ "/auth") ++ "/realms/" ++ realm

def issuerUrl (s : Settings) : String := realmUrl s.authorityUrl s.realm

def keySetUrl (s : Settings) : String := s.issuerUrl ++ "/protocol/openid-connect/certs"

def allowedIssuers (s : Settings) : List String :=
  let internal := Issuer.variants s.issuerUrl
  match s.publicAuthorityUrl with
  | none => internal
  | some url =>
    if url = "" then internal
    else Issuer.union internal (Issuer.variants (realmUrl url s.realm))

def toJson (s : Settings) : Json :=
  .obj [("app_name", .str s.appName), ("app_version", .str s.appVersion), ("debug", .bool s.debug),
    ("log_level", .str s.logLevel), ("api_prefix", .str s.root),
    ("cors_origins", .arr (s.origins.map .str)), ("kuiper_url", .str s.engineUrl),
    ("stream_format", .str s.streamFormat), ("stream_type", .str s.streamKind),
    ("things_url", .str s.channelsUrl), ("keycloak_url", .str s.authorityUrl),
    ("keycloak_public_url",
      match s.publicAuthorityUrl with | some url => .str url | none => .null),
    ("keycloak_realm", .str s.realm), ("keycloak_client_id", .str s.clientId),
    ("request_timeout", .number s.timeout)]

/-- One look at the settings under an environment: those kept from before, or else read now and
kept if they can be. -/
def look (kept : Option Settings) (env : Environment) : Except Fault Settings × Option Settings :=
  match kept with
  | some s => (.ok s, some s)
  | none =>
    match read [] env with
    | .ok s => (.ok s, some s)
    | .error f => (.error f, none)

def lookAll (kept : Option Settings) : List Environment → List (Except Fault Settings)
  | [] => []
  | env :: rest =>
    let (outcome, kept) := look kept env
    outcome :: lookAll kept rest

end Settings

end TenantGateway
