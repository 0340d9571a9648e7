import TenantGateway.Http.Route
import TenantGateway.Settings
import TenantGateway.Text.Case
import TenantGateway.Text.Quoted

/-! # The gateway as a whole

Putting the gateway together from its settings: what it is called, what it logs and what it offers.
-/
namespace TenantGateway

structure App where
  settings : Settings

namespace App

def logFormat : String := "%(asctime)s - %(name)s - %(levelname)s - %(message)s"

def level? : String → Option Nat
  | "CRITICAL" | "FATAL" => some 50
  | "ERROR" => some 40
  | "WARNING" | "WARN" => some 30
  | "INFO" => some 20
  | "DEBUG" => some 10
  | "NOTSET" => some 0
  | _ => none

def logLevel (s : Settings) : Except Fault Nat :=
  let name := Text.capitals s.logLevel
  match level? name with
  | none => .error (.value ("Unknown level: " ++ Text.quoted name))
  | some level => .ok level

def routeObjection? (r : Http.Route) : Option Fault :=
  match Http.Template.objection? r.path, r.operation.bodyName? with
  | some (.unknownKind name), _ =>
    some (.assertion (Http.Template.Objection.unknownKind name).text)
  | some o, _ => some (.value o.text)
  | none, some name =>
    if r.template.announced.contains name then
      some (.assertion "Path params must be of one of the supported types")
    else none
  | none, none => none

/-- What is wrong with a title or a version, with a root path or with the routes under it. A root
path is empty, or starts with a slash and does not end with one. -/
def objection? (s : Settings) : Option Fault :=
  if s.appName = "" then
    some (.assertion "A title must be provided for OpenAPI, e.g.: 'My API'")
  else if s.appVersion = "" then
    some (.assertion "A version must be provided for OpenAPI, e.g.: '2.1.0'")
  else if s.root ≠ "" ∧ s.root.toList.head? ≠ some '/' then
    some (.assertion "Routed paths must start with '/'")
  else
    match (Http.pages s.root).findSome? routeObjection? with
    | some f => some f
    | none =>
      if s.root.toList.getLast? = some '/' then
        some (.assertion "A path prefix must not end with '/', as the routes will start with '/'")
      else (Http.operations s.root).findSome? routeObjection?

def assemble (s : Settings) : Except Fault App :=
  match objection? s with
  | some f => .error f
  | none => .ok ⟨s⟩

/-- A gateway from its settings, and the level of its log, which is looked at first. -/
def start (s : Settings) : Except Fault (App × Nat) :=
  (logLevel s).bind fun level => (assemble s).map fun app => (app, level)

def pageUrl (a : App) (page : String) : String := a.settings.root ++ "/" ++ page

def operations (a : App) : List String :=
  Text.sorted ((Http.operations a.settings.root).map fun r => r.method ++ " " ++ r.template.text)

end App

end TenantGateway
