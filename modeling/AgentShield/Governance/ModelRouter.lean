import AgentShield.Governance.MoneyRules
import AgentShield.Governance.Urls
import AgentShield.Sdk.Schema

/-!
# The model router

The profile of a deployment binds every role to a model: a provider, a transport and, for
the OpenAI-compatible servers, the URL of the server.
-/

namespace AgentShield.Governance

open AgentShield.Lib AgentShield.Sdk

/-! ## Bindings -/

def guardianRoles : List String := ["defender", "evaluator", "supervisor", "auditor"]

/-- The providers that a configuration can name: one cloud, any server that speaks the OpenAI
protocol, and models in the process. -/
inductive Provider
  | anthropic
  | openaiCompat
  | local
  deriving DecidableEq

def Provider.value : Provider → String
  | anthropic => "anthropic"
  | openaiCompat => "openai_compat"
  | .local => "local"

def Provider.ofText (s : String) : Option Provider :=
  [Provider.anthropic, .openaiCompat, .local].find? (·.value = s)

/-- The transport of a role that names none. -/
def Provider.defaultServedVia : Provider → ServedVia
  | anthropic => .cloud
  | openaiCompat => .local
  | .local => .local

/-- The model that a role is served by, with the endpoint, the name of the variable that holds
its key, and its limits. -/
structure ResolvedModel where
  role : String
  provider : Provider
  model : String
  servedVia : ServedVia
  baseUrl : Option String := none
  apiKeyEnv : String := "SHIELD_LLM_KEY"
  temperature : PyFloat := 0
  maxTokens : Option Int := none
  enabled : Bool := true

/-- What a malformed profile raises: a type or value error with its message, or another
exception. -/
inductive RouterError
  | malformed (message : String)
  | other (exc : PyError)

abbrev RouterResult := Except RouterError

def malformed {α : Type} (message : String) : RouterResult α := .error (.malformed message)

/-! ## Values of a profile -/

/-- `bool(value)`: zero and what is empty are false, and every other value is true. -/
def truthy : Json → Bool
  | .null => false
  | .bool b => b
  | .int i => i ≠ 0
  | .float x => x ≠ 0
  | .str s => s ≠ ""
  | .arr xs => !xs.isEmpty
  | .obj xs => !xs.isEmpty

def typeName : Json → String
  | .null => "NoneType"
  | .bool _ => "bool"
  | .int _ => "int"
  | .float _ => "float"
  | .str _ => "str"
  | .arr _ => "list"
  | .obj _ => "dict"

section Resolution

variable (text : UrlText)

/-- `str(value).strip()`. -/
def strippedText (value : Json) : String :=
  String.ofList (stripped text (text.strOf value).toList)

/-- `float(value)`. -/
def floatOfValue (value : Json) : RouterResult PyFloat :=
  match floatCaught text.toPyText value with
  | .ok (some x) => .ok x
  | .ok none => malformed (text.conversionError value)
  | .error exc => .error (.other exc)

/-- `int(value)`: a float loses its fraction, an infinite one raises an `OverflowError`, and
any other value that is no integer is a malformed configuration. -/
def intOfValue : Json → RouterResult Int
  | .int i => .ok i
  | .bool b => .ok (if b then 1 else 0)
  | .float (.finite q) => .ok (if q < 0 then -((-q).floor) else q.floor)
  | .float .nan => malformed (text.conversionError (.float .nan))
  | .float _ => .error (.other .overflowError)
  | .str s =>
      match intOfText text s.toList with
      | some i => .ok i
      | none => malformed (text.conversionError (.str s))
  | value => malformed (text.conversionError value)

/-- Where a model is served, read from the configuration; any other text is malformed. -/
def servedViaOf (value : Json) : RouterResult ServedVia :=
  match [ServedVia.cloud, .local].find? (·.value = text.strOf value) with
  | some served => .ok served
  | none =>
      malformed (text.reprValue (.str (text.strOf value)) ++ " is not a valid ServedVia")

/-- The enabled binding of a role.  The fields are checked in the order of the source, so that
the first malformed one names the error. -/
def resolveEnabled (role : String) (spec : List (String × Json)) : RouterResult ResolvedModel := do
  let field (key : String) (default : Json) := (Dict.get? spec key).getD default
  let quoted := text.reprValue (.str role)
  let providerText := strippedText text (field "provider" (.str ""))
  let provider ← match Provider.ofText providerText with
    | some provider => .ok provider
    | none =>
        malformed ("router role " ++ quoted ++ ": provider must be one of " ++
          "['anthropic', 'local', 'openai_compat'], got " ++ text.reprValue (.str providerText))
  let model := strippedText text (field "model" (.str ""))
  if model = "" then malformed ("router role " ++ quoted ++ ": 'model' is required")
  let servedVia ← match field "served_via" .null with
    | .null => .ok provider.defaultServedVia
    | value => servedViaOf text value
  let baseUrl := match field "base_url" .null with
    | .null => none
    | value => some (text.strOf value)
  if provider = .openaiCompat ∧ (baseUrl.getD "") = "" then
    malformed ("router role " ++ quoted ++ ": provider 'openai_compat' requires 'base_url'")
  let maxTokens ← match field "max_tokens" .null with
    | .null => .ok none
    | value => (intOfValue text value).map some
  let defaultKeyEnv := if provider = .anthropic then "ANTHROPIC_API_KEY" else "SHIELD_LLM_KEY"
  let temperature ← floatOfValue text (field "temperature" (.float 0))
  return {
    role, provider, model, servedVia, baseUrl, temperature, maxTokens
    apiKeyEnv := text.strOf (field "api_key_env" (.str defaultKeyEnv)) }

/-- The binding of a role; a disabled one is local and names its model only. -/
def resolve (role : String) : Json → RouterResult ResolvedModel
  | .obj spec =>
      if truthy ((Dict.get? spec "enabled").getD (.bool true)) then resolveEnabled text role spec
      else
        .ok
          { role, provider := .local, servedVia := .local, enabled := false
            model := text.strOf ((Dict.get? spec "model").getD (.str "<disabled>")) }
  | spec =>
      malformed ("router role " ++ text.reprValue (.str role) ++
        ": spec must be a mapping, got " ++ typeName spec)

/-! ## Profiles -/

/-- A router: its profile and the models of the roles. -/
structure ShieldModelRouter where
  profile : String
  roles : List ResolvedModel

/-- The keys in order, as a list is printed. -/
def sortedKeys (keys : List String) : String :=
  text.reprValue (.arr ((keys.mergeSort fun k k' => decide (k ≤ k')).map .str))

/-- Exactly the four guardians have a role: a missing one and one too many are the same error,
which lists the names that were found. -/
def guardiansOf (cfg : List (String × Json)) : RouterResult (List (String × Json)) :=
  let needed := "ShieldModelRouter config: 'guardians' must contain exactly " ++
    sortedKeys text guardianRoles
  match (Dict.get? cfg "guardians").getD .null with
  | .obj guardians =>
      let keys := guardians.map Prod.fst
      if keys.all (guardianRoles.contains ·) && guardianRoles.all (keys.contains ·) then
        .ok guardians
      else malformed (needed ++ " (got " ++ sortedKeys text keys ++ ")")
  | value => malformed (needed ++ " (got " ++ text.reprValue value ++ ")")

/-- The other roles, none of which is a guardian's, so that merging the two changes no
guardian. -/
def auxRolesOf (cfg : List (String × Json)) : RouterResult (List (String × Json)) :=
  match (Dict.get? cfg "aux_roles").getD .null with
  | .null => .ok []
  | .obj aux =>
      let overlap := guardianRoles.filter ((aux.map Prod.fst).contains ·)
      if overlap = [] then .ok aux
      else
        malformed ("ShieldModelRouter config: 'aux_roles' must not redeclare guardian roles " ++
          sortedKeys text overlap)
  | _ => malformed "ShieldModelRouter config: 'aux_roles' must be a mapping"

/-- `ShieldModelRouter`: a configuration is read role by role, guardians first, and the first
error ends it.  A profile without a name is an error of its own. -/
def shieldModelRouter (cfg : List (String × Json)) : RouterResult ShieldModelRouter := do
  let profile := strippedText text ((Dict.get? cfg "profile").getD (.str ""))
  if profile = "" then malformed "ShieldModelRouter config: 'profile' is required"
  let guardians ← guardiansOf text cfg
  let aux ← auxRolesOf text cfg
  let merged := aux.foldl (fun roles (name, spec) => Dict.set roles name spec) guardians
  let roles ← merged.mapM fun (name, spec) => resolve text name spec
  return { profile, roles }

end Resolution

end AgentShield.Governance
