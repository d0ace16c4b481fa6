import AgentShield.Governance.ModelRouter

/-!
# The air-gap check of a local profile

The verifier accepts a profile when every enabled role is served locally, and it tells a
local endpoint by the text of its host: a loopback name, a suffix of the cluster, or the
beginning of a private address.  A name may begin like an address.  The endpoints of an
accepted profile are local exactly when none has such a name (`validated_local_iff`).
-/

namespace AgentShield.Governance

open AgentShield.Lib AgentShield.Sdk

/-! ## Results -/

inductive CheckStatus
  | pass
  | fail
  | skip
  deriving DecidableEq

structure CheckResult where
  name : String
  status : CheckStatus
  message : String

def passed (name message : String) : CheckResult := ⟨name, .pass, message⟩
def failed (name message : String) : CheckResult := ⟨name, .fail, message⟩

/-! ## Endpoints -/

def localEndpointSuffixes : List String := [".svc", ".cluster.local", ".local"]
def localEndpointHosts : List String := ["localhost", "127.0.0.1", "::1"]

section Endpoints

variable (text : UrlText)

/-- Four parts, the first of which is 172 and the second of which `int` reads as 16 to 31. -/
def is172Private (host : String) : Bool :=
  match host.toList.splitOn '.' with
  | [first, second, _, _] =>
      decide (first = "172".toList) &&
        (intOfText text second).any fun n => decide (16 ≤ n ∧ n ≤ 31)
  | _ => false

def isLocalHost (host : String) : Bool :=
  localEndpointHosts.contains host ||
    localEndpointSuffixes.any (fun suffix => decide (suffix.toList <:+ host.toList)) ||
    "10.".toList.isPrefixOf host.toList || "192.168.".toList.isPrefixOf host.toList ||
    is172Private text host

def isLocalEndpoint (baseUrl : String) : Except PyError Bool := do
  let parsed ← urlparse text baseUrl
  match parsed.hostname text with
  | none => return false
  | some host => return parsed.scheme == "http" && isLocalHost text host

/-! ## The check -/

/-- The role names a server, and a local one. -/
def hasLocalEndpoint (resolved : ResolvedModel) : Except PyError Bool :=
  match resolved.baseUrl with
  | none => .ok false
  | some url => if url = "" then .ok false else isLocalEndpoint text url

/-- What is not local about a role: its provider, the way it is served, the host of its
endpoint, or a key of a cloud provider.  A role that is switched off fails in nothing. -/
def routeFailures (resolved : ResolvedModel) : Except PyError (List String) := do
  if resolved.enabled = false then return []
  if resolved.provider = .anthropic then
    return [resolved.role ++ ": provider=" ++ resolved.provider.value]
  let transport :=
    if resolved.servedVia = .local then []
    else [resolved.role ++ ": served_via=" ++ resolved.servedVia.value]
  if resolved.provider ≠ .openaiCompat then return transport
  let quoted := match resolved.baseUrl with
    | none => "None"
    | some url => text.reprValue (.str url)
  let isLocal ← hasLocalEndpoint text resolved
  let endpoint := if isLocal then [] else [resolved.role ++ ": base_url=" ++ quoted]
  let apiKey :=
    if ["ANTHROPIC_API_KEY", "OPENAI_API_KEY"].contains resolved.apiKeyEnv then
      [resolved.role ++ ": api_key_env=" ++ resolved.apiKeyEnv]
    else []
  return transport ++ endpoint ++ apiKey

/-- A setting is exactly this truth value. -/
def isSetTo (settings : List (String × Json)) (key : String) (value : Bool) : Bool :=
  match Dict.get? settings key with
  | some (.bool b) => b == value
  | _ => false

def validateAirGapTelemetryConfig (cfg : List (String × Json)) : List CheckResult :=
  let airGap := (Dict.get? cfg "air_gap").getD .null
  let telemetry := match airGap with
    | .obj fields => (Dict.get? fields "telemetry").getD .null
    | _ => .null
  match telemetry with
  | .obj settings =>
      [if isSetTo settings "chroma_anonymized_telemetry" false then
          passed "chroma_telemetry" "Chroma anonymized telemetry disabled"
        else
          failed "chroma_telemetry"
            "air_gap.telemetry.chroma_anonymized_telemetry must be false",
        if isSetTo settings "langsmith_tracing" false &&
            isSetTo settings "langchain_tracing_v2" false then
          passed "langsmith_telemetry" "LangSmith/LangChain tracing disabled"
        else
          failed "langsmith_telemetry"
            "LangSmith/LangChain tracing must be disabled in the local profile",
        if isSetTo settings "huggingface_hub_offline" true &&
            isSetTo settings "transformers_offline" true then
          passed "offline_transformers" "HF Hub and Transformers offline mode set"
        else
          failed "offline_transformers"
            "HF_HUB_OFFLINE and TRANSFORMERS_OFFLINE must be true in the local profile"]
  | _ => [failed "chroma_telemetry" "models.local.yaml must define air_gap.telemetry"]

/-- A type or value error of the router is a failed check; other exceptions and those of the
URL parser are raised. -/
def validateLocalProfileConfig (cfg : List (String × Json)) :
    Except PyError (List CheckResult) :=
  match shieldModelRouter text cfg with
  | .error (.malformed message) =>
      .ok [failed "local_profile" ("local profile config is invalid: " ++ message)]
  | .error (.other exc) => .error exc
  | .ok router => do
      let profile :=
        if router.profile ≠ "local" then
          failed "local_profile"
            ("profile must be 'local', got " ++ text.reprValue (.str router.profile))
        else passed "local_profile" "models.local.yaml declares profile=local"
      let failures ← router.roles.mapM (routeFailures text)
      let routes :=
        if failures.flatten ≠ [] then
          failed "local_model_routes" ("local profile has non-local model routes: " ++
            "; ".intercalate failures.flatten)
        else
          passed "local_model_routes"
            "all enabled model-backed roles resolve to local/openai_compat endpoints"
      return profile :: routes :: validateAirGapTelemetryConfig cfg

end Endpoints

/-! ## Local hosts -/

/-- A decimal number of at most three digits, up to 255 and without leading zeros. -/
def octet? (part : List Char) : Option Nat :=
  if part ≠ [] ∧ part.length ≤ 3 ∧ part.all (Regex.inRange '0' '9') = true ∧
      (part.head? = some '0' → part.length = 1) then
    let n := part.foldl (fun n c => 10 * n + (c.toNat - 48)) 0
    if n ≤ 255 then some n else none
  else none

/-- The four octets of an IPv4 literal. -/
def ipv4? (host : String) : Option (Nat × Nat × Nat × Nat) :=
  match host.toList.splitOn '.' with
  | [a, b, c, d] => do return (← octet? a, ← octet? b, ← octet? c, ← octet? d)
  | _ => none

/-- A literal in 10.0.0.0/8, 172.16.0.0/12 or 192.168.0.0/16. -/
def PrivateIpv4 (host : String) : Prop :=
  ∃ a b c d, ipv4? host = some (a, b, c, d) ∧
    (a = 10 ∨ a = 172 ∧ 16 ≤ b ∧ b ≤ 31 ∨ a = 192 ∧ b = 168)

/-- A name under the suffixes of the cluster. -/
def ClusterLocal (host : String) : Prop :=
  ∃ suffix ∈ localEndpointSuffixes, suffix.toList <:+ host.toList

/-- A loopback name or address, a private address or a name of the cluster. -/
def LocalHost (host : String) : Prop :=
  host ∈ localEndpointHosts ∨ PrivateIpv4 host ∨ ClusterLocal host

/-- A name that begins like a private address, outside the cluster. -/
def LooksPrivate (text : UrlText) (host : String) : Prop :=
  ("10.".toList.isPrefixOf host.toList = true ∨
      "192.168.".toList.isPrefixOf host.toList = true ∨ is172Private text host = true) ∧
    ipv4? host = none ∧ ¬ ClusterLocal host

/-! ## Literals -/

section Literals

variable {text : UrlText}

theorem decimalTail_digits {ds : List Char} (h : ds.all (Regex.inRange '0' '9') = true)
    (n : Nat) :
    decimalTail text n ds = some (ds.foldl (fun n c => 10 * n + (c.toNat - 48)) n) := by
  induction ds generalizing n with
  | nil => rfl
  | cons c cs ih =>
      rw [List.all_cons, Bool.and_eq_true] at h
      have hNotUnderscore : c ≠ '_' := by
        intro hEq
        rw [hEq] at h
        exact absurd h.1 (by decide)
      have hStep : decimalTail text n (c :: cs) =
          (text.decimal c).bind fun d => decimalTail text (10 * n + d) cs := by
        rw [decimalTail]
        intro _ _ hEq
        exact absurd hEq hNotUnderscore
      rw [hStep, text.decimal_ascii c h.1, Option.bind_some, ih h.2]
      rfl

theorem stripped_digits {ds : List Char} (h : ds.all (Regex.inRange '0' '9') = true) :
    stripped text ds = ds := by
  have hKeep : ∀ l : List Char, (∀ c ∈ l, text.isSpace c = false) →
      l.dropWhile text.isSpace = l := by
    intro l hl
    cases l with
    | nil => rfl
    | cons c cs => rw [List.dropWhile_cons_of_neg (by simp [hl c List.mem_cons_self])]
  have hAll : ∀ c ∈ ds, text.isSpace c = false := fun c hc =>
    text.ascii_notSpace c (List.all_eq_true.1 h c hc)
  unfold stripped
  rw [hKeep ds hAll, hKeep ds.reverse fun c hc => hAll c (List.mem_reverse.1 hc),
    List.reverse_reverse]

/-- `int` reads an octet as its value. -/
theorem intOfText_octet {part : List Char} {n : Nat} (h : octet? part = some n) :
    intOfText text part = some (n : Int) := by
  unfold octet? at h
  by_cases hShape : part ≠ [] ∧ part.length ≤ 3 ∧ part.all (Regex.inRange '0' '9') = true ∧
      (part.head? = some '0' → part.length = 1)
  · rw [if_pos hShape] at h
    dsimp only at h
    have hDigits := hShape.2.2.1
    have hValue : part.foldl (fun n c => 10 * n + (c.toNat - 48)) 0 = n := by
      split at h
      · exact Option.some.inj h
      · cases h
    unfold intOfText
    rw [stripped_digits hDigits]
    cases part with
    | nil => exact absurd rfl hShape.1
    | cons c cs =>
        have hSplit := hDigits
        rw [List.all_cons, Bool.and_eq_true] at hSplit
        have hNotMinus : c ≠ '-' := by
          intro hEq
          rw [hEq] at hSplit
          exact absurd hSplit.1 (by decide)
        have hNotPlus : c ≠ '+' := by
          intro hEq
          rw [hEq] at hSplit
          exact absurd hSplit.1 (by decide)
        have hRead : decimalValue text (c :: cs) = some n := by
          rw [decimalValue, text.decimal_ascii c hSplit.1, Option.bind_some,
            decimalTail_digits hSplit.2]
          rw [List.foldl_cons] at hValue
          simpa using hValue
        split
        · rename_i hEq
          exact absurd (List.cons.inj hEq).1 hNotMinus
        · rename_i hEq
          exact absurd (List.cons.inj hEq).1 hNotPlus
        · rw [hRead]
          rfl
  · rw [if_neg hShape] at h
    cases h

/-- The parts of a literal. -/
theorem ipv4?_parts {host : String} {a b c d : Nat} (h : ipv4? host = some (a, b, c, d)) :
    ∃ p q r s, host.toList.splitOn '.' = [p, q, r, s] ∧ octet? p = some a ∧ octet? q = some b := by
  unfold ipv4? at h
  split at h
  · rename_i p q r s hSplit
    refine ⟨p, q, r, s, hSplit, ?_⟩
    simp only [Option.bind_eq_bind, Option.bind_eq_some_iff] at h
    obtain ⟨a', ha, b', hb, c', -, d', -, hAll⟩ := h
    cases hAll
    exact ⟨ha, hb⟩
  · cases h

/-- The first part of a text that begins with it. -/
theorem splitOn_front {front rest host : List Char} (hDot : '.' ∉ front)
    (h : host = front ++ '.' :: rest) : host.splitOn '.' = front :: rest.splitOn '.' := by
  rw [h]
  exact List.splitOn_append_cons_self_of_not_mem hDot rest

/-- **A literal that begins like a private address is one.** -/
theorem privateIpv4_of_literal {host : String} {a b c d : Nat}
    (h : ipv4? host = some (a, b, c, d))
    (hLooks : "10.".toList.isPrefixOf host.toList = true ∨
      "192.168.".toList.isPrefixOf host.toList = true ∨ is172Private text host = true) :
    PrivateIpv4 host := by
  obtain ⟨p, q, r, s, hSplit, ha, hb⟩ := ipv4?_parts h
  refine ⟨a, b, c, d, h, ?_⟩
  rcases hLooks with hTen | hHundred | hSeventy
  · obtain ⟨rest, hRest⟩ := List.isPrefixOf_iff_prefix.1 hTen
    have hFirst := @splitOn_front "10".toList rest host.toList (by decide) hRest.symm
    rw [hSplit] at hFirst
    have hPart : p = "10".toList := (List.cons.inj hFirst).1
    rw [hPart] at ha
    have hTenth : octet? "10".toList = some 10 := by decide
    exact .inl (Option.some.inj (ha.symm.trans hTenth))
  · obtain ⟨rest, hRest⟩ := List.isPrefixOf_iff_prefix.1 hHundred
    have hFirst := @splitOn_front "192".toList ("168".toList ++ '.' :: rest) host.toList
      (by decide) hRest.symm
    rw [hSplit, splitOn_front (by decide) rfl] at hFirst
    obtain ⟨hPart, hTail⟩ := List.cons.inj hFirst
    have hPart' : q = "168".toList := (List.cons.inj hTail).1
    rw [hPart] at ha
    rw [hPart'] at hb
    have hOuter : octet? "192".toList = some 192 := by decide
    have hInner : octet? "168".toList = some 168 := by decide
    exact .inr (.inr
      ⟨Option.some.inj (ha.symm.trans hOuter), Option.some.inj (hb.symm.trans hInner)⟩)
  · unfold is172Private at hSeventy
    rw [hSplit] at hSeventy
    dsimp only at hSeventy
    rw [intOfText_octet hb, Bool.and_eq_true, decide_eq_true_eq] at hSeventy
    obtain ⟨hPart, hRange⟩ := hSeventy
    rw [hPart] at ha
    have hOuter : octet? "172".toList = some 172 := by decide
    have hBounds : (16 : Int) ≤ b ∧ (b : Int) ≤ 31 := by simpa using hRange
    refine .inr (.inl ⟨Option.some.inj (ha.symm.trans hOuter), ?_, ?_⟩) <;> omega

/-- **The hosts that are taken for local ones** are local unless they only look private, which
a name with the first characters of a private address does. -/
theorem localHost_iff {host : String} (h : isLocalHost text host = true) :
    LocalHost host ↔ ¬ LooksPrivate text host := by
  unfold isLocalHost at h
  simp only [Bool.or_eq_true, List.contains_iff_mem, List.any_eq_true, decide_eq_true_eq] at h
  constructor
  · rintro hLocal ⟨hLooks, hNoLiteral, hNoCluster⟩
    rcases hLocal with hLoopback | ⟨a, b, c, d, hLiteral, -⟩ | hCluster
    · have hNone : ∀ host ∈ localEndpointHosts, "10.".toList.isPrefixOf host.toList = false ∧
          "192.168.".toList.isPrefixOf host.toList = false ∧
          (host.toList.splitOn '.').head? ≠ some "172".toList := by
        decide
      obtain ⟨hTen, hHundred, hFirst⟩ := hNone host hLoopback
      rw [hTen, hHundred] at hLooks
      have hSeventy : is172Private text host = true := by simpa using hLooks
      unfold is172Private at hSeventy
      split at hSeventy
      · rename_i first second _ _ hSplit
        rw [Bool.and_eq_true, decide_eq_true_eq] at hSeventy
        rw [hSplit, hSeventy.1] at hFirst
        exact hFirst rfl
      · cases hSeventy
    · rw [hLiteral] at hNoLiteral
      cases hNoLiteral
    · exact hNoCluster hCluster
  · intro hNot
    by_cases hCluster : ClusterLocal host
    · exact .inr (.inr hCluster)
    have hRest : host ∈ localEndpointHosts ∨ ("10.".toList.isPrefixOf host.toList = true ∨
        "192.168.".toList.isPrefixOf host.toList = true ∨ is172Private text host = true) := by
      rcases h with (((hLoopback | hSuffix) | hTen) | hHundred) | hSeventy
      · exact .inl hLoopback
      · exact absurd hSuffix hCluster
      · exact .inr (.inl hTen)
      · exact .inr (.inr (.inl hHundred))
      · exact .inr (.inr (.inr hSeventy))
    rcases hRest with hLoopback | hLooks
    · exact .inl hLoopback
    · cases hLiteral : ipv4? host with
      | none => exact absurd ⟨hLooks, hLiteral, hCluster⟩ hNot
      | some octets =>
          obtain ⟨a, b, c, d⟩ := octets
          exact .inr (.inl (privateIpv4_of_literal hLiteral hLooks))

end Literals

/-! ## Accepted profiles -/

/-- No check of the profile fails. -/
def Validated (text : UrlText) (cfg : List (String × Json)) : Prop :=
  ∃ results, validateLocalProfileConfig text cfg = .ok results ∧
    ∀ result ∈ results, result.status = .pass

/-- The host that the client of a role connects to.  A local reference has none. -/
def EndpointHost (text : UrlText) (resolved : ResolvedModel) (host : String) : Prop :=
  resolved.enabled = true ∧ resolved.provider = .openaiCompat ∧
    ∃ url parsed, resolved.baseUrl = some url ∧ urlparse text url = .ok parsed ∧
      parsed.hostname text = some host

section Profiles

variable {text : UrlText} {cfg : List (String × Json)}

/-- Every element of a list that was mapped has a result. -/
theorem exists_of_mapM_ok {ε α β : Type} {f : α → Except ε β} {xs : List α} {ys : List β}
    (h : xs.mapM f = .ok ys) : ∀ x ∈ xs, ∃ y ∈ ys, f x = .ok y := by
  induction xs generalizing ys with
  | nil => simp
  | cons x xs ih =>
      rw [List.mapM_cons] at h
      cases hx : f x with
      | error e =>
          rw [hx] at h
          cases h
      | ok y =>
          cases hxs : xs.mapM f with
          | error e =>
              rw [hx, hxs] at h
              cases h
          | ok ys' =>
              rw [hx, hxs] at h
              obtain rfl := Except.ok.inj h
              intro x' hx'
              rcases List.mem_cons.1 hx' with rfl | hx'
              · exact ⟨y, List.mem_cons_self, hx⟩
              · obtain ⟨y', hy', hfy⟩ := ih hxs x' hx'
                exact ⟨y', List.mem_cons_of_mem _ hy', hfy⟩

theorem endpointHost_of_local {resolved : ResolvedModel}
    (h : hasLocalEndpoint text resolved = .ok true) (hEnabled : resolved.enabled = true)
    (hCompat : resolved.provider = .openaiCompat) :
    ∃ host, EndpointHost text resolved host ∧ isLocalHost text host = true := by
  unfold hasLocalEndpoint at h
  cases hUrl : resolved.baseUrl with
  | none =>
      rw [hUrl] at h
      cases h
  | some url =>
      rw [hUrl] at h
      dsimp only at h
      by_cases hEmpty : url = ""
      · rw [if_pos hEmpty] at h
        cases h
      rw [if_neg hEmpty] at h
      unfold isLocalEndpoint at h
      cases hParsed : urlparse text url with
      | error exc =>
          rw [hParsed] at h
          cases h
      | ok parsed =>
          rw [hParsed] at h
          cases hHost : parsed.hostname text with
          | none =>
              simp only [hHost, bind, Except.bind] at h
              cases h
          | some host =>
              simp only [hHost, bind, Except.bind] at h
              have hBoth := Except.ok.inj h
              rw [Bool.and_eq_true] at hBoth
              exact ⟨host, ⟨hEnabled, hCompat, url, parsed, hUrl, hParsed, hHost⟩, hBoth.2⟩

/-- A role without objection is a local one, by its provider or by the host it names. -/
theorem localHost_of_routeFailures {resolved : ResolvedModel}
    (h : routeFailures text resolved = .ok []) (hEnabled : resolved.enabled = true) :
    resolved.provider ≠ .anthropic ∧ resolved.servedVia = .local ∧
      (resolved.provider = .openaiCompat →
        ∃ host, EndpointHost text resolved host ∧ isLocalHost text host = true) := by
  unfold routeFailures at h
  rw [if_neg (by rw [hEnabled]; decide)] at h
  by_cases hCloud : resolved.provider = .anthropic
  · rw [if_pos hCloud] at h
    cases h
  rw [if_neg hCloud] at h
  dsimp only at h
  by_cases hServed : resolved.servedVia = .local
  · rw [if_pos hServed] at h
    refine ⟨hCloud, hServed, fun hCompat => ?_⟩
    rw [if_neg (not_not.2 hCompat)] at h
    cases hLocal : hasLocalEndpoint text resolved with
    | error exc =>
        rw [hLocal] at h
        cases h
    | ok isLocal =>
        rw [hLocal] at h
        cases isLocal with
        | false => simp [bind, Except.bind, pure, Except.pure] at h
        | true => exact endpointHost_of_local hLocal hEnabled hCompat
  · rw [if_neg hServed] at h
    by_cases hCompat : resolved.provider ≠ .openaiCompat
    · rw [if_pos hCompat] at h
      cases h
    · rw [if_neg hCompat] at h
      cases hLocal : hasLocalEndpoint text resolved with
      | error exc =>
          rw [hLocal] at h
          cases h
      | ok isLocal =>
          rw [hLocal] at h
          cases h

/-- **What an accepted profile guarantees** of every enabled role: no cloud provider, local
service, and for a server an endpoint whose host is taken for a local one. -/
theorem validated_roles (h : Validated text cfg) :
    ∃ router, shieldModelRouter text cfg = .ok router ∧ router.profile = "local" ∧
      ∀ resolved ∈ router.roles, resolved.enabled = true →
        resolved.provider ≠ .anthropic ∧ resolved.servedVia = .local ∧
          (resolved.provider = .openaiCompat →
            ∃ host, EndpointHost text resolved host ∧ isLocalHost text host = true) := by
  obtain ⟨results, hResults, hPass⟩ := h
  unfold validateLocalProfileConfig at hResults
  cases hRouter : shieldModelRouter text cfg with
  | error exc =>
      rw [hRouter] at hResults
      cases exc with
      | malformed message =>
          obtain rfl := Except.ok.inj hResults
          have hFail := hPass _ List.mem_cons_self
          cases hFail
      | other exc => cases hResults
  | ok router =>
      rw [hRouter] at hResults
      dsimp only at hResults
      cases hFailures : router.roles.mapM (routeFailures text) with
      | error exc =>
          rw [hFailures] at hResults
          cases hResults
      | ok failures =>
          rw [hFailures] at hResults
          obtain rfl := Except.ok.inj hResults
          have hProfile := hPass _ List.mem_cons_self
          have hRoutes := hPass _ (List.mem_cons_of_mem _ List.mem_cons_self)
          have hLocal : router.profile = "local" := by
            by_contra hNot
            rw [if_pos hNot] at hProfile
            cases hProfile
          have hEmpty : failures.flatten = [] := by
            by_contra hNot
            rw [if_pos hNot] at hRoutes
            cases hRoutes
          refine ⟨router, rfl, hLocal, fun resolved hMem hEnabled => ?_⟩
          obtain ⟨found, hFound, hRoute⟩ := exists_of_mapM_ok hFailures resolved hMem
          have hNone : found = [] := List.flatten_eq_nil_iff.1 hEmpty found hFound
          rw [hNone] at hRoute
          exact localHost_of_routeFailures hRoute hEnabled

/-- Every enabled role of a server connects to a local host. -/
def ServedLocally (text : UrlText) (cfg : List (String × Json)) : Prop :=
  ∀ router, shieldModelRouter text cfg = .ok router → ∀ resolved ∈ router.roles,
    resolved.enabled = true → resolved.provider = .openaiCompat →
      ∃ host, EndpointHost text resolved host ∧ LocalHost host

/-- No role names a host that only looks private. -/
def NoLookalike (text : UrlText) (cfg : List (String × Json)) : Prop :=
  ∀ router, shieldModelRouter text cfg = .ok router → ∀ resolved ∈ router.roles,
    ∀ host, EndpointHost text resolved host → ¬ LooksPrivate text host

theorem EndpointHost.unique {resolved : ResolvedModel} {host host' : String}
    (h : EndpointHost text resolved host) (h' : EndpointHost text resolved host') :
    host = host' := by
  obtain ⟨-, -, url, parsed, hUrl, hParsed, hHost⟩ := h
  obtain ⟨-, -, url', parsed', hUrl', hParsed', hHost'⟩ := h'
  obtain rfl := Option.some.inj (hUrl.symm.trans hUrl')
  obtain rfl := Except.ok.inj (hParsed.symm.trans hParsed')
  exact Option.some.inj (hHost.symm.trans hHost')

/-- **An accepted profile is served locally exactly when no host only looks private.**  The
check reads a host by its first characters and two octets, so a name such as `10.example.com`
passes for an address. -/
theorem validated_local_iff (text : UrlText) (cfg : List (String × Json))
    (h : Validated text cfg) : ServedLocally text cfg ↔ NoLookalike text cfg := by
  obtain ⟨router, hRouter, -, hRoles⟩ := validated_roles h
  constructor
  · intro hServed router' hRouter' resolved hMem host hHost hLooks
    obtain rfl := Except.ok.inj (hRouter.symm.trans hRouter')
    obtain ⟨host', hHost', hTaken⟩ := (hRoles resolved hMem hHost.1).2.2 hHost.2.1
    obtain ⟨host'', hHost'', hLocal⟩ := hServed router hRouter resolved hMem hHost.1 hHost.2.1
    obtain rfl := hHost.unique hHost'
    obtain rfl := hHost.unique hHost''
    exact (localHost_iff hTaken).1 hLocal hLooks
  · intro hNone router' hRouter' resolved hMem hEnabled hCompat
    obtain rfl := Except.ok.inj (hRouter.symm.trans hRouter')
    obtain ⟨host, hHost, hTaken⟩ := (hRoles resolved hMem hEnabled).2.2 hCompat
    exact ⟨host, hHost, (localHost_iff hTaken).2 (hNone router hRouter resolved hMem host hHost)⟩

end Profiles

/-! ## Two profiles -/

namespace Sample

/-- Text functions for ASCII, without a check of addresses in brackets; decimal digits are the
ASCII ones. -/
def urlText : UrlText where
  toPyText := text
  lower s := String.ofList (s.toList.map asciiLower)
  netlocRefused _ := false
  decimal c := if Regex.inRange '0' '9' c then some (c.toNat - 48) else none
  conversionError _ := "..."
  decimal_ascii c h := if_pos h
  ascii_notSpace c h := by
    show (c == ' ') = false
    rw [beq_eq_false_iff_ne]
    rintro rfl
    cases h

def serverRole (url : String) : Json :=
  .obj [("provider", .str "openai_compat"), ("model", .str "Qwen2.5-32B-Instruct"),
    ("base_url", .str url), ("served_via", .str "local"), ("temperature", .float 0)]

/-- The local profile with one server behind three guardians, the telemetry off and the model
hub offline. -/
def localProfile (url : String) : List (String × Json) :=
  [("profile", .str "local"),
    ("air_gap", .obj [("telemetry", .obj [("chroma_anonymized_telemetry", .bool false),
      ("langsmith_tracing", .bool false), ("langchain_tracing_v2", .bool false),
      ("huggingface_hub_offline", .bool true), ("transformers_offline", .bool true)])]),
    ("guardians", .obj [
      ("defender", .obj [("provider", .str "local"), ("model", .str "Llama-Prompt-Guard-2-86M"),
        ("served_via", .str "local")]),
      ("evaluator", serverRole url), ("supervisor", serverRole url),
      ("auditor", serverRole url)])]

theorem validated_of_results {cfg : List (String × Json)}
    (h : (validateLocalProfileConfig urlText cfg).toOption.map
      (fun results => results.all fun result => decide (result.status = .pass)) = some true) :
    Validated urlText cfg := by
  cases hResults : validateLocalProfileConfig urlText cfg with
  | error exc =>
      rw [hResults] at h
      cases h
  | ok results =>
      rw [hResults] at h
      refine ⟨results, hResults, fun result hMem => ?_⟩
      exact of_decide_eq_true (List.all_eq_true.1 (Option.some.inj h) result hMem)

end Sample

/-- The profile of a cluster. -/
theorem validated_local_iff_sample :
    Validated Sample.urlText (Sample.localProfile "http://vllm.shield.svc:8000/v1") ∧
      (ServedLocally Sample.urlText (Sample.localProfile "http://vllm.shield.svc:8000/v1") ↔
        NoLookalike Sample.urlText (Sample.localProfile "http://vllm.shield.svc:8000/v1")) := by
  have hValid : Validated Sample.urlText (Sample.localProfile "http://vllm.shield.svc:8000/v1") :=
    Sample.validated_of_results (by decide +kernel)
  exact ⟨hValid, validated_local_iff Sample.urlText _ hValid⟩

/-- A public name that begins with `10.` is accepted, since the check compares the first
characters of the host before it is known to be an address. -/
theorem public_host_accepted :
    Validated Sample.urlText (Sample.localProfile "http://10.evil.com/v1") ∧
      (∃ parsed, urlparse Sample.urlText "http://10.evil.com/v1" = .ok parsed ∧
        parsed.hostname Sample.urlText = some "10.evil.com") ∧ ¬ LocalHost "10.evil.com" ∧
      ¬ ServedLocally Sample.urlText (Sample.localProfile "http://10.evil.com/v1") := by
  have hValid : Validated Sample.urlText (Sample.localProfile "http://10.evil.com/v1") :=
    Sample.validated_of_results (by decide +kernel)
  have hParsed : urlparse Sample.urlText "http://10.evil.com/v1" =
      .ok ⟨"http", "10.evil.com".toList⟩ := by
    decide +kernel
  have hHost : ParsedUrl.hostname Sample.urlText ⟨"http", "10.evil.com".toList⟩ =
      some "10.evil.com" := by
    decide +kernel
  have hPublic : ¬ LocalHost "10.evil.com" := by
    have hNoLiteral : ipv4? "10.evil.com" = none := by decide +kernel
    rintro (hLoopback | ⟨a, b, c, d, hLiteral, -⟩ | hCluster)
    · exact absurd hLoopback (by decide)
    · rw [hNoLiteral] at hLiteral
      cases hLiteral
    · have hNone : ∀ suffix ∈ localEndpointSuffixes,
          ¬ suffix.toList <:+ "10.evil.com".toList := by
        decide
      obtain ⟨suffix, hMem, hSuffix⟩ := hCluster
      exact hNone suffix hMem hSuffix
  have hRole : (shieldModelRouter Sample.urlText
      (Sample.localProfile "http://10.evil.com/v1")).toOption.map
        (fun router => router.roles.any fun r => decide (r.enabled = true ∧
          r.provider = .openaiCompat ∧ r.baseUrl = some "http://10.evil.com/v1")) = some true := by
    decide +kernel
  refine ⟨hValid, ⟨_, hParsed, hHost⟩, hPublic, fun hServed => ?_⟩
  cases hRouter : shieldModelRouter Sample.urlText
      (Sample.localProfile "http://10.evil.com/v1") with
  | error exc =>
      rw [hRouter] at hRole
      cases hRole
  | ok router =>
      rw [hRouter] at hRole
      obtain ⟨resolved, hMem, hIs⟩ := List.any_eq_true.1 (Option.some.inj hRole)
      obtain ⟨hEnabled, hCompat, hUrl⟩ := of_decide_eq_true hIs
      obtain ⟨host, hEndpoint, hLocal⟩ := hServed router hRouter resolved hMem hEnabled hCompat
      have hThis : EndpointHost Sample.urlText resolved "10.evil.com" :=
        ⟨hEnabled, hCompat, _, _, hUrl, hParsed, hHost⟩
      exact hPublic (hEndpoint.unique hThis ▸ hLocal)

end AgentShield.Governance
