import AgentShield.Governance.Rules

/-!
# The Defender's scanners

A scanner and an analyzer are open functions that may raise: the engine takes any.
The ones of the package are defined here.  Two of them are adapters, of a firewall and of
a policy of other packages, whose answers are open.
-/

namespace AgentShield.Governance

open AgentShield.Lib AgentShield.Sdk

/-- What a scanner finds in a text: whether it blocks or asks for a human, and the reason with
its score. -/
structure ScanFinding where
  blocked : Bool
  escalate : Bool
  label : String
  detail : String
  score : PyFloat
  deriving DecidableEq

/-- `scan_text(text, kind=...)`. -/
abbrev InjectionScanner := String → String → Except PyError ScanFinding

/-- One violation that an analyser of traces finds. -/
structure PolicyViolation where
  label : String
  detail : String
  deriving DecidableEq

/-- `analyze(trace)`. -/
abbrev StructuringAnalyzer := List Json → Except PyError (List PolicyViolation)

/-- The scanner that lets every text pass. -/
def nullInjectionScanner : InjectionScanner := fun _ _ =>
  .ok { blocked := false, escalate := false, label := "scanner.disabled", detail := "", score := 0 }

section CodeShield

open Regex

variable (text : PyText)

def word (s : String) : Regex := literal id s

/-- The patterns of dangerous code, with their labels, in the order in which they are searched
for; the first that is found is the finding. -/
def dangerousCodePatterns : List (String × Regex) :=
  [("eval_exec",
     concat [edge text, oneOf (word "eval") [word "exec", word "compile"], spaces text,
       word "("]),
   ("dunder_import", concat [edge text, word "__import__", spaces text, word "("]),
   ("os_system",
     concat [edge text, word "os", spaces text, word ".", spaces text,
       oneOf (word "system")
         [word "popen",
          concat [word "exec", opt (char fun c => c == 'l' || c == 'v'),
            star (char fun c => c == 'p' || c == 'e')],
          seq (word "spawn") (star (char text.isWord)),
          word "remove", word "unlink"],
       edge text]),
   ("subprocess",
     concat [edge text, word "subprocess", spaces text, word ".", spaces text,
       plus (char text.isWord)]),
   ("dangerous_import",
     concat [edge text, oneOf (word "import") [word "from"], plus (char text.isSpace),
       oneOf (word "os") [word "subprocess", word "sys", word "shutil", word "socket",
         word "pty", word "ctypes"],
       edge text]),
   ("shell_backticks", concat [word "`", plus (char fun c => c.toNat != 96), word "`"]),
   ("shell_rm_rf",
     concat [edge text, word "rm", plus (char text.isSpace), word "-rf", edge text])]

/-- The first pattern that is found in the text; an empty text is not searched. -/
def scanCode (s kind : String) : ScanFinding :=
  match if s = "" then none else (dangerousCodePatterns text).find? fun p => p.2.search s with
  | some (label, _) =>
      { blocked := true
        escalate := false
        label := "scanner.code." ++ kind
        detail := "dangerous-code pattern (" ++ label ++ ") in free-text " ++ kind
        score := .finite 1 }
  | none =>
      { blocked := false, escalate := false, label := "scanner.code.clean", detail := "",
        score := 0 }

/-- The scanner for code, which only searches for patterns. -/
def codeShieldScanner : InjectionScanner := fun s kind => .ok (scanCode text s kind)

end CodeShield

/-! ## Triggers and the firewall -/

/-- `t in s`. -/
def occursIn (t s : String) : Bool := s.toList.tails.any fun rest => t.toList.isPrefixOf rest

/-- The scanner of the tests, which blocks on given words wherever they occur in the text. -/
def fakeInjectionScanner (text : PyText) (triggers : List String) : InjectionScanner :=
  fun s kind =>
    match triggers.find? (occursIn · s) with
    | some t => .ok
        { blocked := true
          escalate := false
          label := "scanner.injection." ++ kind
          detail := "matched " ++ text.reprValue (.str t)
          score := .finite 1 }
    | none => .ok
        { blocked := false, escalate := false, label := "scanner.clean", detail := "", score := 0 }

inductive ScanDecision where
  | allow
  | humanInTheLoopRequired
  | block
  deriving DecidableEq

/-- What the firewall answers: its decision, its reason and its score, which are passed on
unchanged. -/
structure ScanResult where
  decision : ScanDecision
  reason : String
  score : PyFloat
  deriving DecidableEq

/-- The firewall's answer as a finding: a block, a review by a human, or nothing.  The reason
is kept in every case. -/
def ScanResult.finding (result : ScanResult) (kind : String) : ScanFinding :=
  match result.decision with
  | .block =>
      { blocked := true
        escalate := false
        label := "scanner.injection." ++ kind
        detail := result.reason
        score := result.score }
  | .humanInTheLoopRequired =>
      { blocked := false
        escalate := true
        label := "scanner.review." ++ kind
        detail := result.reason
        score := result.score }
  | .allow =>
      { blocked := false
        escalate := false
        label := "scanner.clean"
        detail := result.reason
        score := result.score }

/-- The scanner over the third-party firewall, which may fail. -/
def llamaFirewallScanner (scanAsync : String → Except PyError ScanResult) : InjectionScanner :=
  fun s kind => (scanAsync s).map fun result => result.finding kind

/-! ## Analyzers -/

/-- The tool calls of an event. -/
def toolCalls (event : Json) : List Json :=
  match event.field? "tool_calls" with
  | some (.arr calls) => calls
  | _ => []

/-- The number of `send_money` calls in a trace. -/
def sendMoneyCalls (trace : List Json) : Nat :=
  (trace.flatMap toolCalls).countP fun call =>
    (call.field? "function").bind (·.field? "name") == some (.str "send_money")

/-- The analyser of the tests, which counts the transfers of a trace. -/
def fakeStructuringAnalyzer (threshold : Int) : StructuringAnalyzer := fun trace =>
  let n := sendMoneyCalls trace
  if threshold ≤ n then
    .ok [{ label := "invariant.structuring"
           detail := toString n ++ " send_money calls (>= " ++ toString threshold ++ ")" }]
  else .ok []

/-- `errors` are those of the policy over a trace. -/
def localPolicyStructuringAnalyzer (errors : List Json → Except PyError (List String)) :
    StructuringAnalyzer := fun trace =>
  (errors trace).map fun es => es.map fun e => { label := "invariant.policy", detail := e }

/-- The scanners of the package: one that finds nothing, the one of the tests, the adapter of
a firewall outside the repository, and the patterns of dangerous code. -/
inductive ShippedScanner where
  | null
  | fake (triggers : List String)
  | llamaFirewall (scanAsync : String → Except PyError ScanResult)
  | codeShield

def ShippedScanner.scanText (text : PyText) : ShippedScanner → InjectionScanner
  | null => nullInjectionScanner
  | fake triggers => fakeInjectionScanner text triggers
  | llamaFirewall scanAsync => llamaFirewallScanner scanAsync
  | codeShield => codeShieldScanner text

/-- The analyzers of the package. -/
inductive ShippedAnalyzer where
  | fake (threshold : Int)
  | localPolicy (errors : List Json → Except PyError (List String))

def ShippedAnalyzer.analyze : ShippedAnalyzer → StructuringAnalyzer
  | fake threshold => fakeStructuringAnalyzer threshold
  | localPolicy errors => localPolicyStructuringAnalyzer errors

end AgentShield.Governance
