import AgentShield.Sdk.Schema

/-!
# Limits, names and errors of the server

The constants of the server's configuration, and the errors that a handler can
end with.  An `AppError` is an error of the API with its status, code, message
and details; the other failures are exceptions of the storage, of a model's
validation and of the governance app that no handler catches.
-/

namespace AgentShield.Server

open AgentShield.Sdk

def maxPayloadSize : Nat := 256 * 1024
def maxTtlMs : Int := 300000
def minTtlMs : Int := 1000
def maxNonceLength : Nat := 64
def elydoraKid : String := "elydora-server-key-v1"
def shieldKid : String := "shield-server-key-v1"
def actionsStreamPrefix : String := "shield:actions"
def verdictsStreamPrefix : String := "shield:verdicts"
def consumerGroups : List String := ["shield-evaluator", "shield-auditor"]

inductive ErrorCode where
  | invalidSignature
  | unknownAgent
  | keyRevoked
  | agentFrozen
  | ttlExpired
  | replayDetected
  | prevHashMismatch
  | payloadTooLarge
  | rateLimited
  | internalError
  | unauthorized
  | forbidden
  | notFound
  | validationError
  | enterpriseModeSignupDisabled
  deriving DecidableEq, Repr

/-- The default message of a code, which an error may replace by one of its own. -/
def errorCodes : ErrorCode → String
  | .invalidSignature => "The operation signature is invalid."
  | .unknownAgent => "The specified agent does not exist."
  | .keyRevoked => "The signing key has been revoked."
  | .agentFrozen => "The agent is frozen and cannot submit operations."
  | .ttlExpired => "The operation TTL has expired."
  | .replayDetected => "A duplicate nonce was detected (replay attack)."
  | .prevHashMismatch => "The previous chain hash does not match."
  | .payloadTooLarge => "The operation payload exceeds the maximum allowed size."
  | .rateLimited => "Too many requests. Please retry later."
  | .internalError => "An internal server error occurred."
  | .unauthorized => "Authentication is required."
  | .forbidden => "You do not have permission to perform this action."
  | .notFound => "The requested resource was not found."
  | .validationError => "The request failed validation."
  | .enterpriseModeSignupDisabled =>
      "Self-service sign-up is disabled in enterprise mode. " ++
      "New users must arrive via invite from an org admin."

structure AppError where
  statusCode : Nat
  errorCode : ErrorCode
  message : String
  details : Option (List (String × Json)) := none
  deriving DecidableEq

/-- An error with the default message of its code. -/
def AppError.plain (statusCode : Nat) (code : ErrorCode) : AppError :=
  { statusCode := statusCode, errorCode := code, message := errorCodes code }

/-- An error with a message of its own. -/
def AppError.withMessage (statusCode : Nat) (code : ErrorCode) (message : String) : AppError :=
  { statusCode := statusCode, errorCode := code, message := message }

/-- A constraint that the database refused an insert for, with the table it belongs to. -/
inductive Constraint where
  | primaryKey (table : String)
  | unique (table : String)
  | foreignKey (table : String)
  deriving DecidableEq, Repr

/-- What a handler can end with besides a result: an error with a code and a status, an error
of the database, of a backend, of validation or of a look-up, or one that the governance app
has raised. -/
inductive Failure where
  | app (e : AppError)
  | database (c : Constraint)
  | backend
  | validation
  | lookup
  | governance
  deriving DecidableEq

/-- A check of a validator: ends it with `e` when `c` holds. -/
def refuseIf (c : Prop) [Decidable c] (e : Failure) : Except Failure Unit :=
  if c then .error e else .ok ()

theorem refuseIf_bind_ok {α : Type} {c : Prop} [Decidable c] {e : Failure}
    {next : Unit → Except Failure α} {a : α} :
    (refuseIf c e >>= next) = .ok a ↔ ¬ c ∧ next () = .ok a := by
  unfold refuseIf
  split <;> simp_all [bind, Except.bind]

theorem refuseIf_ok {c : Prop} [Decidable c] {e : Failure} :
    refuseIf c e = .ok () ↔ ¬ c := by
  unfold refuseIf
  split <;> simp_all

/-! ## Required texts -/

/-- Python's white space. -/
def isSpace (c : Char) : Bool :=
  let n := c.toNat
  (9 ≤ n && n ≤ 13) || (28 ≤ n && n ≤ 32) || n == 0x85 || n == 0xA0 || n == 0x1680 ||
    (0x2000 ≤ n && n ≤ 0x200A) || n == 0x2028 || n == 0x2029 || n == 0x202F ||
    n == 0x205F || n == 0x3000

/-- `value.strip() == ""`. -/
def blank (value : String) : Bool := value.toList.all isSpace

/-- Every named text is present, or an error that names the first that is not. -/
def requireFields : List (String × String) → Except Failure Unit
  | [] => .ok ()
  | (field, value) :: rest => do
      refuseIf (blank value = true) (.app (.withMessage 400 .validationError
        ("Missing required field: " ++ field)))
      requireFields rest

/-- The error of a failed check names a field that is missing. -/
theorem requireFields_bind_ok {α : Type} {fields : List (String × String)}
    {next : Unit → Except Failure α} {a : α} :
    (requireFields fields >>= next) = .ok a ↔
      (∀ f ∈ fields, blank f.2 = false) ∧ next () = .ok a := by
  induction fields with
  | nil =>
      show next () = .ok a ↔ _
      simp
  | cons f rest ih =>
      obtain ⟨field, value⟩ := f
      by_cases hBlank : blank value = true
      · simp [requireFields, refuseIf, hBlank, bind, Except.bind]
      · have hRest : (requireFields ((field, value) :: rest) >>= next) =
            (requireFields rest >>= next) := by
          simp [requireFields, refuseIf, hBlank, bind, Except.bind]
        rw [hRest, ih]
        simp [hBlank]

theorem requireFields_error {fields : List (String × String)} {e : Failure}
    (h : requireFields fields = .error e) :
    ∃ f ∈ fields, blank f.2 = true ∧ e = .app (.withMessage 400 .validationError
      ("Missing required field: " ++ f.1)) := by
  induction fields with
  | nil => simp [requireFields] at h
  | cons f rest ih =>
      obtain ⟨field, value⟩ := f
      by_cases hBlank : blank value = true
      · refine ⟨(field, value), by simp, hBlank, ?_⟩
        have hErr := h
        simp only [requireFields, refuseIf, hBlank, if_true, bind, Except.bind] at hErr
        exact (Except.error.inj hErr).symm
      · have hRest : requireFields rest = .error e := by
          simpa [requireFields, refuseIf, hBlank, bind, Except.bind] using h
        obtain ⟨f, hf, hfBlank, hfErr⟩ := ih hRest
        exact ⟨f, List.mem_cons_of_mem _ hf, hfBlank, hfErr⟩

end AgentShield.Server
